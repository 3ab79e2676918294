import Typecase.Proofs.Resolver.Visit

/-!
# A working set is built once

A demand that is met touches its key, and a failure touches nothing. So the cache holds the keys
that were served last, and a key has to be built again only after as many others were served as
there is room for.
-/

namespace Typecase

variable {σ τ : Type}

/-! ## What a cache recalls -/

/-- The cache holds the keys that were served last, each with the typeface it was served with. -/
structure Recalls (n : Nat) (c : Cache ResourceKey τ) (vs : List (Visit τ)) : Prop where
  capacity : c.capacity = max n 1
  newest : c.HoldsNewest (servedKeys vs)
  last : ∀ e ∈ c.entries, lastServed e.1 vs = some e.2

theorem recalls_new (n : Nat) : Recalls n (.new n) ([] : List (Visit τ)) where
  capacity := rfl
  newest := Cache.holdsNewest_new n
  last := nofun

namespace Recalls

variable {n : Nat} {c c' : Cache ResourceKey τ} {vs : List (Visit τ)} {v : Visit τ}

theorem pos (h : Recalls n c vs) : 0 < c.capacity := by
  rw [h.capacity]
  omega

theorem of_alike (h : Recalls n c vs) (hsame : c'.Alike c) : Recalls n c' vs := by
  obtain ⟨hentries, hcapacity⟩ := hsame
  refine ⟨?_, ?_, ?_⟩
  · rw [hcapacity]
    exact h.capacity
  · unfold Cache.HoldsNewest Cache.keys
    rw [hentries, hcapacity]
    exact h.newest
  · rw [hentries]
    exact h.last

theorem idle (h : Recalls n c vs) (hv : v.served = none) : Recalls n c (vs ++ [v]) := by
  refine ⟨h.capacity, ?_, ?_⟩
  · rw [servedKeys_snoc, hv]
    simpa using h.newest
  · intro e he
    rw [lastServed_snoc, Visit.servedUnder, hv]
    exact h.last e he

theorem last_promoted (h : Recalls n c vs) {key : ResourceKey} {typeface : τ}
    (hv : v.served = some (key, typeface)) {rest : List (ResourceKey × τ)}
    (hrest : ∀ e ∈ rest, e ∈ c.entries ∧ e.1 ≠ key) :
    ∀ e ∈ (key, typeface) :: rest, lastServed e.1 (vs ++ [v]) = some e.2 := by
  intro e he
  rw [lastServed_snoc, Visit.servedUnder, hv]
  rcases List.mem_cons.mp he with rfl | hmem
  · simp
  · obtain ⟨hold, hne⟩ := hrest e hmem
    simp [hne.symm, h.last e hold]

theorem get (h : Recalls n c vs) {key : ResourceKey} {typeface : τ}
    (hlookup : c.entries.lookup key = some typeface) (hv : v.served = some (key, typeface)) :
    Recalls n (c.get key).2 (vs ++ [v]) := by
  have hnewest := Cache.holdsNewest_step h.pos h.newest (.get key)
  simp only [Cache.step, Cache.get_fst, hlookup, Cache.touched] at hnewest
  refine ⟨?_, ?_, ?_⟩
  · rw [Cache.capacity_get]
    exact h.capacity
  · rw [servedKeys_snoc, hv]
    exact hnewest
  · rw [Cache.get_of_lookup hlookup]
    apply h.last_promoted hv
    intro e he
    rwa [Cache.without, List.mem_filter, bne_iff_ne] at he

theorem insert (h : Recalls n c vs) {key : ResourceKey} {typeface : τ}
    (hv : v.served = some (key, typeface)) : Recalls n (c.insert key typeface).2 (vs ++ [v]) := by
  have hnewest := Cache.holdsNewest_step h.pos h.newest (.insert key typeface)
  simp only [Cache.step, Cache.touched] at hnewest
  refine ⟨?_, ?_, ?_⟩
  · rw [Cache.capacity_insert]
    exact h.capacity
  · rw [servedKeys_snoc, hv]
    exact hnewest
  · rw [Cache.entries_insert]
    exact h.last_promoted hv fun e he => Cache.ne_of_mem_older he

theorem meet (h : Recalls n c vs) (r : Resolver σ τ) (d : Demand) {desk : Desk σ τ}
    (hdesk : desk.cache = c) :
    Recalls n (r.meet d desk).2.cache (vs ++ [⟨d, (r.meet d desk).1⟩]) := by
  subst hdesk
  cases hkey : d.key? with
  | none =>
    obtain ⟨outcome, -, hcache⟩ := r.meet_of_unknown desk hkey
    rw [hcache]
    exact h.idle (by simp [Visit.served, hkey])
  | some key =>
    cases hlookup : desk.cache.entries.lookup key with
    | some typeface =>
      obtain ⟨notes, hmeet⟩ := r.meet_of_kept hkey hlookup
      rw [hmeet]
      exact h.get hlookup (by simp [Visit.served, hkey])
    | none =>
      -- A look-up that finds nothing leaves the order, so the build goes on from there.
      have hmissed : Recalls n (desk.cache.get key).2 vs := by
        apply h.of_alike
        rw [Cache.get_of_missing hlookup]
        exact ⟨rfl, rfl⟩
      rcases r.meet_of_missing hkey hlookup with
        ⟨typeface, hreply, hcache⟩ | ⟨why, hreply, hcache⟩
      · rw [hcache, hreply]
        exact hmissed.insert (by simp [Visit.served, hkey, Except.toOption])
      · rw [hcache, hreply]
        exact hmissed.idle (by simp [Visit.served, hkey, Except.toOption])

theorem last_served (h : Recalls n c vs) {key : ResourceKey} {typeface : τ}
    (hlookup : c.entries.lookup key = some typeface) :
    ∃ older v newer, vs = older ++ v :: newer ∧ v.served = some (key, typeface) ∧
      key ∉ servedKeys newer := by
  have hlast := h.last (key, typeface) (Cache.mem_of_lookup hlookup)
  rw [lastServed, Cache.getLast?_filterMap_eq_some_iff] at hlast
  obtain ⟨older, v, newer, hsplit, hv, hnewer⟩ := hlast
  refine ⟨older, v, newer, hsplit, (v.servedUnder_eq_some_iff key typeface).mp hv, ?_⟩
  rw [mem_servedKeys_iff]
  rintro ⟨v', hmem, typeface', hserved⟩
  have hunder := (v'.servedUnder_eq_some_iff key typeface').mpr hserved
  rw [hnewer v' hmem] at hunder
  cases hunder

/-- A key that is gone has been followed by as many others as there is room for. -/
theorem room_le_since (h : Recalls n c vs) {key : ResourceKey}
    (hlookup : c.entries.lookup key = none) (hserved : key ∈ servedKeys vs) :
    max n 1 ≤ (Cache.since key (servedKeys vs)).toFinset.card := by
  have hgone : key ∉ c.keys := (Cache.lookup_eq_none_iff c key).mp hlookup
  have hnewest := h.newest
  unfold Cache.HoldsNewest at hnewest
  rw [hnewest, h.capacity, Cache.mem_take_recency] at hgone
  by_contra hfew
  exact hgone ⟨hserved, by omega⟩

end Recalls

/-! ## Runs -/

namespace Resolver

def visits (r : Resolver σ τ) (demands : List Demand) (desk : Desk σ τ) : List (Visit τ) :=
  demands.zipWith Visit.mk (r.meetAll demands desk).1

theorem visits_cons (r : Resolver σ τ) (d : Demand) (ds : List Demand) (desk : Desk σ τ) :
    r.visits (d :: ds) desk =
      ⟨d, (r.meet d desk).1⟩ :: r.visits ds (r.meet d desk).2 := by
  simp only [visits, meetAll, List.mapM_cons, Act.bind_apply, Act.pure_apply,
    List.zipWith_cons_cons]

/-- Each visit of a run happens at a desk whose cache recalls the visits before it. -/
theorem exists_desk_of_visits {r : Resolver σ τ} {n : Nat} {demands : List Demand}
    {desk : Desk σ τ} {vs before after : List (Visit τ)} {v : Visit τ}
    (hrecalls : Recalls n desk.cache vs) (h : r.visits demands desk = before ++ v :: after) :
    ∃ desk' : Desk σ τ, (r.meet v.demand desk').1 = v.reply ∧
      Recalls n desk'.cache (vs ++ before) := by
  induction before generalizing demands desk vs with
  | nil =>
    obtain _ | ⟨d, ds⟩ := demands
    · simp [visits] at h
    rw [visits_cons, List.nil_append, List.cons.injEq] at h
    obtain ⟨rfl, -⟩ := h
    exact ⟨desk, rfl, by simpa using hrecalls⟩
  | cons first before ih =>
    obtain _ | ⟨d, ds⟩ := demands
    · simp [visits] at h
    rw [visits_cons, List.cons_append, List.cons.injEq] at h
    obtain ⟨rfl, hrest⟩ := h
    obtain ⟨desk', hreply, hkept⟩ := ih (hrecalls.meet r d rfl) hrest
    rw [List.append_assoc] at hkept
    exact ⟨desk', hreply, hkept⟩

section

variable {r : Resolver σ τ} {d : Demand} {desk : Desk σ τ}

/-- Only a key that is remembered is found. -/
theorem found_cases {typeface : τ} (h : (r.meet d desk).1 = .found (some typeface)) :
    ∃ key, d.key? = some key ∧ desk.cache.entries.lookup key = some typeface := by
  cases hkey : d.key? with
  | none =>
    obtain ⟨outcome, hreply, -⟩ := r.meet_of_unknown desk hkey
    rw [hreply] at h
    cases h
  | some key =>
    cases hlookup : desk.cache.entries.lookup key with
    | some typeface' =>
      obtain ⟨notes, hmeet⟩ := r.meet_of_kept hkey hlookup
      rw [hmeet] at h
      cases h
      exact ⟨key, rfl, hlookup⟩
    | none =>
      rcases r.meet_of_missing hkey hlookup with ⟨typeface', hreply, -⟩ | ⟨why, hreply, -⟩
      · rw [hreply] at h
        cases h
      · rw [hreply] at h
        cases h

/-- Only a key that is not remembered is built. -/
theorem lookup_of_built {key : ResourceKey} (hkey : d.key? = some key) {typeface : τ}
    (h : (r.meet d desk).1 = .built (.ok typeface)) : desk.cache.entries.lookup key = none := by
  cases hlookup : desk.cache.entries.lookup key with
  | none => rfl
  | some typeface' =>
    obtain ⟨notes, hmeet⟩ := r.meet_of_kept hkey hlookup
    rw [hmeet] at h
    cases h

end

theorem room_le_since_of_built {r : Resolver σ τ} {n : Nat} {scene : Scene σ}
    {demands : List Demand} {before after : List (Visit τ)} {v : Visit τ} {key : ResourceKey}
    (h : r.visits demands ⟨.new n, scene⟩ = before ++ v :: after) (hbuilt : v.built = some key)
    (hserved : key ∈ servedKeys before) :
    max n 1 ≤ (Cache.since key (servedKeys before)).toFinset.card := by
  obtain ⟨desk, hreply, hrecalls⟩ := exists_desk_of_visits (recalls_new n) h
  rw [List.nil_append] at hrecalls
  obtain ⟨demand, reply⟩ := v
  match reply with
  | .built (.ok typeface) => exact hrecalls.room_le_since (lookup_of_built hbuilt hreply) hserved
  | .built (.error why) => simp [Visit.built] at hbuilt
  | .found typeface => simp [Visit.built] at hbuilt

/-- All keys that are served fit into the cache, so the one that is built has not been served. -/
theorem not_served_of_built {r : Resolver σ τ} {n : Nat} {scene : Scene σ}
    {demands : List Demand} {before after : List (Visit τ)} {v : Visit τ} {key : ResourceKey}
    (h : r.visits demands ⟨.new n, scene⟩ = before ++ v :: after) (hbuilt : v.built = some key)
    {keys : Finset ResourceKey} (hcard : keys.card ≤ max n 1)
    (hkeys : ∀ key ∈ servedKeys before, key ∈ keys) : key ∉ servedKeys before := by
  intro hserved
  have hroom := room_le_since_of_built h hbuilt hserved
  have hsub : (Cache.since key (servedKeys before)).toFinset ⊆ keys.erase key := by
    intro other hother
    rw [List.mem_toFinset] at hother
    have hne : other ≠ key := by
      rintro rfl
      exact Cache.not_mem_since _ _ hother
    exact Finset.mem_erase.mpr ⟨hne, hkeys other (Cache.since_subset _ _ hother)⟩
  have hcount := Finset.card_le_card hsub
  have hlt := Finset.card_erase_lt_of_mem (hkeys key hserved)
  omega

theorem nodup_builtKeys {r : Resolver σ τ} {n : Nat} {scene : Scene σ} {demands : List Demand}
    {keys : Finset ResourceKey} (hcard : keys.card ≤ max n 1) {before after : List (Visit τ)}
    (h : r.visits demands ⟨.new n, scene⟩ = before ++ after)
    (hkeys : ∀ key ∈ servedKeys before, key ∈ keys) : (builtKeys before).Nodup := by
  induction before using List.reverseRecOn generalizing after with
  | nil => simp [builtKeys]
  | append_singleton before v ih =>
    rw [List.append_assoc, List.singleton_append] at h
    have hkeys' : ∀ key ∈ servedKeys before, key ∈ keys := by
      intro key hmem
      apply hkeys
      rw [servedKeys_snoc]
      exact List.mem_append_left _ hmem
    have hbefore := ih h hkeys'
    unfold builtKeys at *
    rw [List.filterMap_append]
    cases hbuilt : v.built with
    | none => simpa [hbuilt] using hbefore
    | some key =>
      have hnew : key ∉ servedKeys before := not_served_of_built h hbuilt hcard hkeys'
      have hnot : key ∉ before.filterMap Visit.built := by
        intro hmem
        obtain ⟨v', hv', hbuilt'⟩ := List.mem_filterMap.mp hmem
        obtain ⟨typeface, hserved⟩ := Visit.served_of_built hbuilt'
        exact hnew ((mem_servedKeys_iff before key).mpr ⟨v', hv', typeface, hserved⟩)
      have hsingle : [v].filterMap Visit.built = [key] := by simp [hbuilt]
      rw [hsingle, List.nodup_append]
      refine ⟨hbefore, by simp, ?_⟩
      rintro x hx y hy rfl
      rw [List.mem_singleton] at hy
      exact hnot (hy ▸ hx)

/-- **Built once.** A demand that is met from the cache asks for the name of a package and nothing
else, and gets the typeface that its key was served with last. A key that has to be built again was
followed by as many other keys as the cache has room for. So no key is built twice if all keys that
are served fit into the cache. -/
theorem resident_keys_are_built_once (r : Resolver σ τ) :
    (∀ (d : Demand) (desk : Desk σ τ) (typeface : τ),
      (r.meet d desk).1 = .found (some typeface) →
      ∃ notes, (r.meet d desk).2.scene =
        { desk.scene with calls := desk.scene.calls ++ [.package d.id], notes }) ∧
    ∀ (n : Nat) (scene : Scene σ) (demands : List Demand),
      let vs := r.visits demands ⟨.new n, scene⟩
      (∀ before v after, vs = before ++ v :: after →
        (∀ typeface, v.reply = .found (some typeface) →
          ∃ key older last newer, v.demand.key? = some key ∧ before = older ++ last :: newer ∧
            last.served = some (key, typeface) ∧ key ∉ servedKeys newer) ∧
        ∀ key older last newer typeface, v.built = some key → before = older ++ last :: newer →
          last.served = some (key, typeface) → key ∉ servedKeys newer →
          max n 1 ≤ (servedKeys newer).toFinset.card) ∧
      ∀ keys : Finset ResourceKey, keys.card ≤ max n 1 →
        (∀ key ∈ servedKeys vs, key ∈ keys) → (builtKeys vs).Nodup := by
  refine ⟨?_, fun n scene demands => ⟨?_, ?_⟩⟩
  · intro d desk typeface h
    obtain ⟨key, hkey, hlookup⟩ := found_cases h
    obtain ⟨notes, hmeet⟩ := r.meet_of_kept hkey hlookup
    exact ⟨notes, by rw [hmeet]; rfl⟩
  · intro before v after h
    refine ⟨?_, ?_⟩
    · intro typeface hfound
      obtain ⟨desk, hreply, hrecalls⟩ := exists_desk_of_visits (recalls_new n) h
      obtain ⟨key, hkey, hlookup⟩ := found_cases (hreply.trans hfound)
      obtain ⟨older, last, newer, hsplit, hlast, hnewer⟩ := hrecalls.last_served hlookup
      exact ⟨key, older, last, newer, hkey, hsplit, hlast, hnewer⟩
    · intro key older last newer typeface hbuilt hsplit hlast hnewer
      have hkeys : servedKeys before = servedKeys older ++ key :: servedKeys newer := by
        simp [hsplit, servedKeys, hlast]
      have hroom := room_le_since_of_built h hbuilt (by simp [hkeys])
      rwa [hkeys, Cache.since_append_cons hnewer, List.toFinset_reverse] at hroom
  · intro keys hcard hkeys
    exact nodup_builtKeys hcard (List.append_nil _).symm hkeys

/-! ## A run -/

def boldOf (id : ResourceId) (stream : Stream) : Demand where
  resources := bundle "a" stream
  id
  style := .bold
  dir := ⟨"/"⟩

def boldKey (id : ResourceId) : ResourceKey := ⟨"a", id, .bold⟩

/-- Font 5 is used again before font 8 comes, so it is font 6 that has to go. Font 7 is broken. -/
def fontRounds : List Demand := [
  boldOf 5 [.data (bareFont 1)],
  boldOf 6 [.data (bareFont 2)],
  boldOf 5 [.data (bareFont 1)],
  boldOf 7 [.fails "disk on fire"],
  boldOf 8 [.data (bareFont 4)],
  boldOf 6 [.data (bareFont 2)]]

def roundReplies : List (Reply (Handle FontData)) := [
  .built (.ok ⟨0, ⟨bareFont 1, 0, 1000⟩⟩),
  .built (.ok ⟨1, ⟨bareFont 2, 0, 1000⟩⟩),
  .found (some ⟨0, ⟨bareFont 1, 0, 1000⟩⟩),
  .built (.error (.fault (.staging (.write ⟨"/.font7-3-0"⟩ (.reported "disk on fire"))))),
  .built (.ok ⟨2, ⟨bareFont 4, 0, 1000⟩⟩),
  .built (.ok ⟨3, ⟨bareFont 2, 0, 1000⟩⟩)]

theorem replies_fontRounds : (stagedFonts.meetAll fontRounds (freshDesk 2)).1 = roundReplies := by
  decide +kernel

theorem replies_firstRounds :
    (stagedFonts.meetAll (fontRounds.take 3) (freshDesk 2)).1 = roundReplies.take 3 := by
  decide +kernel

/-- The first three rounds have two keys and build each once. The second of them is built again at
last, after two others. -/
theorem font_is_built_again :
    let rounds := fontRounds.zipWith Visit.mk roundReplies
    let newer := (rounds.drop 2).take 3
    stagedFonts.visits (fontRounds.take 3) (freshDesk 2) = rounds.take 3 ∧
      (∀ key ∈ servedKeys (rounds.take 3), key ∈ ({boldKey 5, boldKey 6} : Finset ResourceKey)) ∧
      (builtKeys (rounds.take 3)).Nodup ∧
      stagedFonts.visits fontRounds (freshDesk 2) = rounds ∧
      (∃ key older last newer, (boldOf 5 [.data (bareFont 1)]).key? = some key ∧
        rounds.take 2 = older ++ last :: newer ∧
        last.served = some (key, ⟨0, ⟨bareFont 1, 0, 1000⟩⟩) ∧ key ∉ servedKeys newer) ∧
      servedKeys newer = [boldKey 5, boldKey 8] ∧ boldKey 6 ∉ servedKeys newer ∧
      max 2 1 ≤ (servedKeys newer).toFinset.card := by
  intro rounds newer
  have hfirst : stagedFonts.visits (fontRounds.take 3) (freshDesk 2) = rounds.take 3 := by
    rw [visits, replies_firstRounds]
    rfl
  have hrun : stagedFonts.visits fontRounds (freshDesk 2) = rounds := by
    rw [visits, replies_fontRounds]
  have hfound : stagedFonts.visits fontRounds (freshDesk 2) = rounds.take 2 ++
      ⟨boldOf 5 [.data (bareFont 1)], .found (some ⟨0, ⟨bareFont 1, 0, 1000⟩⟩)⟩ ::
        rounds.drop 3 := by
    rw [hrun]
    rfl
  have hagain : stagedFonts.visits fontRounds (freshDesk 2) = rounds.take 5 ++
      ⟨boldOf 6 [.data (bareFont 2)], .built (.ok ⟨3, ⟨bareFont 2, 0, 1000⟩⟩)⟩ :: [] := by
    rw [hrun]
    rfl
  have hearlier : rounds.take 5 = rounds.take 1 ++
      ⟨boldOf 6 [.data (bareFont 2)], .built (.ok ⟨1, ⟨bareFont 2, 0, 1000⟩⟩)⟩ :: newer := rfl
  have hnot : boldKey 6 ∉ servedKeys newer := by decide
  have hkeys : ∀ key ∈ servedKeys (rounds.take 3),
      key ∈ ({boldKey 5, boldKey 6} : Finset ResourceKey) := by decide
  have honce := (resident_keys_are_built_once stagedFonts).2 2 (freshDesk 2).scene
  refine ⟨hfirst, hkeys, ?_, hrun, ?_, by decide, hnot, ?_⟩
  · have hset := (honce (fontRounds.take 3)).2 {boldKey 5, boldKey 6} (by decide)
    exact hfirst ▸ hset (hfirst ▸ hkeys)
  · exact ((honce fontRounds).1 _ _ _ hfound).1 _ rfl
  · exact ((honce fontRounds).1 _ _ _ hagain).2 (boldKey 6) _ _ newer _ rfl hearlier rfl hnot

end Resolver

end Typecase

import Typecase.Factory.FontData
import Typecase.Factory.Handle
import Typecase.Proofs.Cache.History
import Typecase.Resolver.Lemmas

/-!
# What a resolver finds, told by its requests alone

A request works on the cache by one call at most, so the requests of a run replay as a list of
cache calls. What is found under a key is then what was built for that key last.
-/

namespace Typecase

variable {σ τ : Type}

/-! ## Events -/

structure Event (τ : Type) where
  request : Request
  reply : Reply τ

/-- The event has built a typeface for a key: from a font file or a family, while the package had
the name in the key. -/
inductive Event.Supplies : Event τ → ResourceKey → τ → Prop
  | fontFile {dir : Path} {resources : Resources} {id : ResourceId} {style : Style}
      {package : String} {typeface : τ} (h : resources.packageName id = .ok package) :
      Supplies ⟨.fontFile dir resources id style, .built (.ok typeface)⟩ ⟨package, id, style⟩
        typeface
  | family {dir : Path} {family : Family} {resources : Resources} {id : ResourceId} {style : Style}
      {package : String} {typeface : τ} (h : resources.packageName id = .ok package) :
      Supplies ⟨.family dir family resources id style, .built (.ok typeface)⟩ ⟨package, id, style⟩
        typeface

def storing (resources : Resources) (id : ResourceId) (style : Style) :
    Reply τ → Option (Cache.Op ResourceKey τ)
  | .built (.ok typeface) => (resources.key? id style).map (.insert · typeface)
  | _ => none

/-- The call that the event has made on the cache, if it has made one. -/
def Event.cacheOp : Event τ → Option (Cache.Op ResourceKey τ)
  | ⟨.find resources id style, _⟩ => (resources.key? id style).map .get
  | ⟨.fontFile _ resources id style, reply⟩ => storing resources id style reply
  | ⟨.family _ _ resources id style, reply⟩ => storing resources id style reply
  | ⟨.offers .., _⟩ => none

theorem Resources.key?_eq_some_iff (resources : Resources) (id : ResourceId) (style : Style)
    (key : ResourceKey) :
    resources.key? id style = some key ↔
      ∃ package, resources.packageName id = .ok package ∧ key = ⟨package, id, style⟩ := by
  rw [Resources.key?]
  cases resources.packageName id with
  | error why => simp [Except.toOption]
  | ok package => simp [Except.toOption, eq_comm]

theorem storing_eq_some_iff (resources : Resources) (id : ResourceId) (style : Style)
    (reply : Reply τ) (key : ResourceKey) (typeface : τ) :
    storing resources id style reply = some (.insert key typeface) ↔
      reply = .built (.ok typeface) ∧
        ∃ package, resources.packageName id = .ok package ∧ key = ⟨package, id, style⟩ := by
  rw [← Resources.key?_eq_some_iff]
  match reply with
  | .built (.ok t) =>
    simp only [storing, Option.map_eq_some_iff, Cache.Op.insert.injEq, Reply.built.injEq,
      Except.ok.injEq]
    constructor
    · rintro ⟨k, hk, rfl, rfl⟩
      exact ⟨rfl, hk⟩
    · rintro ⟨rfl, hk⟩
      exact ⟨key, hk, rfl, rfl⟩
  | .built (.error why) => simp [storing]
  | .found t => simp [storing]

theorem Event.cacheOp_eq_insert_iff (e : Event τ) (key : ResourceKey) (typeface : τ) :
    e.cacheOp = some (.insert key typeface) ↔ e.Supplies key typeface := by
  constructor
  · intro h
    obtain ⟨request, reply⟩ := e
    cases request with
    | find resources id style => simp [cacheOp] at h
    | fontFile dir resources id style =>
      obtain ⟨rfl, package, hpackage, rfl⟩ := (storing_eq_some_iff ..).mp h
      exact .fontFile hpackage
    | family dir family resources id style =>
      obtain ⟨rfl, package, hpackage, rfl⟩ := (storing_eq_some_iff ..).mp h
      exact .family hpackage
    | offers dir offers buffers => simp [cacheOp] at h
  · rintro (h | h)
    · exact (storing_eq_some_iff ..).mpr ⟨rfl, _, h, rfl⟩
    · exact (storing_eq_some_iff ..).mpr ⟨rfl, _, h, rfl⟩

theorem Event.stores_iff (e : Event τ) (key : ResourceKey) (typeface : τ) :
    e.cacheOp.bind (Cache.stored key) = some typeface ↔ e.Supplies key typeface := by
  rw [← cacheOp_eq_insert_iff, Option.bind_eq_some_iff]
  simp only [Cache.stored_eq_some_iff, exists_eq_right]

namespace Resolver

def events (r : Resolver σ τ) (requests : List Request) (desk : Desk σ τ) : List (Event τ) :=
  requests.zipWith Event.mk (r.performAll requests desk).1

theorem events_cons (r : Resolver σ τ) (q : Request) (qs : List Request) (desk : Desk σ τ) :
    r.events (q :: qs) desk =
      ⟨q, (r.perform q desk).1⟩ :: r.events qs (r.perform q desk).2 := by
  simp [events, performAll_cons]

theorem cache_buildAndRemember (resources : Resources) (id : ResourceId) (style : Style)
    (build : Act σ (Except (Halt TypefaceFault) τ)) (desk : Desk σ τ) :
    let made := buildAndRemember resources id style build desk
    made.2.cache = (desk.cache.run (storing resources id style (.built made.1)).toList).2 := by
  cases h : resources.packageName id with
  | error why => simp [buildAndRemember_of_unknown h, storing, Cache.run]
  | ok package =>
    cases hbuild : (build (desk.scene.asked id)).1 with
    | error why => simp [buildAndRemember_of_fault h hbuild, storing, Cache.run]
    | ok typeface =>
      obtain ⟨notes, hmade⟩ := buildAndRemember_of_built style h hbuild
      simp [hmade, storing, Resources.key?, h, Except.toOption, Cache.run, Cache.step]

/-- A request makes the call on the cache that its event tells, and no other. -/
theorem cache_perform (r : Resolver σ τ) (q : Request) (desk : Desk σ τ) :
    (r.perform q desk).2.cache =
      (desk.cache.run (Event.cacheOp ⟨q, (r.perform q desk).1⟩).toList).2 := by
  cases q with
  | find resources id style =>
    cases h : resources.packageName id with
    | error why => simp [perform_find, find_of_unknown h, Event.cacheOp, Resources.key?, h,
        Except.toOption, Cache.run]
    | ok package =>
      obtain ⟨notes, hfind⟩ := find_of_known h style desk
      simp [perform_find, hfind, Event.cacheOp, Resources.key?, h, Except.toOption, Cache.run,
        Cache.step]
  | fontFile dir resources id style => exact cache_buildAndRemember resources id style _ desk
  | family dir family resources id style => exact cache_buildAndRemember resources id style _ desk
  | offers dir offers buffers => rfl

/-! ## Runs -/

/-- Each event of a run happens at a desk whose cache is the replay of the events before it. -/
theorem exists_desk_of_events {r : Resolver σ τ} {requests : List Request} {desk : Desk σ τ}
    {before after : List (Event τ)} {e : Event τ}
    (h : r.events requests desk = before ++ e :: after) :
    ∃ desk' : Desk σ τ, (r.perform e.request desk').1 = e.reply ∧
      desk'.cache = (desk.cache.run (before.filterMap Event.cacheOp)).2 := by
  -- The first request of a run is its first event, so the run is taken apart as the events are.
  induction before generalizing requests desk with
  | nil =>
    obtain _ | ⟨q, qs⟩ := requests
    · simp [events] at h
    rw [events_cons, List.nil_append, List.cons.injEq] at h
    obtain ⟨rfl, -⟩ := h
    exact ⟨desk, rfl, rfl⟩
  | cons first before ih =>
    obtain _ | ⟨q, qs⟩ := requests
    · simp [events] at h
    rw [events_cons, List.cons_append, List.cons.injEq] at h
    obtain ⟨rfl, hrest⟩ := h
    obtain ⟨desk', hreply, hcache⟩ := ih hrest
    refine ⟨desk', hreply, ?_⟩
    have hops : ∀ first : Event τ, (first :: before).filterMap Event.cacheOp =
        first.cacheOp.toList ++ before.filterMap Event.cacheOp := by
      intro first
      cases hop : first.cacheOp <;> simp [hop]
    rw [hcache, cache_perform, hops, Cache.run_append]

theorem find_eq_some {resources : Resources} {id : ResourceId} {style : Style} {desk : Desk σ τ}
    {typeface : τ} (h : (find resources id style desk).1 = some typeface) :
    ∃ package, resources.packageName id = .ok package ∧
      desk.cache.entries.lookup ⟨package, id, style⟩ = some typeface := by
  cases hpackage : resources.packageName id with
  | error why => simp [find_of_unknown hpackage] at h
  | ok package =>
    obtain ⟨notes, hfind⟩ := find_of_known hpackage style desk
    rw [hfind, Cache.get_fst] at h
    exact ⟨package, rfl, h⟩

/-- **Coherence.** What is found is what was built last for the same resource and style, at a time
when its package had the name it has now. -/
theorem found_was_supplied_last (r : Resolver σ τ) (capacity : Nat) (scene : Scene σ)
    (requests : List Request) {before after : List (Event τ)} {resources : Resources}
    {id : ResourceId} {style : Style} {typeface : τ}
    (h : r.events requests ⟨.new capacity, scene⟩ =
      before ++ ⟨.find resources id style, .found (some typeface)⟩ :: after) :
    ∃ package, resources.packageName id = .ok package ∧
      ∃ older e newer, before = older ++ e :: newer ∧
        e.Supplies ⟨package, id, style⟩ typeface ∧
        ∀ e' ∈ newer, ∀ typeface', ¬ e'.Supplies ⟨package, id, style⟩ typeface' := by
  obtain ⟨desk, hreply, hcache⟩ := exists_desk_of_events h
  rw [perform_find, Reply.found.injEq] at hreply
  obtain ⟨package, hpackage, hlookup⟩ := find_eq_some hreply
  refine ⟨package, hpackage, ?_⟩
  rw [hcache] at hlookup
  have hlast := Cache.lookup_run hlookup
  rw [Cache.lastStored, List.filterMap_filterMap, Cache.getLast?_filterMap_eq_some_iff] at hlast
  obtain ⟨older, e, newer, hsplit, he, hnewer⟩ := hlast
  refine ⟨older, e, newer, hsplit, (e.stores_iff _ _).mp he, ?_⟩
  intro e' hmem typeface' hsupplies
  have := (e'.stores_iff _ _).mpr hsupplies
  rw [hnewer e' hmem] at this
  cases this

/-! ## A run -/

/-- A font without tables, and one byte that tells it from others. -/
def bareFont (mark : UInt8) : Bytes := [0, 1, 0, 0, 0, 0, 0, 0, 0, 0, 0, 0, mark]

/-- Resources of one package that all hold the same stream. -/
def bundle (package : String) (stream : Stream) : Resources where
  packageName _ := .ok package
  openRaw _ := .ok stream

def stagedFonts : Resolver Nat (Handle FontData) where
  factory := Factory.fontData.handing
  strategy := .staged
  stager := { identity := ⟨7, 3⟩ }

def freshDesk (capacity : Nat) : Desk Nat (Handle FontData) :=
  ⟨.new capacity, { files := .empty, outside := 0 }⟩

/-- A package is renamed after a build and gets its name back. A build that fails comes between. -/
def renamedRun : List Request := [
  .fontFile ⟨"/"⟩ (bundle "a" [.data (bareFont 1)]) 5 .bold,
  .fontFile ⟨"/"⟩ (bundle "b" [.data (bareFont 2)]) 5 .bold,
  .fontFile ⟨"/"⟩ (bundle "a" [.data (bareFont 3), .fails "disk on fire"]) 5 .bold,
  .find (bundle "a" []) 5 .bold]

theorem replies_renamedRun :
    (stagedFonts.performAll renamedRun (freshDesk 2)).1 = [
      .built (.ok ⟨0, ⟨bareFont 1, 0, 1000⟩⟩),
      .built (.ok ⟨1, ⟨bareFont 2, 0, 1000⟩⟩),
      .built (.error (.fault (.staging (.write ⟨"/.font7-3-0"⟩ (.reported "disk on fire"))))),
      .found (some ⟨0, ⟨bareFont 1, 0, 1000⟩⟩)] := by
  decide +kernel

theorem found_after_renaming :
    let before := (stagedFonts.events renamedRun (freshDesk 2)).take 3
    let font : Handle FontData := ⟨0, ⟨bareFont 1, 0, 1000⟩⟩
    stagedFonts.events renamedRun (freshDesk 2) =
        before ++ ⟨.find (bundle "a" []) 5 .bold, .found (some font)⟩ :: [] ∧
      ∃ package, (bundle "a" []).packageName 5 = .ok package ∧
        ∃ older e newer, before = older ++ e :: newer ∧ e.Supplies ⟨package, 5, .bold⟩ font ∧
          ∀ e' ∈ newer, ∀ font', ¬ e'.Supplies ⟨package, 5, .bold⟩ font' := by
  have h : stagedFonts.events renamedRun (freshDesk 2) =
      (stagedFonts.events renamedRun (freshDesk 2)).take 3 ++
        ⟨.find (bundle "a" []) 5 .bold, .found (some ⟨0, ⟨bareFont 1, 0, 1000⟩⟩)⟩ :: [] := by
    rw [events, replies_renamedRun]
    rfl
  exact ⟨h, found_was_supplied_last stagedFonts 2 _ renamedRun h⟩

end Resolver

end Typecase

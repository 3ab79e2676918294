import Typecase.Proofs.Resolver.History
import Typecase.Resolver.Demand

/-!
# Visits: how a demand is met

A demand is met from the cache if its key is there. Only then there is no build, and only a build
that succeeds is stored.
-/

namespace Typecase

variable {σ τ : Type}

/-! ## Visits -/

def Demand.key? (d : Demand) : Option ResourceKey := d.resources.key? d.id d.style

/-- A demand with the reply to it. -/
structure Visit (τ : Type) where
  demand : Demand
  reply : Reply τ

namespace Visit

/-- The typeface that the visit came away with, and its key. -/
def served (v : Visit τ) : Option (ResourceKey × τ) :=
  v.demand.key?.bind fun key =>
    match v.reply with
    | .found typeface => typeface.map (key, ·)
    | .built outcome => outcome.toOption.map (key, ·)

/-- The key that the visit had to build a typeface for, if it could be built. -/
def built (v : Visit τ) : Option ResourceKey :=
  match v.reply with
  | .built (.ok _) => v.demand.key?
  | _ => none

def servedUnder (key : ResourceKey) (v : Visit τ) : Option τ :=
  v.served.bind fun s => if s.1 = key then some s.2 else none

theorem servedUnder_eq_some_iff (v : Visit τ) (key : ResourceKey) (typeface : τ) :
    v.servedUnder key = some typeface ↔ v.served = some (key, typeface) := by
  unfold servedUnder
  cases v.served with
  | none => simp
  | some s =>
    obtain ⟨key', typeface'⟩ := s
    simp

theorem served_of_built {v : Visit τ} {key : ResourceKey} (h : v.built = some key) :
    ∃ typeface, v.served = some (key, typeface) := by
  obtain ⟨demand, reply⟩ := v
  match reply with
  | .built (.ok typeface) =>
    have hkey : demand.key? = some key := h
    exact ⟨typeface, by simp [served, hkey, Except.toOption]⟩
  | .built (.error why) => simp [built] at h
  | .found typeface => simp [built] at h

end Visit

/-- The keys that were served, in order. -/
def servedKeys (vs : List (Visit τ)) : List ResourceKey :=
  vs.filterMap fun v => v.served.map (·.1)

def builtKeys (vs : List (Visit τ)) : List ResourceKey := vs.filterMap Visit.built

/-- The typeface that was served last under a key. -/
def lastServed (key : ResourceKey) (vs : List (Visit τ)) : Option τ :=
  (vs.filterMap (Visit.servedUnder key)).getLast?

theorem servedKeys_snoc (vs : List (Visit τ)) (v : Visit τ) :
    servedKeys (vs ++ [v]) = servedKeys vs ++ (v.served.map (·.1)).toList := by
  unfold servedKeys
  rw [List.filterMap_append]
  cases h : v.served <;> simp [h]

theorem lastServed_snoc (key : ResourceKey) (vs : List (Visit τ)) (v : Visit τ) :
    lastServed key (vs ++ [v]) = (v.servedUnder key).or (lastServed key vs) :=
  Cache.getLast?_filterMap_snoc (Visit.servedUnder key) vs v

theorem mem_servedKeys_iff (vs : List (Visit τ)) (key : ResourceKey) :
    key ∈ servedKeys vs ↔ ∃ v ∈ vs, ∃ typeface, v.served = some (key, typeface) := by
  simp [servedKeys]

/-! ## One visit -/

namespace Resolver

theorem meet_of_kept (r : Resolver σ τ) {d : Demand} {key : ResourceKey} {desk : Desk σ τ}
    {typeface : τ} (hkey : d.key? = some key)
    (hlookup : desk.cache.entries.lookup key = some typeface) :
    ∃ notes, r.meet d desk = (.found (some typeface),
      ⟨(desk.cache.get key).2, { desk.scene.asked d.id with notes }⟩) := by
  obtain ⟨package, hpackage, rfl⟩ := (d.resources.key?_eq_some_iff d.id d.style key).mp hkey
  obtain ⟨notes, hfind⟩ := find_of_known hpackage d.style desk
  refine ⟨notes, ?_⟩
  simp only [meet, Act.bind_apply, hfind, Cache.get_fst, hlookup, Act.pure_apply]

theorem create_eq (r : Resolver σ τ) (d : Demand) :
    ∃ build, r.create d = buildAndRemember d.resources d.id d.style build := by
  unfold create
  cases d.recipe with
  | fontFile => exact ⟨_, rfl⟩
  | family family => exact ⟨_, rfl⟩

theorem meet_of_not_found (r : Resolver σ τ) {d : Demand} {desk desk' : Desk σ τ}
    (hfind : find d.resources d.id d.style desk = (none, desk')) :
    ∃ outcome, (r.meet d desk).1 = .built outcome ∧
      (r.meet d desk).2.cache =
        (desk'.cache.run (storing d.resources d.id d.style (.built outcome)).toList).2 := by
  obtain ⟨build, hcreate⟩ := r.create_eq d
  refine ⟨(r.create d desk').1, ?_, ?_⟩
  · simp only [meet, Act.bind_apply, hfind, Act.pure_apply]
  · simp only [meet, Act.bind_apply, hfind, Act.pure_apply, hcreate]
    exact cache_buildAndRemember d.resources d.id d.style build desk'

/-- A key that is not remembered has to be built. Its typeface is stored if that succeeds. -/
theorem meet_of_missing (r : Resolver σ τ) {d : Demand} {key : ResourceKey} {desk : Desk σ τ}
    (hkey : d.key? = some key) (hlookup : desk.cache.entries.lookup key = none) :
    (∃ typeface, (r.meet d desk).1 = .built (.ok typeface) ∧
      (r.meet d desk).2.cache = ((desk.cache.get key).2.insert key typeface).2) ∨
    ∃ why, (r.meet d desk).1 = .built (.error why) ∧
      (r.meet d desk).2.cache = (desk.cache.get key).2 := by
  have hkey' : d.resources.key? d.id d.style = some key := hkey
  obtain ⟨package, hpackage, rfl⟩ := (d.resources.key?_eq_some_iff d.id d.style key).mp hkey
  obtain ⟨notes, hfind⟩ := find_of_known hpackage d.style desk
  rw [Cache.get_fst, hlookup] at hfind
  obtain ⟨outcome, hreply, hcache⟩ := r.meet_of_not_found hfind
  cases outcome with
  | ok typeface =>
    refine .inl ⟨typeface, hreply, ?_⟩
    rw [hcache, storing, hkey']
    rfl
  | error why => exact .inr ⟨why, hreply, hcache⟩

theorem meet_of_unknown (r : Resolver σ τ) {d : Demand} (desk : Desk σ τ) (hkey : d.key? = none) :
    ∃ outcome, (r.meet d desk).1 = .built outcome ∧ (r.meet d desk).2.cache = desk.cache := by
  have hkey' : d.resources.key? d.id d.style = none := hkey
  cases hpackage : d.resources.packageName d.id with
  | ok package => simp [Resources.key?, hpackage, Except.toOption] at hkey'
  | error why =>
    obtain ⟨outcome, hreply, hcache⟩ := r.meet_of_not_found (find_of_unknown hpackage d.style desk)
    refine ⟨outcome, hreply, hcache.trans ?_⟩
    cases outcome with
    | ok typeface =>
      rw [storing, hkey']
      rfl
    | error why => rfl

end Resolver

end Typecase

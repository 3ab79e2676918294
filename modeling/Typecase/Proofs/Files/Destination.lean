import Typecase.Proofs.Files.Sight

/-!
# Where paths lead

A path leads to one place at most, and its steps alone say to which. The store only decides whether
the way there is open.
-/

namespace Typecase

/-! ## Places by steps -/

/-- The place one step further. An empty step or `.` stays, `..` goes back. -/
def Place.follow (place : Place) (step : String) : Place :=
  if step = "" ∨ step = "." then place
  else if step = ".." then place.tail
  else step :: place

/-- The place that a path leads to, if all directories on its way are there. -/
def Path.place (p : Path) : Place := p.steps.foldl Place.follow []

theorem Place.foldl_follow_of_empty (place : Place) {steps : List String}
    (h : ∀ step ∈ steps, step = "") : steps.foldl Place.follow place = place := by
  induction steps with
  | nil => rfl
  | cons step rest ih =>
    rw [List.foldl_cons, Place.follow, if_pos (.inl (h step List.mem_cons_self))]
    exact ih fun step' hmem => h step' (List.mem_cons_of_mem _ hmem)

namespace Store

variable {s : Store} {p : Path} {place : Place}

theorem foldl_follow_of_walk {steps : List String} {dir : Place} {name : String} {slashed : Bool}
    (h : s.walk place steps = .ok (.child dir name slashed)) :
    steps.foldl Place.follow place = name :: dir := by
  induction steps generalizing place with
  | nil => cases h
  | cons step rest ih =>
    unfold walk at h
    rw [List.foldl_cons, Place.follow]
    split_ifs at h ⊢ with hstay hback hlast
    · exact ih h
    · exact ih h
    -- All that follows the last name is empty, so the walk ends there.
    · obtain ⟨rfl, rfl, -⟩ := by simpa using h
      exact Place.foldl_follow_of_empty _ (by simpa using hlast)
    · cases hlook : s.look (step :: place) with
      | none => simp [hlook] at h
      | some node =>
        cases node with
        | file b => simp [hlook] at h
        | directory =>
          rw [hlook] at h
          exact ih h

theorem Names.eq_place (h : s.Names p place) : place = p.place := by
  obtain ⟨dir, name, rfl, hfind, -⟩ := h
  unfold find at hfind
  split at hfind
  · cases hfind
  · exact (foldl_follow_of_walk hfind).symm

/-! ## Paths that are open -/

/-- The way to the path's place is open, and a file can have its name. -/
def Reaches (s : Store) (p : Path) : Prop := s.Names p p.place

theorem names_iff : s.Names p place ↔ s.Reaches p ∧ place = p.place := by
  constructor
  · intro h
    have hplace := h.eq_place
    subst hplace
    exact ⟨h, rfl⟩
  · rintro ⟨h, rfl⟩
    exact h

theorem Reaches.of_directories {t : Store} (h : s.Reaches p)
    (hdirs : ∀ place, s.look place = some .directory → t.look place = some .directory) :
    t.Reaches p :=
  Names.of_directories h hdirs

theorem createNew_eq_ok_iff_reaches (t : Store) :
    s.createNew p = .ok t ↔ s.Reaches p ∧ s.look p.place = none ∧ t = s.addFile p.place := by
  rw [createNew_eq_ok_iff]
  constructor
  · rintro ⟨place, hp, hlook, rfl⟩
    obtain ⟨hreach, rfl⟩ := names_iff.mp hp
    exact ⟨hreach, hlook, rfl⟩
  · rintro ⟨hp, hlook, rfl⟩
    exact ⟨p.place, hp, hlook, rfl⟩

end Store

end Typecase

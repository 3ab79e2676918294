import Mathlib.Tactic.SplitIfs
import Typecase.Files.Store.Lemmas

/-!
# What programs see of the files

A path names a place, and `sight` is all that can be seen there. Each file operation is told by the
place that its path names, and two stores with the same sight everywhere answer alike.
-/

namespace Typecase.Store

/-! ## Sight and look -/

theorem sight_eq_none_iff (s : Store) (place : Place) :
    s.sight place = none ↔ s.look place = none := by
  simp [sight]

theorem sight_eq_directory_iff (s : Store) (place : Place) :
    s.sight place = some .directory ↔ s.look place = some .directory := by
  rw [sight]
  cases s.look place with
  | none => simp
  | some node => cases node <;> simp

theorem sight_eq_file_iff (s : Store) (place : Place) (bytes : Bytes) :
    s.sight place = some (.file bytes) ↔
      ∃ b, s.look place = some (.file b) ∧ s.body b = bytes := by
  rw [sight]
  cases s.look place with
  | none => simp
  | some node => cases node <;> simp

theorem sight_of_look_eq {s t : Store} {place : Place} (hlook : t.look place = s.look place)
    (hbody : ∀ b, s.look place = some (.file b) → t.body b = s.body b) :
    t.sight place = s.sight place := by
  rw [sight, sight, hlook]
  cases hs : s.look place with
  | none => rfl
  | some node =>
    cases node with
    | directory => rfl
    | file b => simp [hbody b hs]

theorem sight_remove_self (s : Store) {place : Place} (h : place ≠ []) :
    (s.remove place).sight place = none := by
  rw [sight_eq_none_iff, look_remove_self s h]

theorem sight_remove_of_ne (s : Store) {place other : Place} (h : other ≠ place) :
    (s.remove place).sight other = s.sight other :=
  sight_of_look_eq (look_remove_of_ne s h) fun b _ => body_remove s place b

/-! ## What a path names -/

/-- The path ends at this place, and a file can have its name. -/
def Names (s : Store) (p : Path) (place : Place) : Prop :=
  ∃ dir name, place = name :: dir ∧ s.find p = .ok (.child dir name false) ∧
    name.utf8ByteSize ≤ maxNameBytes

section

variable {s : Store} {p : Path} {place : Place}

theorem Names.ne_root (h : s.Names p place) : place ≠ [] := by
  obtain ⟨dir, name, rfl, -⟩ := h
  simp

theorem Names.unique {other : Place} (h : s.Names p place) (h' : s.Names p other) :
    other = place := by
  obtain ⟨dir, name, rfl, hfind, -⟩ := h
  obtain ⟨dir', name', rfl, hfind', -⟩ := h'
  rw [hfind] at hfind'
  cases hfind'
  rfl

theorem Names.lookChild (h : s.Names p place) :
    ∃ dir name, place = name :: dir ∧ s.find p = .ok (.child dir name false) ∧
      s.lookChild dir name = .ok (s.look place) := by
  obtain ⟨dir, name, rfl, hfind, hname⟩ := h
  exact ⟨dir, name, rfl, hfind, if_neg (Nat.not_lt.mpr hname)⟩

theorem createNew_eq_ok_iff (t : Store) :
    s.createNew p = .ok t ↔
      ∃ place, s.Names p place ∧ s.look place = none ∧ t = s.addFile place := by
  constructor
  · intro h
    unfold createNew at h
    cases hfind : s.find p with
    | error why => simp [hfind, bind, Except.bind] at h
    | ok spot =>
      obtain place | ⟨dir, name, _ | _⟩ := spot
      · simp [hfind, bind, Except.bind] at h
      · by_cases hname : name.utf8ByteSize > maxNameBytes
        · simp [hfind, bind, Except.bind, Store.lookChild, hname] at h
        · cases hlook : s.look (name :: dir) with
          | some node => simp [hfind, bind, Except.bind, Store.lookChild, hname, hlook] at h
          | none =>
            have hadd : s.addFile (name :: dir) = t := by
              simpa [hfind, bind, Except.bind, Store.lookChild, hname, hlook] using h
            exact ⟨_, ⟨dir, name, rfl, hfind, Nat.not_lt.mp hname⟩, hlook, hadd.symm⟩
      · simp [hfind, bind, Except.bind] at h
  · rintro ⟨place, h, hlook, rfl⟩
    obtain ⟨dir, name, rfl, hfind, hchild⟩ := h.lookChild
    simp [createNew, hfind, bind, Except.bind, hchild, hlook]

/-- A file that is there keeps its body, and a new one gets a new body. -/
theorem openEmptied_cases {t : Store} {b : Nat} (h : s.openEmptied p = .ok (b, t)) :
    (∃ place, s.Names p place ∧ s.look place = some (.file b) ∧ t = s.setBody b []) ∨
    ∃ place, s.Names p place ∧ s.look place = none ∧ b = s.bodies.length ∧
      t = s.addFile place := by
  unfold openEmptied at h
  cases hfind : s.find p with
  | error why => simp [hfind, bind, Except.bind] at h
  | ok spot =>
    obtain place | ⟨dir, name, _ | _⟩ := spot
    · simp [hfind, bind, Except.bind] at h
    · by_cases hname : name.utf8ByteSize > maxNameBytes
      · simp [hfind, bind, Except.bind, Store.lookChild, hname] at h
      · have hnames : s.Names p (name :: dir) := ⟨dir, name, rfl, hfind, Nat.not_lt.mp hname⟩
        simp only [hfind, bind, Except.bind, Store.lookChild, if_neg hname] at h
        cases hlook : s.look (name :: dir) with
        | none =>
          rw [hlook] at h
          obtain ⟨rfl, rfl⟩ := by simpa using h
          exact .inr ⟨_, hnames, hlook, rfl, rfl⟩
        | some node =>
          cases node with
          | directory => simp [hlook] at h
          | file b' =>
            rw [hlook] at h
            obtain ⟨rfl, rfl⟩ := by simpa using h
            exact .inl ⟨_, hnames, hlook, rfl⟩
    · simp [hfind, bind, Except.bind] at h

theorem Names.openEmptied (h : s.Names p place) {b : Nat} (hlook : s.look place = some (.file b)) :
    s.openEmptied p = .ok (b, s.setBody b []) := by
  obtain ⟨dir, name, rfl, hfind, hchild⟩ := h.lookChild
  simp [Store.openEmptied, hfind, bind, Except.bind, hchild, hlook]

theorem Names.openExisting_of_none (h : s.Names p place) (hlook : s.look place = none) :
    s.openExisting p = .error .notFound := by
  obtain ⟨dir, name, rfl, hfind, hchild⟩ := h.lookChild
  simp [Store.openExisting, hfind, bind, Except.bind, hchild, hlook]

theorem Names.openExisting_of_look (h : s.Names p place) {node : Node}
    (hlook : s.look place = some node) : s.openExisting p = .ok node := by
  obtain ⟨dir, name, rfl, hfind, hchild⟩ := h.lookChild
  cases node <;> simp [Store.openExisting, hfind, bind, Except.bind, hchild, hlook]

theorem Names.openExisting_of_file (h : s.Names p place) {b : Nat}
    (hlook : s.look place = some (.file b)) : s.openExisting p = .ok (.file b) :=
  h.openExisting_of_look hlook

theorem Names.read (h : s.Names p place) {bytes : Bytes}
    (hsight : s.sight place = some (.file bytes)) : s.read p = .ok bytes := by
  obtain ⟨b, hlook, rfl⟩ := (sight_eq_file_iff s place bytes).mp hsight
  simp [Store.read, h.openExisting_of_file hlook, bind, Except.bind]

theorem Names.unlink_of_file (h : s.Names p place) {b : Nat}
    (hlook : s.look place = some (.file b)) : s.unlink p = .ok (s.remove place) := by
  obtain ⟨dir, name, rfl, hfind, hchild⟩ := h.lookChild
  simp [Store.unlink, hfind, bind, Except.bind, hchild, hlook]

theorem Names.unlink_of_none (h : s.Names p place) (hlook : s.look place = none) :
    s.unlink p = .error .notFound := by
  obtain ⟨dir, name, rfl, hfind, hchild⟩ := h.lookChild
  simp [Store.unlink, hfind, bind, Except.bind, hchild, hlook]

end

/-! ## Walks -/

/-- A walk goes the same way wherever the directories that it passes are still there. -/
theorem walk_of_directories {s t : Store}
    (h : ∀ place, s.look place = some .directory → t.look place = some .directory)
    {place : Place} {steps : List String} {spot : Spot} (hwalk : s.walk place steps = .ok spot) :
    t.walk place steps = .ok spot := by
  induction steps generalizing place with
  | nil => exact hwalk
  | cons step rest ih =>
    unfold walk at hwalk ⊢
    split_ifs at hwalk ⊢
    · exact ih hwalk
    · exact ih hwalk
    · exact hwalk
    · cases hlook : s.look (step :: place) with
      | none => simp [hlook] at hwalk
      | some node =>
        cases node with
        | file b => simp [hlook] at hwalk
        | directory =>
          rw [hlook] at hwalk
          rw [h _ hlook]
          exact ih hwalk

theorem Names.of_directories {s t : Store} {p : Path} {place : Place} (hp : s.Names p place)
    (h : ∀ place, s.look place = some .directory → t.look place = some .directory) :
    t.Names p place := by
  obtain ⟨dir, name, rfl, hfind, hname⟩ := hp
  refine ⟨dir, name, rfl, ?_, hname⟩
  unfold find at hfind ⊢
  split at hfind
  · cases hfind
  · exact walk_of_directories h hfind

/-! ## Stores that show the same -/

/-- Nobody who looks at places can tell the two stores apart. -/
def SameSight (s t : Store) : Prop := ∀ place, t.sight place = s.sight place

theorem SameSight.refl (s : Store) : SameSight s s := fun _ => rfl

theorem SameSight.symm {s t : Store} (h : SameSight s t) : SameSight t s :=
  fun place => (h place).symm

theorem SameSight.trans {s t u : Store} (h : SameSight s t) (h' : SameSight t u) : SameSight s u :=
  fun place => (h' place).trans (h place)

theorem SameSight.look_directory {s t : Store} (h : SameSight s t) {place : Place}
    (hlook : s.look place = some .directory) : t.look place = some .directory := by
  rw [← sight_eq_directory_iff, h, sight_eq_directory_iff]
  exact hlook

theorem SameSight.names {s t : Store} (h : SameSight s t) {p : Path} {place : Place}
    (hp : s.Names p place) : t.Names p place :=
  hp.of_directories fun _ => h.look_directory

theorem SameSight.look_none {s t : Store} (h : SameSight s t) {place : Place}
    (hlook : s.look place = none) : t.look place = none := by
  rw [← sight_eq_none_iff, h, sight_eq_none_iff]
  exact hlook

theorem SameSight.look_file {s t : Store} (h : SameSight s t) {place : Place} {b : Nat}
    (hlook : s.look place = some (.file b)) :
    ∃ b', t.look place = some (.file b') ∧ t.body b' = s.body b := by
  rw [← sight_eq_file_iff, h, sight_eq_file_iff]
  exact ⟨b, hlook, rfl⟩

theorem SameSight.walk {s t : Store} (h : SameSight s t) (place : Place) (steps : List String) :
    t.walk place steps = s.walk place steps := by
  induction steps generalizing place with
  | nil => rfl
  | cons step rest ih =>
    unfold Store.walk
    split_ifs
    · exact ih place
    · exact ih place.tail
    · rfl
    · rfl
    · cases hlook : s.look (step :: place) with
      | none => rw [h.look_none hlook]
      | some node =>
        cases node with
        | directory =>
          rw [h.look_directory hlook]
          exact ih (step :: place)
        | file b =>
          obtain ⟨b', hlook', -⟩ := h.look_file hlook
          rw [hlook']

theorem SameSight.read {s t : Store} (h : SameSight s t) (p : Path) : t.read p = s.read p := by
  have hfind : t.find p = s.find p := by
    unfold find
    split
    · rfl
    · exact h.walk [] p.steps
  unfold Store.read openExisting
  rw [hfind]
  cases s.find p with
  | error why => rfl
  | ok spot =>
    cases spot with
    | directory place => rfl
    | child dir name slashed =>
      by_cases hname : name.utf8ByteSize > maxNameBytes
      · simp only [bind, Except.bind, lookChild, if_pos hname]
      · simp only [bind, Except.bind, lookChild, if_neg hname]
        cases hlook : s.look (name :: dir) with
        | none => rw [h.look_none hlook]
        | some node =>
          cases node with
          | directory => rw [h.look_directory hlook]
          | file b =>
            obtain ⟨b', hlook', hbody⟩ := h.look_file hlook
            rw [hlook']
            cases slashed <;> simp [hbody]

end Typecase.Store

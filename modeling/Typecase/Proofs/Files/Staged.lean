import Typecase.Proofs.Files.Sight

/-!
# One file more

A store with one file more than before differs from it at one place only.
-/

namespace Typecase

namespace Store

/-! ## One file more -/

/-- The store with one more file, at a place where nothing was. -/
def staged (base : Store) (place : Place) (bytes : Bytes) : Store :=
  (base.addFile place).setBody base.bodies.length bytes

theorem addFile_eq_staged (base : Store) (place : Place) :
    base.addFile place = base.staged place [] := by
  simp [staged, addFile, setBody]

theorem setBody_staged (base : Store) (place : Place) (old new : Bytes) :
    (base.staged place old).setBody base.bodies.length new = base.staged place new := by
  simp [staged, setBody]

theorem look_staged_self (base : Store) {place : Place} (h : place ≠ []) (bytes : Bytes) :
    (base.staged place bytes).look place = some (.file base.bodies.length) := by
  rw [staged, look_setBody, look_addFile_self base h]

theorem look_staged_of_ne (base : Store) {place other : Place} (h : other ≠ place) (bytes : Bytes) :
    (base.staged place bytes).look other = base.look other := by
  rw [staged, look_setBody, look_addFile_of_ne base h]

theorem look_remove_staged (base : Store) {place : Place} (hroot : place ≠ [])
    (hnone : base.look place = none) (bytes : Bytes) (other : Place) :
    ((base.staged place bytes).remove place).look other = base.look other := by
  by_cases he : other = place
  · rw [he, look_remove_self _ hroot, hnone]
  · rw [look_remove_of_ne _ he, look_staged_of_ne base he]

theorem body_staged_self (base : Store) (place : Place) (bytes : Bytes) :
    (base.staged place bytes).body base.bodies.length = bytes :=
  body_setBody_self (by simp [addFile]) bytes

theorem sight_staged_self (base : Store) {place : Place} (h : place ≠ []) (bytes : Bytes) :
    (base.staged place bytes).sight place = some (.file bytes) := by
  rw [sight_eq_file_iff]
  exact ⟨_, look_staged_self base h bytes, body_staged_self base place bytes⟩

/-- The new file has a body of its own, so no other file changes with it. -/
theorem sight_staged_of_ne (base : Store) {place other : Place} (h : other ≠ place)
    (bytes : Bytes) : (base.staged place bytes).sight other = base.sight other := by
  apply sight_of_look_eq (look_staged_of_ne base h bytes)
  intro b hlook
  have hb := lt_of_look hlook
  rw [staged, body_setBody_of_ne _ (by omega), body_addFile]

theorem SameSight.staged {s t : Store} (h : SameSight s t) {place : Place} (hp : place ≠ [])
    (bytes : Bytes) : SameSight (s.staged place bytes) (t.staged place bytes) := by
  intro other
  by_cases he : other = place
  · rw [he, sight_staged_self s hp, sight_staged_self t hp]
  · rw [sight_staged_of_ne s he, sight_staged_of_ne t he, h]

/-! ## All places but one -/

/-- The stores show the same at all places but one, where the second may have a file or nothing. -/
def SameElsewhere (place : Place) (s t : Store) : Prop :=
  (∀ other, other ≠ place → t.sight other = s.sight other) ∧ t.sight place ≠ some .directory

theorem sameElsewhere_staged (base : Store) {place : Place} (h : place ≠ []) (bytes : Bytes) :
    SameElsewhere place base (base.staged place bytes) := by
  refine ⟨fun other hne => sight_staged_of_ne base hne bytes, ?_⟩
  rw [sight_staged_self base h]
  simp

theorem SameElsewhere.trans {place : Place} {s t u : Store} (h : SameElsewhere place s t)
    (h' : SameElsewhere place t u) : SameElsewhere place s u :=
  ⟨fun other hne => (h'.1 other hne).trans (h.1 other hne), h'.2⟩

theorem SameElsewhere.names {place : Place} {s t : Store} (h : SameElsewhere place s t) {p : Path}
    (hp : s.Names p place) (hlook : s.look place ≠ some .directory) : t.Names p place := by
  apply hp.of_directories
  intro other hother
  have hne : other ≠ place := by
    rintro rfl
    exact hlook hother
  rw [← sight_eq_directory_iff, h.1 other hne, sight_eq_directory_iff]
  exact hother

theorem sameSight_remove {place : Place} {base s : Store} (hp : place ≠ [])
    (hnone : base.look place = none) (h : SameElsewhere place base s) :
    SameSight base (s.remove place) := by
  intro other
  by_cases he : other = place
  -- Nothing was there before, and nothing is there now.
  · rw [he, sight_remove_self s hp, (sight_eq_none_iff base place).mpr hnone]
  · rw [sight_remove_of_ne s he, h.1 other he]

theorem sameSight_of_nothing {place : Place} {base s : Store} (hnone : base.look place = none)
    (h : SameElsewhere place base s) (hs : s.look place = none) : SameSight base s := by
  intro other
  by_cases he : other = place
  · rw [he, (sight_eq_none_iff s place).mpr hs, (sight_eq_none_iff base place).mpr hnone]
  · exact h.1 other he

/-! ## Files that were opened to be written -/

section

variable {s t : Store} {p : Path} {b : Nat}

theorem setBody_of_openEmptied (h : s.openEmptied p = .ok (b, t)) : t.setBody b [] = t := by
  rcases openEmptied_cases h with ⟨place, -, -, rfl⟩ | ⟨place, -, -, rfl, rfl⟩
  · exact setBody_setBody s b [] []
  · rw [addFile_eq_staged, setBody_staged]

/-- What is written is what is read, whatever the file held before. -/
theorem read_of_openEmptied (h : s.openEmptied p = .ok (b, t)) (bytes : Bytes) :
    (t.setBody b bytes).read p = .ok bytes := by
  rcases openEmptied_cases h with ⟨place, hp, hlook, rfl⟩ | ⟨place, hp, hnone, rfl, rfl⟩
  · rw [setBody_setBody]
    have hp' : (s.setBody b bytes).Names p place := hp.of_directories fun _ hdir => hdir
    exact hp'.read ((sight_eq_file_iff _ _ _).mpr
      ⟨b, hlook, body_setBody_self (lt_of_look hlook) bytes⟩)
  · rw [addFile_eq_staged, setBody_staged]
    have hroot := hp.ne_root
    have hp' := (sameElsewhere_staged s hroot bytes).names hp (by simp [hnone])
    exact hp'.read (sight_staged_self s hroot bytes)

end

end Store

end Typecase

import Typecase.Proofs.Files.Destination
import Typecase.Proofs.Staging.TempFile

/-!
# Owned files

A file with a body of its own can be rewritten and removed, and no other file will show it. A temp
file that is taken has such a file, and nothing that leaves the tree in place takes it away.
-/

namespace Typecase

variable {σ : Type}

namespace Store

/-! ## Changes at one place -/

/-- The place looks like this afterwards, and all others as before. -/
def Becomes (place : Place) (seen : Option Sight) (s t : Store) : Prop :=
  t.sight place = seen ∧ ∀ other, other ≠ place → t.sight other = s.sight other

theorem becomes_staged (s : Store) {place : Place} (h : place ≠ []) (bytes : Bytes) :
    Becomes place (some (.file bytes)) s (s.staged place bytes) :=
  ⟨sight_staged_self s h bytes, fun _ hne => sight_staged_of_ne s hne bytes⟩

theorem becomes_remove (s : Store) {place : Place} (h : place ≠ []) :
    Becomes place none s (s.remove place) :=
  ⟨sight_remove_self s h, fun _ hne => sight_remove_of_ne s hne⟩

/-! ## Bodies that are not shared -/

/-- There is a file at the place, and its body is at no other. -/
def Sole (s : Store) (place : Place) : Prop :=
  ∃ b, s.look place = some (.file b) ∧ ∀ other, s.look other = some (.file b) → other = place

variable {s t : Store} {place other : Place}

theorem becomes_setBody {b : Nat} (hlook : s.look place = some (.file b))
    (hsole : ∀ other, s.look other = some (.file b) → other = place) (bytes : Bytes) :
    Becomes place (some (.file bytes)) s (s.setBody b bytes) := by
  constructor
  · exact (sight_eq_file_iff _ _ _).mpr
      ⟨b, hlook, body_setBody_self (lt_of_look hlook) bytes⟩
  · intro other hne
    refine sight_of_look_eq rfl fun b' hlook' => body_setBody_of_ne s ?_ bytes
    rintro rfl
    exact hne (hsole other hlook')

theorem sole_staged_self (s : Store) (h : place ≠ []) (bytes : Bytes) :
    (s.staged place bytes).Sole place := by
  refine ⟨_, look_staged_self s h bytes, fun other hlook => ?_⟩
  by_cases he : other = place
  · exact he
  -- A file that was there before has an older body.
  · rw [look_staged_of_ne s he] at hlook
    exact absurd (lt_of_look hlook) (Nat.lt_irrefl _)

theorem Sole.remove (h : s.Sole place) (hne : place ≠ other) : (s.remove other).Sole place := by
  obtain ⟨b, hlook, hsole⟩ := h
  refine ⟨b, (look_remove_of_ne s hne).trans hlook, fun place' hlook' => ?_⟩
  by_cases he : place' = other
  · subst he
    by_cases hroot : place' = []
    · subst hroot
      cases hlook'
    · rw [look_remove_self s hroot] at hlook'
      cases hlook'
  · rw [look_remove_of_ne s he] at hlook'
    exact hsole place' hlook'

/-! ## Growth -/

/-- All that was there is still in its place, and no file that was there got a second place. -/
structure Grows (s t : Store) : Prop where
  keeps : ∀ place node, s.look place = some node → t.look place = some node
  fresh : ∀ place b, t.look place = some (.file b) →
    s.look place = some (.file b) ∨ s.bodies.length ≤ b

theorem grows_of_look_eq (h : ∀ place, t.look place = s.look place) : Grows s t where
  keeps place _ hlook := (h place).trans hlook
  fresh place _ hlook := .inl ((h place).symm.trans hlook)

theorem Grows.refl (s : Store) : Grows s s := grows_of_look_eq fun _ => rfl

theorem grows_staged (hroot : place ≠ []) (hnone : s.look place = none) (bytes : Bytes) :
    Grows s (s.staged place bytes) := by
  constructor
  · intro other node hlook
    have hne : other ≠ place := by
      rintro rfl
      rw [hnone] at hlook
      cases hlook
    rw [look_staged_of_ne s hne, hlook]
  · intro other b hlook
    by_cases he : other = place
    · subst he
      rw [look_staged_self s hroot, Option.some.injEq, Node.file.injEq] at hlook
      exact .inr (Nat.le_of_eq hlook)
    · rw [look_staged_of_ne s he] at hlook
      exact .inl hlook

theorem Grows.keeps_directory (h : Grows s t) (place : Place)
    (hlook : s.look place = some .directory) : t.look place = some .directory :=
  h.keeps place _ hlook

theorem Grows.setBody (h : Grows s t) (b : Nat) (bytes : Bytes) : Grows s (t.setBody b bytes) where
  keeps := h.keeps
  fresh := h.fresh

theorem grows_openEmptied {p : Path} {b : Nat} (h : s.openEmptied p = .ok (b, t)) : Grows s t := by
  rcases openEmptied_cases h with ⟨place, -, -, rfl⟩ | ⟨place, hp, hnone, -, rfl⟩
  · exact grows_of_look_eq fun _ => rfl
  · rw [addFile_eq_staged]
    exact grows_staged hp.ne_root hnone []

theorem Grows.sole (h : Grows s t) (hsole : s.Sole place) : t.Sole place := by
  obtain ⟨b, hlook, honly⟩ := hsole
  refine ⟨b, h.keeps place _ hlook, fun other hother => ?_⟩
  rcases h.fresh other b hother with hold | hnew
  · exact honly other hold
  · exact absurd (lt_of_look hlook) (Nat.not_lt.mpr hnew)

/-! ## Temp files that have their file -/

/-- The temp file's path leads to a file with a body of its own. -/
def Owns (s : Store) (t : TempFile) : Prop := s.Reaches t.path ∧ s.Sole t.path.place

theorem Grows.owns (h : Grows s t) {temp : TempFile} (howns : s.Owns temp) : t.Owns temp :=
  ⟨howns.1.of_directories h.keeps_directory, h.sole howns.2⟩

/-- No way leads through a file, so none is closed when it is removed. -/
theorem Reaches.remove {p : Path} (h : s.Reaches p) (hsole : s.Sole place) :
    (s.remove place).Reaches p := by
  obtain ⟨b, hlook, -⟩ := hsole
  apply h.of_directories
  intro other hdir
  have hne : other ≠ place := by
    rintro rfl
    rw [hlook] at hdir
    cases hdir
  rw [look_remove_of_ne s hne, hdir]

theorem owns_staged {p : Path} (hp : s.Reaches p) (hnone : s.look p.place = none) (bytes : Bytes) :
    (s.staged p.place bytes).Owns ⟨p⟩ := by
  have hroot := hp.ne_root
  exact ⟨hp.of_directories (grows_staged hroot hnone bytes).keeps_directory,
    sole_staged_self s hroot bytes⟩

theorem Owns.remove {temp : TempFile} (h : s.Owns temp) (hsole : s.Sole place)
    (hne : temp.path.place ≠ place) : (s.remove place).Owns temp :=
  ⟨h.1.remove hsole, h.2.remove hne⟩

theorem Owns.read {temp : TempFile} (h : s.Owns temp) :
    ∃ bytes, s.sight temp.path.place = some (.file bytes) ∧ s.read temp.path = .ok bytes := by
  obtain ⟨hreach, b, hlook, -⟩ := h
  have hsight := (sight_eq_file_iff s temp.path.place (s.body b)).mpr ⟨b, hlook, rfl⟩
  exact ⟨s.body b, hsight, hreach.read hsight⟩

end Store

end Typecase

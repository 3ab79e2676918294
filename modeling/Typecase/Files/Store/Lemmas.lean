import Typecase.Files.Store

/-!
# What each change of a store does to its places and bodies

`look` says what a place holds and `body` says which bytes a body has. One lemma for each change and
each of the two views.
-/

namespace Typecase.Store

/-! ## Places -/

@[simp] theorem look_root (s : Store) : s.look [] = some .directory := rfl

theorem look_of_ne (s : Store) {place : Place} (h : place ≠ []) :
    s.look place = s.nodes.lookup place := if_neg h

theorem look_addFile_self (s : Store) {place : Place} (h : place ≠ []) :
    (s.addFile place).look place = some (.file s.bodies.length) := by
  simp [look_of_ne _ h, addFile]

theorem look_addFile_of_ne (s : Store) {place other : Place} (h : other ≠ place) :
    (s.addFile place).look other = s.look other := by
  simp [look, addFile, List.lookup_cons, beq_false_of_ne h]

theorem look_addDirectory_self (s : Store) (place : Place) :
    (s.addDirectory place).look place = some .directory := by
  by_cases h : place = []
  · rw [h, look_root]
  · simp [look_of_ne _ h, addDirectory]

theorem look_addDirectory_of_ne (s : Store) {place other : Place} (h : other ≠ place) :
    (s.addDirectory place).look other = s.look other := by
  simp [look, addDirectory, List.lookup_cons, beq_false_of_ne h]

@[simp] theorem look_setBody (s : Store) (b : Nat) (bytes : Bytes) (place : Place) :
    (s.setBody b bytes).look place = s.look place := rfl

/-- Entries that the test drops are not found, and all others still are. -/
theorem lookup_filter_fst {α β : Type} [BEq α] [LawfulBEq α] (test : α → Bool) (k : α) :
    ∀ l : List (α × β), (l.filter (test ·.1)).lookup k = if test k then l.lookup k else none
  | [] => by simp
  | (a, b) :: l => by
    have ih := lookup_filter_fst test k l
    by_cases eq : k = a
    · subst eq
      cases passes : test k <;> simp only [passes] at ih <;> simp [passes, ih]
    · have ne : (k == a) = false := beq_false_of_ne eq
      cases passes : test a <;> simp [List.lookup_cons, passes, ne, ih]

theorem look_keep (s : Store) (test : Place → Bool) {place : Place} (h : place ≠ []) :
    (s.keep test).look place = if test place then s.look place else none := by
  rw [look_of_ne _ h, look_of_ne _ h]
  exact lookup_filter_fst test place s.nodes

theorem look_remove_self (s : Store) {place : Place} (h : place ≠ []) :
    (s.remove place).look place = none := by
  simp [remove, look_keep _ _ h]

theorem look_remove_of_ne (s : Store) {place other : Place} (h : other ≠ place) :
    (s.remove place).look other = s.look other := by
  by_cases root : other = []
  · rw [root, look_root, look_root]
  · simp [remove, look_keep _ _ root, h]

/-! ## Bodies -/

/-- A file that can be seen has a body. -/
theorem lt_of_look {s : Store} {place : Place} {b : Nat} (h : s.look place = some (.file b)) :
    b < s.bodies.length := by
  by_cases root : place = []
  · simp [root] at h
  · rw [look_of_ne _ root, List.lookup_eq_some_iff] at h
    obtain ⟨before, after, split, -⟩ := h
    exact s.file_lt (place, .file b) (by simp [split]) b rfl

@[simp] theorem body_addFile (s : Store) (place : Place) (b : Nat) :
    (s.addFile place).body b = s.body b := by
  simp only [body, addFile, List.getD_eq_getElem?_getD, List.getElem?_append]
  split
  · rfl
  · rename_i past
    rw [List.getElem?_eq_none (Nat.le_of_not_lt past)]
    cases b - s.bodies.length <;> rfl

@[simp] theorem body_addDirectory (s : Store) (place : Place) (b : Nat) :
    (s.addDirectory place).body b = s.body b := rfl

@[simp] theorem body_keep (s : Store) (test : Place → Bool) (b : Nat) :
    (s.keep test).body b = s.body b := rfl

@[simp] theorem body_remove (s : Store) (place : Place) (b : Nat) :
    (s.remove place).body b = s.body b := rfl

theorem body_setBody_self {s : Store} {b : Nat} (h : b < s.bodies.length) (bytes : Bytes) :
    (s.setBody b bytes).body b = bytes := by
  simp [body, setBody, h]

theorem body_setBody_of_ne (s : Store) {b other : Nat} (h : other ≠ b) (bytes : Bytes) :
    (s.setBody b bytes).body other = s.body other := by
  simp [body, setBody, h.symm]

theorem setBody_setBody (s : Store) (b : Nat) (old new : Bytes) :
    (s.setBody b old).setBody b new = s.setBody b new := by
  simp [setBody]

end Typecase.Store

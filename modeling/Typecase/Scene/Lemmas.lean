import Typecase.Scene

/-!
# What actions do to a scene

An action is a function of the scene, so two actions in a row are one function after the other.
-/

namespace Typecase.Act

variable {S σ α β : Type}

@[simp] theorem bind_apply (a : StateM S α) (f : α → StateM S β) (s : S) :
    (a >>= f) s = f (a s).1 (a s).2 := rfl

@[simp] theorem pure_apply (x : α) (s : S) : (pure x : StateM S α) s = (x, s) := rfl

@[simp] theorem get_apply (s : S) : (get : StateM S S) s = (s, s) := rfl

@[simp] theorem modify_apply (f : S → S) (s : S) : (modify f : StateM S Unit) s = ((), f s) := rfl

@[simp] theorem note_apply (n : Note) (s : Scene σ) :
    note n s = ((), { s with notes := s.notes ++ [n] }) := rfl

@[simp] theorem called_apply (c : Call) (s : Scene σ) :
    called c s = ((), { s with calls := s.calls ++ [c] }) := rfl

@[simp] theorem files_apply (s : Scene σ) : files s = (s.files, s) := rfl

@[simp] theorem setFiles_apply (files : Store) (s : Scene σ) :
    setFiles files s = ((), { s with files }) := rfl

end Typecase.Act

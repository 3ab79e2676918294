import Typecase.Family
import Typecase.Files.Store
import Typecase.Note

/-!
# The scene

All that an action can see and change: the files, the state of the outside collaborators, the log,
and the record of the calls that were made to the collaborators.
-/

namespace Typecase

inductive Call where
  | package (id : ResourceId)
  | openResource (id : ResourceId)
  | probe
  /-- The factory was handed a path. `held` is what the file held then. -/
  | buildFile (path : Path) (held : Option Bytes)
  | buildFamily
  | buildBuffers
  | fetch (query : ProviderQuery) (style : Style)
  deriving DecidableEq, Repr

/-- `σ` is whatever the factory and the provider remember between calls. -/
structure Scene (σ : Type) where
  files : Store
  outside : σ
  notes : List Note := []
  calls : List Call := []

abbrev Act (σ α : Type) := StateM (Scene σ) α

namespace Act

variable {σ : Type}

def note (n : Note) : Act σ Unit := modify fun s => { s with notes := s.notes ++ [n] }

def called (c : Call) : Act σ Unit := modify fun s => { s with calls := s.calls ++ [c] }

def files : Act σ Store := return (← get).files

def setFiles (files : Store) : Act σ Unit := modify fun s => { s with files }

end Act

end Typecase

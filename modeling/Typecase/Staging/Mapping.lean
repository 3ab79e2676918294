import Typecase.Staging.Stager

/-!
# Mappings

A mapping shows the bytes of a file without reading it. It holds on to the body, so it stays when
the name is removed or given to another file.
-/

namespace Typecase

/-- A view of a file's body, as long as the file was when it was mapped. -/
structure Mapping where
  body : Nat
  size : Nat
  deriving DecidableEq, Repr

namespace Mapping

/-- The length that the file system gives for a directory. -/
def directorySize : Nat := 4096

/-- Memory is mapped in pages of this many bytes. -/
def pageSize : Nat := 4096

def pages (n : Nat) : Nat := (n + pageSize - 1) / pageSize

/-- The bytes behind a mapping. Where the file has shrunk, its last page goes on with zeros, and
there is nothing to see on the pages after it. -/
def bytes (m : Mapping) (files : Store) : Option Bytes :=
  let held := files.body m.body
  if pages m.size ≤ pages held.length then
    some (held.take m.size ++ List.replicate (m.size - held.length) 0)
  else none

end Mapping

variable {σ : Type}

def mapReadOnly (path : Path) : Act σ (Except StagingFault Mapping) := do
  let files ← Act.files
  match files.openExisting path with
  | .error why => return .error (.map path (.os why))
  | .ok .directory =>
    Act.note (.mapping path Mapping.directorySize)
    return .error (.map path (.os .noDevice))
  | .ok (.file body) =>
    let size := (files.body body).length
    Act.note (.mapping path size)
    return .ok ⟨body, size⟩

/-- Stages a resource and maps it. The temp file is gone when this returns. -/
def Stager.copyResourceToBuffer (s : Stager) (dir : Path) (resources : Resources)
    (id : ResourceId) : Act σ (Except (Halt StagingFault) Mapping) := do
  match ← s.acquire dir with
  | .error why => return .error (.fault why)
  | .ok staged =>
    let answer ← (do
      match ← s.copyResourceToFile staged.path resources id with
      | .error why => return .error why
      | .ok _ => return (← mapReadOnly staged.path).mapError .fault)
    staged.release
    return answer

end Typecase

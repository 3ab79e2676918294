import Typecase.Resources
import Typecase.Staging.TempName

/-!
# Stagers

A stager puts bytes into files. `acquire` takes the first temp name that can be created,
`copyToFile` fills a file from a stream, and a temp file is removed when it is released.
-/

namespace Typecase

/-- The name of a file that its holder has created and must release. -/
structure TempFile where
  path : Path
  deriving DecidableEq, Repr

structure Stager where
  settings : StagingSettings := {}
  identity : Identity
  deriving DecidableEq, Repr

variable {σ : Type}

/-! ## Temp files -/

/-- Removes the file. That it is gone already is as good. -/
def TempFile.release (t : TempFile) : Act σ Unit := do
  match (← Act.files).unlink t.path with
  | .ok files =>
    Act.setFiles files
    Act.note (.stagedFileRemoved t.path)
  | .error .notFound => return ()
  | .error why => Act.note (.stagedFileLeft t.path why)

namespace Stager

def candidate (s : Stager) (dir : Path) (attempt : Nat) : Path :=
  dir.join (tempName s.settings.stem s.identity attempt)

/-- Tries the candidates from `attempt` on, `left` of them. -/
def tryFrom (s : Stager) (dir : Path) (attempt : Nat) :
    (left : Nat) → Act σ (Except StagingFault TempFile)
  | 0 => return .error (.exhausted dir s.settings.maxAttempts)
  | left + 1 => do
    let path := s.candidate dir attempt
    match (← Act.files).createNew path with
    | .ok files =>
      Act.setFiles files
      Act.note (.stagingInto path)
      return .ok ⟨path⟩
    | .error why =>
      Act.note (.candidateRejected path why)
      s.tryFrom dir (attempt + 1) left

/-- Creates a temp file in a directory. A name is only taken if nothing had it before. -/
def acquire (s : Stager) (dir : Path) : Act σ (Except StagingFault TempFile) :=
  s.tryFrom dir 0 s.settings.maxAttempts

/-! ## Copying -/

/-- The largest buffer that can exist, in bytes. -/
def maxBuffer : Nat := 0x7FFFFFFFFFFFFFFF

/-- How large the copy buffer is. It is never empty. -/
def bufferSize (s : Stager) : Nat := max s.settings.chunkSize 1

/-- How a copy went: the bytes copied or why not, and the sizes of the buffers that the stream was
read into, one for each read. -/
structure CopyReport where
  outcome : Except (Halt StagingFault) Nat
  buffers : List Nat
  deriving Repr

def CopyReport.reads (report : CopyReport) : Nat := report.buffers.length

/-- The largest buffer that the stream was read into. Zero if it was not read. -/
def CopyReport.buffer (report : CopyReport) : Nat := report.buffers.max?.getD 0

def copyFailure (path : Path) (why : IoFault) : Act σ (Except (Halt StagingFault) Nat) := do
  Act.note (.copyFailed path why)
  return .error (.fault (.write path why))

/-- Replaces what the file holds by what the stream delivers. After a failure the file holds what
came before it. The file may not open, and reads may fail. A file that has opened takes every
write. -/
def copyToFile (s : Stager) (path : Path) (source : Stream) : Act σ CopyReport := do
  match (← Act.files).openEmptied path with
  | .error why => return ⟨← copyFailure path (.os why), []⟩
  | .ok (body, files) =>
    if maxBuffer < s.bufferSize then
      Act.setFiles files
      return ⟨.error .noBuffer, []⟩
    else
      let pumped := source.pump s.bufferSize
      Act.setFiles (files.setBody body pumped.written)
      match pumped.fault with
      | none => return ⟨.ok pumped.written.length, pumped.buffers⟩
      | some why => return ⟨← copyFailure path why, pumped.buffers⟩

def copyBufferToFile (s : Stager) (path : Path) (bytes : Bytes) :
    Act σ (Except (Halt StagingFault) Nat) :=
  return (← s.copyToFile path (.ofBytes bytes)).outcome

/-- Replaces what the file holds by a resource. A resource that does not open leaves the file. -/
def copyResourceToFile (s : Stager) (path : Path) (resources : Resources) (id : ResourceId) :
    Act σ (Except (Halt StagingFault) Nat) := do
  match ← resources.askStream id with
  | .error why => return .error (.fault (.resource why))
  | .ok stream => return (← s.copyToFile path stream).outcome

end Stager

/-- Flushes a writer for the last time. That this fails is noted and goes no further. -/
def closeQuietly (flush : Act σ (Except IoFault Unit)) : Act σ Unit := do
  match ← flush with
  | .ok () => return ()
  | .error why => Act.note (.closeFailed why)

end Typecase

import Typecase.Files.Fault
import Typecase.Files.Path
import Typecase.ResourceKey
import Typecase.Text.Hex

/-!
# What can go wrong

Each layer has its faults. `message` says a fault in words, `causes` lists the messages of the
faults beneath it, nearest first. Every message ends with the message of the nearest cause.
-/

namespace Typecase

/-- A resource set has no such resource, or cannot read it. -/
inductive ResourceFault where
  | notFound (id : ResourceId)
  | io (cause : IoFault)
  deriving DecidableEq, Repr

inductive StagingFault where
  /-- All candidate names were refused. -/
  | exhausted (dir : Path) (attempts : Nat)
  | write (path : Path) (cause : IoFault)
  | map (path : Path) (cause : IoFault)
  | resource (cause : ResourceFault)
  deriving DecidableEq, Repr

inductive TypefaceFault where
  | resourceNotFound (id : ResourceId)
  | staging (cause : StagingFault)
  | malformed (reason : String)
  | noMatch
  | unsupported (what : String)
  | provider (reason : String)
  | io (cause : IoFault)
  deriving DecidableEq, Repr

/-- A factory could not find out what it supports. -/
structure ProbeFault where
  reason : String
  deriving DecidableEq, Repr

/-! ## Messages and causes -/

namespace ResourceFault

def message : ResourceFault → String
  | notFound id => "Resource not found: " ++ Text.hex id.toNat
  | io cause => "Resource read failed: " ++ cause.message

def causes : ResourceFault → List String
  | notFound _ => []
  | io cause => [cause.message]

end ResourceFault

namespace StagingFault

def message : StagingFault → String
  | exhausted dir attempts =>
    "No temp file available in " ++ dir.text ++ " after " ++ toString attempts ++ " attempts"
  | write path cause => "Failed to write " ++ path.text ++ ": " ++ cause.message
  | map path cause => "Failed to memory-map " ++ path.text ++ ": " ++ cause.message
  | resource cause => "Resource unavailable: " ++ cause.message

def causes : StagingFault → List String
  | exhausted _ _ => []
  | write _ cause => [cause.message]
  | map _ cause => [cause.message]
  | resource cause => cause.message :: cause.causes

end StagingFault

namespace TypefaceFault

def message : TypefaceFault → String
  | resourceNotFound id => "Resource not found: " ++ Text.hex id.toNat
  | staging cause => "Staging failed: " ++ cause.message
  | malformed reason => "Malformed font data: " ++ reason
  | noMatch => "No font in the family matches the request"
  | unsupported what => "Not supported by this factory: " ++ what
  | provider reason => "Font provider failed: " ++ reason
  | io cause => "IO error: " ++ cause.message

def causes : TypefaceFault → List String
  | staging cause => cause.message :: cause.causes
  | io cause => [cause.message]
  | _ => []

end TypefaceFault

def ProbeFault.message (f : ProbeFault) : String := "Capability probe failed: " ++ f.reason

/-! ## From one layer to the next -/

namespace TypefaceFault

def ofResource : ResourceFault → TypefaceFault
  | .notFound id => .resourceNotFound id
  | .io cause => .io cause

/-- A staging fault stays one, unless a resource was the cause. -/
def ofStaging : StagingFault → TypefaceFault
  | .resource cause => ofResource cause
  | other => .staging other

/-- Whatever goes wrong while a font is built is the font's fault. -/
def ofConstruction : TypefaceFault → TypefaceFault
  | malformed reason => .malformed reason
  | other => .malformed other.message

end TypefaceFault

/-! ## Stopping short -/

/-- How a step ends that gives no result: with a fault, or because no buffer of the size it asked
for can exist. The second is no fault that anyone could answer. It ends the run. -/
inductive Halt (ε : Type) where
  | fault (cause : ε)
  | noBuffer
  deriving DecidableEq, Repr

def Halt.map {ε ε' : Type} (f : ε → ε') : Halt ε → Halt ε'
  | fault cause => .fault (f cause)
  | noBuffer => .noBuffer

end Typecase

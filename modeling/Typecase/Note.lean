import Typecase.Fault
import Typecase.Settings
import Typecase.Strategy
import Typecase.Text.Quoted

/-! # Notes: what is written to the log -/

namespace Typecase

inductive Level where
  | error
  | warn
  | info
  | debug
  | trace
  deriving DecidableEq, Repr

def Level.text : Level → String
  | error => "ERROR"
  | warn => "WARN"
  | info => "INFO"
  | debug => "DEBUG"
  | trace => "TRACE"

/-- One log entry, by what it reports. -/
inductive Note where
  | heard (what : Settings.Heard)
  | stagingInto (path : Path)
  | candidateRejected (path : Path) (why : OsFault)
  | stagedFileRemoved (path : Path)
  | stagedFileLeft (path : Path) (why : OsFault)
  | copyFailed (path : Path) (why : IoFault)
  | mapping (path : Path) (size : Nat)
  | closeFailed (why : IoFault)
  | probeFailed (factory : String) (why : ProbeFault)
  | resolverReady (strategy : Strategy) (factory : String) (capacity : Nat)
  | cacheHit (key : ResourceKey)
  | caching (key : ResourceKey)
  | evicted (key : ResourceKey)
  | resourceRejected (factory : String) (id : ResourceId) (why : TypefaceFault)
  deriving DecidableEq, Repr

namespace Note

def level : Note → Level
  | copyFailed .. => .error
  | heard (.ignored ..) | stagedFileLeft .. | probeFailed .. => .warn
  | heard (.set ..) => .info
  | stagingInto .. | resolverReady .. | caching .. | evicted .. | resourceRejected .. => .debug
  | candidateRejected .. | stagedFileRemoved .. | mapping .. | closeFailed .. | cacheHit .. =>
    .trace

def message : Note → String
  | heard (.set name text _) => "Fontstage " ++ name ++ " set to " ++ text ++ " via environment"
  | heard (.ignored name raw) =>
    "Ignoring " ++ name ++ "=" ++ Text.quote raw ++ ": expected a positive integer"
  | stagingInto path => "Staging into " ++ path.text
  | candidateRejected path why => "Temp candidate " ++ path.text ++ " rejected: " ++ why.message
  | stagedFileRemoved path => "Removed staged file " ++ path.text
  | stagedFileLeft path why =>
    "Could not remove staged file " ++ path.text ++ ": " ++ why.message
  | copyFailed path why =>
    "Error copying resource contents to " ++ path.text ++ ": " ++ why.message
  | mapping path size => "Mapping " ++ path.text ++ " (" ++ toString size ++ " bytes)"
  | closeFailed why => "Ignoring error on close: " ++ why.message
  | probeFailed factory why =>
    factory ++ ": " ++ why.message ++ ". Falling back to staged typeface loading."
  | resolverReady strategy factory capacity =>
    "Typeface resolver using " ++ strategy.text ++ " strategy for " ++ factory ++
      " (cache capacity " ++ toString capacity ++ ")"
  | cacheHit key => "Typeface cache hit for " ++ key.text
  | caching key => "Caching typeface for " ++ key.text
  | evicted key => "Typeface cache evicted " ++ key.text
  | resourceRejected factory id why =>
    factory ++ " rejected resource " ++ Text.hex id.toNat ++ ": " ++ why.message

def line (n : Note) : String := n.level.text ++ " " ++ n.message

end Note

end Typecase

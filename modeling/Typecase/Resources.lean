import Typecase.Files.Stream
import Typecase.Scene

/-! # Resources: where font bytes come from -/

namespace Typecase

/-- A set of resources by id. Each has the name of its package and a stream of bytes. -/
structure Resources where
  packageName : ResourceId → Except ResourceFault String
  openRaw : ResourceId → Except ResourceFault Stream

namespace Resources

variable {σ : Type}

/-- Asks for a package name, on record. -/
def askPackage (r : Resources) (id : ResourceId) : Act σ (Except ResourceFault String) := do
  Act.called (.package id)
  return r.packageName id

def askStream (r : Resources) (id : ResourceId) : Act σ (Except ResourceFault Stream) := do
  Act.called (.openResource id)
  return r.openRaw id

end Resources

end Typecase

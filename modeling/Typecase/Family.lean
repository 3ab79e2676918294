import Typecase.Cut
import Typecase.ResourceKey

/-! # Families: the fonts to choose from -/

namespace Typecase

abbrev Bytes := List UInt8

/-- A font of a family whose bytes are a resource of their own. -/
structure FontFile where
  cut : Cut
  file : ResourceId := 0
  /-- The face to take if the file holds a collection. -/
  face : UInt32 := 0
  variation : Option String := none
  deriving DecidableEq, Repr

/-- A font that a provider has answered with. -/
structure FontOffer where
  cut : Cut
  uri : String := ""
  face : UInt32 := 0
  resultCode : Int32 := 0
  deriving DecidableEq, Repr

def FontOffer.delivered : Int32 := 0

abbrev Buffers := List (String × Bytes)

/-- The offers that can be built from: delivered, and with a buffer under their uri. -/
def FontOffer.usable (offers : List FontOffer) (buffers : Buffers) : List FontOffer :=
  offers.filter fun o => o.resultCode == delivered && (buffers.lookup o.uri).isSome

structure ProviderQuery where
  authority : String := ""
  package : String := ""
  query : String := ""
  /-- Whether the fetch may go on in the background. -/
  background : Bool := false
  timeoutMillis : Option Nat := none
  deriving DecidableEq, Repr

/-- A family lists files of its own or names a provider. -/
inductive Family where
  | files (fonts : List FontFile)
  | provider (query : ProviderQuery)
  deriving DecidableEq, Repr

end Typecase

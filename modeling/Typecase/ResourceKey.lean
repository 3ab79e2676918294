import Typecase.Style

/-! # Resource keys: what a built typeface is remembered under -/

namespace Typecase

abbrev ResourceId := UInt32

/-- A package, a resource in it, and the style it was built for. -/
structure ResourceKey where
  package : String
  id : ResourceId
  style : Style
  deriving DecidableEq, Repr

/-- The uid form of a key: its three parts, joined by hyphens. -/
def ResourceKey.text (k : ResourceKey) : String :=
  k.package ++ "-" ++ toString k.id.toNat ++ "-" ++ k.style.text

end Typecase

import Typecase.Fault
import Typecase.Font.Directory

/-! # Font data: a font that is its own bytes -/

namespace Typecase

/-- A face of a font file, with the whole file. -/
structure FontData where
  data : Bytes
  face : UInt32
  unitsPerEm : Nat
  deriving DecidableEq, Repr

namespace FontData

def ofFace (data : Bytes) (face : UInt32) : Except TypefaceFault FontData :=
  match Font.directory data face.toNat with
  | .ok d => .ok ⟨data, face, Font.unitsPerEm d data⟩
  | .error why => .error (.malformed ("face " ++ toString face.toNat ++ ": " ++ why.message))

def ofBytes (data : Bytes) : Except TypefaceFault FontData := ofFace data 0

def glyphCount (f : FontData) : Option Nat :=
  match Font.directory f.data f.face.toNat with
  | .ok d => Font.glyphCount d f.data
  | .error _ => none

end FontData

end Typecase

import Typecase.Factory.Basic
import Typecase.Font.FontData

/-!
# The font data factory

It needs no platform. A typeface is the font's own bytes, once they have been checked.
-/

namespace Typecase.Factory

variable {σ : Type}

/-- Reads a whole file and takes its first face. -/
def readFontFile (path : Path) : Act σ (Except TypefaceFault FontData) := do
  match (← Act.files).read path with
  | .error why => return .error (.io (.os why))
  | .ok bytes => return FontData.ofBytes bytes

/-- Reads the best file of a family from its resource, and takes the face it names. -/
def readFamily (fonts : List FontFile) (resources : Resources) (style : Style) :
    Act σ (Except TypefaceFault FontData) := do
  match bestMatch FontFile.cut style fonts with
  | none => return .error .noMatch
  | some best =>
    match ← resources.askStream best.file with
    | .error why => return .error (.ofResource why)
    | .ok stream =>
      match stream.readAll with
      | .error why => return .error (.io why)
      | .ok bytes => return FontData.ofFace bytes best.face

def bestOffer (offers : List FontOffer) (buffers : Buffers) : Option (FontOffer × Bytes) := do
  let best ← bestMatch FontOffer.cut .normal (FontOffer.usable offers buffers)
  let bytes ← buffers.lookup best.uri
  return (best, bytes)

/-- Takes the face that the best offer names, from its buffer. -/
def readBuffers (offers : List FontOffer) (buffers : Buffers) : Except TypefaceFault FontData :=
  match bestOffer offers buffers with
  | none => .error .noMatch
  | some (best, bytes) => FontData.ofFace bytes best.face

def fontData : Factory σ FontData where
  name := "font-data"
  probe := return .ok true
  fromFile := readFontFile
  fromFamily := readFamily
  fromBuffers offers buffers := return readBuffers offers buffers

end Typecase.Factory

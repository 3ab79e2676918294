/-! # Styles: the shape a caller asks for -/

namespace Typecase

/-- A requested style: bit 0 asks for bold, bit 1 for italic. A negative code asks for neither. -/
structure Style where
  code : Int32
  deriving DecidableEq, Repr

namespace Style

def normal : Style := ⟨0⟩
def bold : Style := ⟨1⟩
def italic : Style := ⟨2⟩
def boldItalic : Style := ⟨3⟩
def unspecified : Style := ⟨-1⟩

instance : Inhabited Style := ⟨normal⟩

/-- The styles that have a name, in their listed order. -/
def named : List Style := [normal, bold, italic, boldItalic, unspecified]

def isBold (s : Style) : Bool := 0 ≤ s.code && s.code &&& 1 != 0

def isItalic (s : Style) : Bool := 0 ≤ s.code && s.code &&& 2 != 0

/-- Bold text wants weight 700, all other text 400. -/
def weight (s : Style) : UInt16 := if s.isBold then 700 else 400

def text (s : Style) : String := toString s.code.toInt

end Style

end Typecase

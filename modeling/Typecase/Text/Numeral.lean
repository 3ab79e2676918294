import Typecase.Text.Blank

/-!
# Numerals

Reading whole numbers the way settings give them: blanks around, perhaps one plus sign, digits.
-/

namespace Typecase.Text

/-- A text of one or more decimal digits, read as a number. -/
def readDigits (cs : List Char) : Option Nat :=
  if cs ≠ [] ∧ cs.all Char.isDigit then some (Nat.ofDigitChars 10 cs 0) else none

/-- One plus sign may stand before the digits. -/
def readUnsigned : List Char → Option Nat
  | '+' :: cs => readDigits cs
  | cs => readDigits cs

/-- The number from 1 to `limit` that the text holds between blanks, if it holds one. -/
def readPositive (limit : Nat) (cs : List Char) : Option Nat :=
  (readUnsigned (strip cs)).filter fun n => 1 ≤ n && n ≤ limit

end Typecase.Text

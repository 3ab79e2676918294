/-! # Hexadecimal text -/

namespace Typecase.Text

/-- A number in lower-case hexadecimal, marked by `0x`. -/
def hex (n : Nat) : String := "0x" ++ String.ofList (Nat.toDigits 16 n)

end Typecase.Text

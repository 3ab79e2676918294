import Typecase.Style

/-!
# Cuts: the shape a font has

A family offers its fonts in several cuts. `bestMatch` picks the one that comes closest to a
style: the nearest weight first, then the right slant, then the place in the list.
-/

namespace Typecase

structure Cut where
  weight : UInt16
  italic : Bool := false
  deriving DecidableEq, Repr

namespace Cut

/-- How far the cut's weight lies from the one the style wants. -/
def weightGap (c : Cut) (s : Style) : Nat :=
  (c.weight.toNat - s.weight.toNat) + (s.weight.toNat - c.weight.toNat)

/-- Whether the cut slants where the style wants it upright, or the other way round. -/
def slantGap (c : Cut) (s : Style) : Nat := if c.italic = s.isItalic then 0 else 1

/-- Both gaps in one number. Weight counts double, so the slant only decides between equal
weights. -/
def distance (c : Cut) (s : Style) : Nat := 2 * c.weightGap s + c.slantGap s

end Cut

def nearer {α : Type} (cut : α → Cut) (s : Style) (a b : α) : α :=
  if (cut b).distance s < (cut a).distance s then b else a

/-- The font whose cut is closest to the style. Of equally close fonts the first one wins. -/
def bestMatch {α : Type} (cut : α → Cut) (s : Style) : List α → Option α
  | [] => none
  | a :: rest => some (rest.foldl (nearer cut s) a)

end Typecase

/-! # Paths: texts that lead to files -/

namespace Typecase

/-- A path is kept as it was written. What it leads to depends on the file store. -/
structure Path where
  text : String
  deriving DecidableEq, Repr, Inhabited

namespace Path

def isAbsolute (text : String) : Bool := text.toList.head? == some '/'

/-- The path of `name` below `dir`. An absolute name stands for itself. -/
def join (dir : Path) (name : String) : Path :=
  if isAbsolute name then ⟨name⟩
  else if dir.text == "" || dir.text.toList.getLast? == some '/' then ⟨dir.text ++ name⟩
  else ⟨dir.text ++ "/" ++ name⟩

/-- Cuts a text at its slashes. There is one piece more than there are slashes. -/
def pieces : List Char → List (List Char)
  | [] => [[]]
  | c :: cs =>
    if c = '/' then [] :: pieces cs
    else match pieces cs with
      | [] => [[c]]
      | p :: ps => (c :: p) :: ps

/-- The steps that a path takes, from the root on. An empty step or `.` stays where it is. -/
def steps (p : Path) : List String := (pieces p.text.toList).map String.ofList

end Path

end Typecase

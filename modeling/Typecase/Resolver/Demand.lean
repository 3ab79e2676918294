import Typecase.Resolver.Basic
import Typecase.Resolver.Request

/-! # Demands: a typeface is found, or else it is built -/

namespace Typecase

/-- What a typeface is built from if it is not remembered. -/
inductive Recipe where
  | fontFile
  | family (family : Family)
  deriving DecidableEq, Repr

/-- A typeface that is wanted for a resource and a style, with the resources as they are then. -/
structure Demand where
  resources : Resources
  id : ResourceId
  style : Style
  recipe : Recipe := .fontFile
  dir : Path

variable {σ τ : Type}

namespace Resolver

def create (r : Resolver σ τ) (d : Demand) : Work σ τ (Except (Halt TypefaceFault) τ) :=
  match d.recipe with
  | .fontFile => r.createFromFile d.dir d.resources d.id d.style
  | .family family => r.createFromFamily d.dir family d.resources d.id d.style

/-- Looks for the typeface, and builds it only if it is not there. -/
def meet (r : Resolver σ τ) (d : Demand) : Work σ τ (Reply τ) := do
  match ← find d.resources d.id d.style with
  | some typeface => return .found (some typeface)
  | none => return .built (← r.create d)

/-- The replies to a list of demands, each from the desk that the one before has left. -/
def meetAll (r : Resolver σ τ) (demands : List Demand) : Work σ τ (List (Reply τ)) :=
  demands.mapM r.meet

end Resolver

end Typecase

import Typecase.Resolver.Basic

/-! # Requests: what a resolver can be asked, as data -/

namespace Typecase

/-- A call on a resolver, with the resources as they are at that moment. -/
inductive Request where
  | find (resources : Resources) (id : ResourceId) (style : Style)
  | fontFile (dir : Path) (resources : Resources) (id : ResourceId) (style : Style)
  | family (dir : Path) (family : Family) (resources : Resources) (id : ResourceId)
      (style : Style)
  | offers (dir : Path) (offers : List FontOffer) (buffers : Buffers)

inductive Reply (τ : Type) where
  | found (typeface : Option τ)
  | built (outcome : Except (Halt TypefaceFault) τ)

instance {τ : Type} [DecidableEq τ] : DecidableEq (Reply τ)
  | .found a, .found b => decidable_of_iff (a = b) (by simp)
  | .built (.ok a), .built (.ok b) => decidable_of_iff (a = b) (by simp)
  | .built (.error a), .built (.error b) => decidable_of_iff (a = b) (by simp)
  | .found _, .built _ | .built _, .found _ => isFalse nofun
  | .built (.ok _), .built (.error _) | .built (.error _), .built (.ok _) => isFalse nofun

variable {σ τ : Type}

namespace Resolver

def perform (r : Resolver σ τ) : Request → Work σ τ (Reply τ)
  | .find resources id style => return .found (← find resources id style)
  | .fontFile dir resources id style =>
    return .built (← r.createFromFile dir resources id style)
  | .family dir family resources id style =>
    return .built (← r.createFromFamily dir family resources id style)
  | .offers dir offers buffers =>
    return .built (← Work.act (r.createFromOffers dir offers buffers))

/-- The replies to a list of requests, each from the desk that the one before has left. -/
def performAll (r : Resolver σ τ) (requests : List Request) : Work σ τ (List (Reply τ)) :=
  requests.mapM r.perform

end Resolver

end Typecase

import Typecase.Proofs.Resolver.Staged

/-!
# What a request comes down to

Once the strategy and the metadata have been looked at, a build is one of three things: a failure, a
call to a collaborator, or a source to stage.
-/

namespace Typecase

variable {σ τ : Type}

inductive Plan (σ τ : Type) where
  | fail (why : TypefaceFault)
  /-- Leave the build to a collaborator, on record. -/
  | delegate (call : Call) (inner : Act σ (Except TypefaceFault τ))
  | stage (dir : Path) (source : Source)

namespace Resolver

def entryPlan (r : Resolver σ τ) (dir : Path) (family : Family) (resources : Resources)
    (style : Style) : Plan σ τ :=
  match family with
  | .provider query =>
    match r.provider with
    | none => .fail (.provider "no font provider attached")
    | some provider => .delegate (.fetch query style) (provider query style)
  | .files fonts =>
    match r.strategy with
    | .direct => .delegate .buildFamily (r.factory.fromFamily fonts resources style)
    | .staged =>
      match bestMatch FontFile.cut style fonts with
      | none => .fail .noMatch
      | some best => .stage dir (.resource resources best.file)

def offersPlan (r : Resolver σ τ) (dir : Path) (offers : List FontOffer) (buffers : Buffers) :
    Plan σ τ :=
  if offers.isEmpty then .fail .noMatch
  else match r.strategy with
    | .direct => .delegate .buildBuffers (r.factory.fromBuffers offers buffers)
    | .staged =>
      match bestMatch FontOffer.cut .normal (FontOffer.usable offers buffers) with
      | none => .fail .noMatch
      | some best =>
        match buffers.lookup best.uri with
        | none => .fail (.provider ("no buffer fetched for " ++ best.uri))
        | some bytes => .stage dir (.buffer bytes)

/-- What a request builds, if it builds at all. -/
def plan? (r : Resolver σ τ) : Request → Option (Plan σ τ)
  | .find .. => none
  | .fontFile dir resources id _ => some (.stage dir (.resource resources id))
  | .family dir family resources _ style => some (r.entryPlan dir family resources style)
  | .offers dir offers buffers => some (r.offersPlan dir offers buffers)

def carryOut (r : Resolver σ τ) : Plan σ τ → Act σ (Except (Halt TypefaceFault) τ)
  | .fail why => return .error (.fault why)
  | .delegate call inner => do
    Act.called call
    return (← inner).mapError .fault
  | .stage dir source => r.stage dir source

theorem buildEntry_eq (r : Resolver σ τ) (dir : Path) (family : Family) (resources : Resources)
    (style : Style) :
    r.buildEntry dir family resources style =
      r.carryOut (r.entryPlan dir family resources style) := by
  unfold buildEntry entryPlan
  cases family with
  | provider query =>
    simp only [fetch]
    cases r.provider with
    | none => rfl
    | some provider => rfl
  | files fonts =>
    simp only [buildFamily]
    cases r.strategy with
    | direct => rfl
    | staged =>
      dsimp only
      cases bestMatch FontFile.cut style fonts with
      | none => rfl
      | some best => rfl

theorem createFromOffers_eq (r : Resolver σ τ) (dir : Path) (offers : List FontOffer)
    (buffers : Buffers) :
    r.createFromOffers dir offers buffers = r.carryOut (r.offersPlan dir offers buffers) := by
  unfold createFromOffers offersPlan
  split
  · rfl
  cases r.strategy with
  | direct => rfl
  | staged =>
    dsimp only
    cases bestMatch FontOffer.cut .normal (FontOffer.usable offers buffers) with
    | none => rfl
    | some best =>
      dsimp only
      cases buffers.lookup best.uri with
      | none => rfl
      | some bytes => exact r.buildFrom_buffer_eq dir bytes

end Resolver

end Typecase

import Typecase.Cache
import Typecase.Factory.Basic
import Typecase.Staging.Stager

/-!
# Resolvers

A resolver gets typefaces for resources. It remembers the ones it built under their keys, builds
the missing ones by its strategy, remembers successes only, and leaves no temp file behind.
-/

namespace Typecase

structure Resolver (σ τ : Type) where
  factory : Factory σ τ
  strategy : Strategy
  stager : Stager
  provider : Option (Provider σ τ) := none

/-- The scene, with the cache that a resolver keeps for itself. -/
structure Desk (σ τ : Type) where
  cache : Cache ResourceKey τ
  scene : Scene σ

abbrev Work (σ τ α : Type) := StateM (Desk σ τ) α

variable {σ τ : Type}

namespace Work

/-- An action on the scene. It has no access to the cache. -/
def act {α : Type} (a : Act σ α) : Work σ τ α := fun desk =>
  let (result, scene) := a desk.scene
  (result, { desk with scene })

def lookUp (key : ResourceKey) : Work σ τ (Option τ) := fun desk =>
  let (found, cache) := desk.cache.get key
  (found, { desk with cache })

/-- Stores a typeface in the cache. A key that has to go for it is noted. -/
def store (key : ResourceKey) (typeface : τ) : Work σ τ Unit := do
  let (evicted, cache) := (← get).cache.insert key typeface
  modify fun desk => { desk with cache }
  match evicted with
  | none => return ()
  | some old => act (Act.note (.evicted old))

end Work

namespace Resolver

/-! ## Keys and the cache -/

/-- The key of a resource. Only its package can fail to be known. -/
def resourceKey (resources : Resources) (id : ResourceId) (style : Style) :
    Act σ (Except TypefaceFault ResourceKey) := do
  match ← resources.askPackage id with
  | .error why => return .error (.ofResource why)
  | .ok package => return .ok ⟨package, id, style⟩

/-- The typeface that was built for a resource and a style, if it is still remembered. -/
def find (resources : Resources) (id : ResourceId) (style : Style) : Work σ τ (Option τ) := do
  match ← Work.act (resourceKey resources id style) with
  | .error _ => return none
  | .ok key =>
    match ← Work.lookUp key with
    | none => return none
    | some typeface =>
      Work.act (Act.note (.cacheHit key))
      return some typeface

def remember (key : ResourceKey) (typeface : τ) : Work σ τ Unit := do
  Work.act (Act.note (.caching key))
  Work.store key typeface

/-! ## Building -/

/-- Takes a temp file, fills it, builds from it, and releases it whatever happened. -/
def buildFrom (r : Resolver σ τ) (dir : Path)
    (fill : TempFile → Act σ (Except (Halt StagingFault) Nat))
    (construct : TempFile → Act σ (Except TypefaceFault τ)) :
    Act σ (Except (Halt TypefaceFault) τ) := do
  match ← r.stager.acquire dir with
  | .error why => return .error (.fault (.ofStaging why))
  | .ok staged =>
    let answer ← (do
      match ← fill staged with
      | .error why => return .error (why.map .ofStaging)
      | .ok _ => return (← construct staged).mapError .fault)
    staged.release
    return answer

def buildStaged (r : Resolver σ τ) (dir : Path) (resources : Resources) (id : ResourceId) :
    Act σ (Except (Halt TypefaceFault) τ) :=
  r.buildFrom dir
    (fun staged => r.stager.copyResourceToFile staged.path resources id)
    (fun staged => do
      match ← r.factory.build staged.path with
      | .error why =>
        Act.note (.resourceRejected r.factory.name id why)
        return .error (.ofConstruction why)
      | .ok typeface => return .ok typeface)

/-- Builds from the best file of a family by the resolver's strategy. -/
def buildFamily (r : Resolver σ τ) (dir : Path) (fonts : List FontFile) (resources : Resources)
    (style : Style) : Act σ (Except (Halt TypefaceFault) τ) := do
  match r.strategy with
  | .direct => return (← r.factory.buildFamily fonts resources style).mapError .fault
  | .staged =>
    match bestMatch FontFile.cut style fonts with
    | none => return .error (.fault .noMatch)
    | some best => r.buildStaged dir resources best.file

def fetch (r : Resolver σ τ) (query : ProviderQuery) (style : Style) :
    Act σ (Except TypefaceFault τ) :=
  match r.provider with
  | none => return .error (.provider "no font provider attached")
  | some provider => Provider.fetch provider query style

def buildEntry (r : Resolver σ τ) (dir : Path) (family : Family) (resources : Resources)
    (style : Style) : Act σ (Except (Halt TypefaceFault) τ) :=
  match family with
  | .provider query => return (← r.fetch query style).mapError .fault
  | .files fonts => r.buildFamily dir fonts resources style

/-- Finds the key, builds, and remembers the typeface if it could be built. -/
def buildAndRemember (resources : Resources) (id : ResourceId) (style : Style)
    (build : Act σ (Except (Halt TypefaceFault) τ)) :
    Work σ τ (Except (Halt TypefaceFault) τ) := do
  match ← Work.act (resourceKey resources id style) with
  | .error why => return .error (.fault why)
  | .ok key =>
    match ← Work.act build with
    | .error why => return .error why
    | .ok typeface =>
      remember key typeface
      return .ok typeface

/-! ## What callers ask for -/

def createFromFile (r : Resolver σ τ) (dir : Path) (resources : Resources) (id : ResourceId)
    (style : Style) : Work σ τ (Except (Halt TypefaceFault) τ) :=
  buildAndRemember resources id style (r.buildStaged dir resources id)

def createFromFamily (r : Resolver σ τ) (dir : Path) (family : Family) (resources : Resources)
    (id : ResourceId) (style : Style) : Work σ τ (Except (Halt TypefaceFault) τ) :=
  buildAndRemember resources id style (r.buildEntry dir family resources style)

/-- A typeface from what a provider has delivered. It belongs to no resource, so it is not
remembered. -/
def createFromOffers (r : Resolver σ τ) (dir : Path) (offers : List FontOffer)
    (buffers : Buffers) : Act σ (Except (Halt TypefaceFault) τ) := do
  if offers.isEmpty then return .error (.fault .noMatch)
  match r.strategy with
  | .direct => return (← r.factory.buildBuffers offers buffers).mapError .fault
  | .staged =>
    match bestMatch FontOffer.cut .normal (FontOffer.usable offers buffers) with
    | none => return .error (.fault .noMatch)
    | some best =>
      match buffers.lookup best.uri with
      | none => return .error (.fault (.provider ("no buffer fetched for " ++ best.uri)))
      | some bytes =>
        r.buildFrom dir
          (fun staged => r.stager.copyBufferToFile staged.path bytes)
          (fun staged => return (← r.factory.build staged.path).mapError .ofConstruction)

/-! ## New resolvers -/

/-- A resolver that uses the strategy its factory is found fit for. -/
def ofSettings (factory : Factory σ τ) (settings : Settings) (identity : Identity) :
    Act σ (Resolver σ τ) := do
  let strategy ← factory.strategy
  Act.note (.resolverReady strategy factory.name settings.capacity)
  return { factory, strategy, stager := ⟨settings.staging, identity⟩ }

end Resolver

end Typecase

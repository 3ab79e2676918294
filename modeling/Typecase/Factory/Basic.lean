import Typecase.Resources

/-!
# Factories and providers

A factory turns files or bytes into typefaces. Every factory can take a file. Whether it can also
take family metadata and buffers is for it to say when it is probed.
-/

namespace Typecase

/-- `σ` is what the factory remembers, `τ` what it hands out. -/
structure Factory (σ τ : Type) where
  name : String
  /-- Whether the factory can do without files. -/
  probe : Act σ (Except ProbeFault Bool)
  fromFile : Path → Act σ (Except TypefaceFault τ)
  fromFamily : List FontFile → Resources → Style → Act σ (Except TypefaceFault τ)
  fromBuffers : List FontOffer → Buffers → Act σ (Except TypefaceFault τ)

namespace Factory

variable {σ τ : Type}

def ofFiles (name : String) (fromFile : Path → Act σ (Except TypefaceFault τ)) : Factory σ τ where
  name
  probe := return .ok false
  fromFile
  fromFamily _ _ _ := return .error (.unsupported (name ++ " cannot build from family metadata"))
  fromBuffers _ _ := return .error (.unsupported (name ++ " cannot build from in-memory buffers"))

/-- Picks its strategy by asking a factory. A probe that fails is as good as a no. -/
def strategy (f : Factory σ τ) : Act σ Strategy := do
  Act.called .probe
  match ← f.probe with
  | .ok true => return .direct
  | .ok false => return .staged
  | .error why =>
    Act.note (.probeFailed f.name why)
    return .staged

/-- Hands the factory a path, on record. -/
def build (f : Factory σ τ) (path : Path) : Act σ (Except TypefaceFault τ) := do
  Act.called (.buildFile path ((← Act.files).read path).toOption)
  f.fromFile path

def buildFamily (f : Factory σ τ) (fonts : List FontFile) (resources : Resources) (style : Style) :
    Act σ (Except TypefaceFault τ) := do
  Act.called .buildFamily
  f.fromFamily fonts resources style

def buildBuffers (f : Factory σ τ) (offers : List FontOffer) (buffers : Buffers) :
    Act σ (Except TypefaceFault τ) := do
  Act.called .buildBuffers
  f.fromBuffers offers buffers

end Factory

abbrev Provider (σ τ : Type) := ProviderQuery → Style → Act σ (Except TypefaceFault τ)

def Provider.fetch {σ τ : Type} (p : Provider σ τ) (query : ProviderQuery) (style : Style) :
    Act σ (Except TypefaceFault τ) := do
  Act.called (.fetch query style)
  p query style

end Typecase

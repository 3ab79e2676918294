import Typecase.Factory.Basic

/-!
# Handles

Typefaces that were built apart are different handles, however alike they are. A handle is a
typeface with a serial number, and `handing` makes a factory number what it builds.
-/

namespace Typecase

structure Handle (τ : Type) where
  serial : Nat
  typeface : τ
  deriving DecidableEq, Repr

variable {τ : Type}

/-- A new handle. The state outside counts the handles made so far. -/
def Handle.make (typeface : τ) : Act Nat (Handle τ) := do
  let serial := (← get).outside
  modify fun s => { s with outside := serial + 1 }
  return ⟨serial, typeface⟩

def Handle.wrap (build : Act Nat (Except TypefaceFault τ)) :
    Act Nat (Except TypefaceFault (Handle τ)) := do
  match ← build with
  | .error why => return .error why
  | .ok typeface => return .ok (← make typeface)

def Factory.handing (f : Factory Nat τ) : Factory Nat (Handle τ) where
  name := f.name
  probe := f.probe
  fromFile path := Handle.wrap (f.fromFile path)
  fromFamily fonts resources style := Handle.wrap (f.fromFamily fonts resources style)
  fromBuffers offers buffers := Handle.wrap (f.fromBuffers offers buffers)

def Provider.handing (p : Provider Nat τ) : Provider Nat (Handle τ) :=
  fun query style => Handle.wrap (p query style)

end Typecase

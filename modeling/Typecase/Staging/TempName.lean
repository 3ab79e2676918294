/-! # Temp names: what a staged file is called -/

namespace Typecase

/-- Who is staging. Part of every temp name, so that two stagers do not try the same names. -/
structure Identity where
  pid : Nat
  tid : Nat
  deriving DecidableEq, Repr

/-- The name to try at an attempt. Attempts count from zero. -/
def tempName (stem : String) (who : Identity) (attempt : Nat) : String :=
  stem ++ toString who.pid ++ "-" ++ toString who.tid ++ "-" ++ toString attempt

end Typecase

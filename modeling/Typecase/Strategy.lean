/-! # Strategies: how a missing typeface gets built -/

namespace Typecase

inductive Strategy where
  /-- The factory takes family metadata and buffers as they are. -/
  | direct
  /-- The bytes go through a temp file first. -/
  | staged
  deriving DecidableEq, Repr

def Strategy.text : Strategy → String
  | direct => "direct"
  | staged => "staged"

end Typecase

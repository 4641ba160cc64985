import Elicit.Duration
import Elicit.Text.Quoted

/-! How long to wait between attempts. -/
namespace Elicit

inductive RetryDelay where
  | fixed (delay : Duration)
  /-- A wait that doubles from `base` and never exceeds `max`. -/
  | exponential (base max : Duration)
  deriving DecidableEq, Repr

namespace RetryDelay

def none : RetryDelay := .fixed .zero

/-- The greatest power of two that a wait is multiplied by. -/
def maxDoublings : Nat := 30

/-- The wait before a retry, counted from 1. -/
def beforeRetry (r : RetryDelay) (retry : Nat) : Duration :=
  match r with
  | .fixed delay => delay
  | .exponential base max =>
    (base.saturatingMul (Nat.pow 2 (min (retry - 1) maxDoublings))).shorter max

def text : RetryDelay → String
  | .fixed delay => "Fixed(" ++ delay.text ++ ")"
  | .exponential base max =>
    Text.record "Exponential" [("base", base.text), ("max", max.text)] false

end RetryDelay

end Elicit

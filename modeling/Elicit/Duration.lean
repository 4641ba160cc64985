/-! Spans of time in whole nanoseconds. -/
namespace Elicit

/-- A span of time: whole seconds that fit 64 bits, and less than a second of nanoseconds. -/
@[ext] structure Duration where
  secs : Nat
  nanos : Nat
  secs_lt : secs < 18446744073709551616 := by omega
  nanos_lt : nanos < 1000000000 := by omega
  deriving DecidableEq, Repr

namespace Duration

def zero : Duration := ⟨0, 0, by decide, by decide⟩

def longest : Duration := ⟨18446744073709551615, 999999999, by decide, by decide⟩

def toNanos (d : Duration) : Nat := d.secs * 1000000000 + d.nanos

/-- Spans are ordered by seconds, then by nanoseconds. -/
def le (a b : Duration) : Bool := a.secs < b.secs || a.secs == b.secs && a.nanos ≤ b.nanos

def shorter (a b : Duration) : Duration := if a.le b then a else b

/-- The span of that many seconds and nanoseconds, if the seconds with the carry fit. -/
def ofParts? (secs nanos : Nat) : Option Duration :=
  let total := secs + nanos / 1000000000
  if h : total < 18446744073709551616 then
    some ⟨total, nanos % 1000000000, h, Nat.mod_lt _ (by decide)⟩
  else none

/-- The span `n` times over, or the longest span where that is too long. -/
def saturatingMul (d : Duration) (n : Nat) : Duration :=
  (ofParts? (d.secs * n) (d.nanos * n)).getD longest

/-- The span of that many milliseconds, which 64 bits hold. -/
def ofMillis (ms : Nat) : Duration := (ofParts? (ms / 1000) (ms % 1000 * 1000000)).getD longest

def ofSecs (s : Nat) : Duration := (ofParts? s 0).getD longest

def isZero (d : Duration) : Bool := d.secs == 0 && d.nanos == 0

/-- A fraction of `width` digits after a point, without its trailing zeros. -/
def fractionText (n width : Nat) : String :=
  let digits := Nat.toDigits 10 n
  let padded := List.replicate (width - digits.length) '0' ++ digits
  let kept := (padded.reverse.dropWhile (· == '0')).reverse
  if kept.isEmpty then "" else "." ++ String.ofList kept

/-- The span in the largest unit of which it holds at least one, with an exact fraction. -/
def text (d : Duration) : String :=
  if 0 < d.secs then toString d.secs ++ fractionText d.nanos 9 ++ "s"
  else if 1000000 ≤ d.nanos then
    toString (d.nanos / 1000000) ++ fractionText (d.nanos % 1000000) 6 ++ "ms"
  else if 1000 ≤ d.nanos then
    toString (d.nanos / 1000) ++ fractionText (d.nanos % 1000) 3 ++ "µs"
  else toString d.nanos ++ "ns"

end Duration

end Elicit

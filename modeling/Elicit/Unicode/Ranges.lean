import Elicit.Text.Fields
import Elicit.Text.Hexadecimal

/-! Sets of code points as ranges, and their written form. -/
namespace Elicit.Unicode

/-- Ranges of code points in increasing order, both ends included. -/
abbrev Ranges := List (Nat × Nat)

namespace Ranges

def contains : Ranges → Nat → Bool
  | [], _ => false
  | (lo, hi) :: rest, n => lo ≤ n && (n ≤ hi || contains rest n)

/-- The number of a hexadecimal numeral. -/
def number (cs : List Char) : Nat := cs.foldl (fun n c => 16 * n + (Text.hexDigit? c).getD 0) 0

/-- A range as it is written: a code point, the two ends of a range, or the ends of a range of
which every other code point counts. -/
def readEntry (cs : List Char) : Ranges :=
  match (Text.fields '/' cs).map (Text.fields '-') with
  | [[lo]] => [(number lo, number lo)]
  | [[lo, hi]] => [(number lo, number hi)]
  | [[lo, hi], [_]] =>
    (List.range ((number hi - number lo) / 2 + 1)).map fun i =>
      (number lo + 2 * i, number lo + 2 * i)
  | _ => []

/-- Ranges from lines of entries. -/
def read (lines : List String) : Ranges :=
  lines.flatMap fun line => (Text.fields ' ' line.toList).flatMap readEntry

end Ranges

end Elicit.Unicode

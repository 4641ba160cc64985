import Elicit.Unicode.CaseFolding
import Elicit.Unicode.Ranges

/-! Sets of characters, built from ranges. -/
namespace Elicit.Unicode

inductive CharSet where
  | ranges (rs : Ranges)
  | union (a b : CharSet)
  | intersection (a b : CharSet)
  | difference (a b : CharSet)
  | symmetricDifference (a b : CharSet)
  | complement (a : CharSet)
  /-- The code points that differ from one of the set in case only. -/
  | folded (a : CharSet)
  deriving Repr, DecidableEq

namespace CharSet

def contains : CharSet → Nat → Bool
  | .ranges rs, n => rs.contains n
  | .union a b, n => a.contains n || b.contains n
  | .intersection a b, n => a.contains n && b.contains n
  | .difference a b, n => a.contains n && !b.contains n
  | .symmetricDifference a b, n => a.contains n != b.contains n
  | .complement a, n => !a.contains n
  | .folded a, n => (caseVariants n).any a.contains

def holds (s : CharSet) (c : Char) : Bool := s.contains c.toNat

def none : CharSet := .ranges []

def all : CharSet := .ranges [(0, 0x10FFFF)]

/-- The set of the characters from one to another. -/
def range (lo hi : Char) : CharSet := .ranges [(lo.toNat, hi.toNat)]

def single (c : Char) : CharSet := range c c

def read (lines : List String) : CharSet := .ranges (.read lines)

def unions : List CharSet → CharSet
  | [] => none
  | [s] => s
  | s :: ss => .union s (unions ss)

def negatedIf (negated : Bool) (s : CharSet) : CharSet := if negated then .complement s else s

/-- The set, or what differs from it in case only. -/
def foldedIf (anyCase : Bool) (s : CharSet) : CharSet := if anyCase then .folded s else s

end CharSet

end Elicit.Unicode

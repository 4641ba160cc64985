import Elicit.Unicode.CharSet

/-! Regular expressions over characters, with conditions on what lies around a position, groups
and references back to what they have captured. -/
namespace Elicit

open Unicode (CharSet)

inductive Assertion where
  | textStart
  | textEnd
  | lineStart
  | lineEnd
  | wordEdge
  | noWordEdge
  | wordStart
  | wordEnd
  deriving Repr, DecidableEq

inductive Regex where
  | empty
  | set (s : CharSet)
  | assertion (a : Assertion)
  | seq (a b : Regex)
  | alt (a b : Regex)
  /-- At least `least` times, and at most `most` times if that is given; a greedy repetition tries
  more times first. -/
  | rep (r : Regex) (least : Nat) (most : Option Nat) (greedy : Bool)
  /-- A group, whose match is kept. -/
  | group (number : Nat) (r : Regex)
  /-- What the group has matched last, once more. -/
  | backreference (number : Nat)
  /-- Whether a match starts here. -/
  | ahead (negated : Bool) (r : Regex)
  /-- Whether a match of that many characters ends here. -/
  | behind (negated : Bool) (width : Nat) (r : Regex)
  /-- The first match only, with no other tried in its place. -/
  | atomic (r : Regex)
  deriving Repr, DecidableEq

namespace Regex

/-- The number of characters of every match, if that is always the same. -/
def width? : Regex → Option Nat
  | .empty | .assertion _ | .ahead .. | .behind .. => some 0
  | .set _ => some 1
  | .seq a b => do return (← a.width?) + (← b.width?)
  | .alt a b => do
    let n ← a.width?
    if (← b.width?) = n then some n else none
  | .rep r least most _ => do
    let n ← r.width?
    if most = some least then some (n * least) else none
  | .group _ r | .atomic r => r.width?
  | .backreference _ => none

/-- Looks behind a position: every alternative has a width of its own. -/
def lookBehind? (negated : Bool) : Regex → Option Regex
  | .alt a b => do
    let n ← a.width?
    let rest ← lookBehind? negated b
    return if negated then .seq (.behind true n a) rest else .alt (.behind false n a) rest
  | r => do return .behind negated (← r.width?) r

/-- Whether the expression may be repeated: conditions and the empty expression may not. -/
def isRepeatable : Regex → Bool
  | .empty | .assertion _ | .ahead .. | .behind .. => false
  | _ => true

/-- One expression after another; the empty one adds nothing. -/
def followedBy (a b : Regex) : Regex :=
  if b = .empty then a else if a = .empty then b else .seq a b

/-- The alternatives of a list, first to last. -/
def ofAlternatives : List Regex → Regex
  | [] => .empty
  | [r] => r
  | r :: rs => .alt r (ofAlternatives rs)

def referenced : Regex → List Nat
  | .backreference n => [n]
  | .seq a b | .alt a b => a.referenced ++ b.referenced
  | .rep r .. | .group _ r | .ahead _ r | .behind _ _ r | .atomic r => r.referenced
  | .empty | .set _ | .assertion _ => []

def keepGroups (kept : List Nat) : Regex → Regex
  | .group n r => if kept.contains n then .group n (r.keepGroups kept) else r.keepGroups kept
  | .seq a b => .seq (a.keepGroups kept) (b.keepGroups kept)
  | .alt a b => .alt (a.keepGroups kept) (b.keepGroups kept)
  | .rep r least most greedy => .rep (r.keepGroups kept) least most greedy
  | .ahead negated r => .ahead negated (r.keepGroups kept)
  | .behind negated width r => .behind negated width (r.keepGroups kept)
  | .atomic r => .atomic (r.keepGroups kept)
  | r => r

def setSize : CharSet → Nat
  | .ranges rs => if rs.all fun (_, hi) => hi < 128 then 1 else if rs.length ≤ 64 then 30 else 1600
  | .union a b | .intersection a b | .difference a b | .symmetricDifference a b =>
    max (setSize a) (setSize b)
  | .complement a | .folded a => max 30 (setSize a)

/-- Room that the expression takes up when its repetitions are written out. -/
def size : Regex → Nat
  | .empty | .assertion _ | .backreference _ => 1
  | .set s => setSize s
  | .seq a b => a.size + b.size
  | .alt a b => a.size + b.size + 1
  | .rep r least most _ =>
    match most with
    | none => (r.size + 1) * max least 1
    | some m => r.size * m + (m - least)
  | .group _ r => r.size + 2
  | .ahead _ r | .behind _ _ r | .atomic r => r.size

def maxSize : Nat := 327680

end Regex

end Elicit

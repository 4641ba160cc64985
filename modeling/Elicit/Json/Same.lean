import Elicit.Binary64.Shortest
import Elicit.Json.Basic

/-! Values that are the same document: numbers are compared by value, however they are written. -/
namespace Elicit.Json

mutual

def same : Json → Json → Bool
  | .null, .null => true
  | .bool a, .bool b => a == b
  | .number a, .number b => a.compare b == .eq
  | .string a, .string b => a == b
  | .array as, .array bs => sameItems as bs
  | .object as, .object bs => sameMembers as bs
  | _, _ => false

def sameItems : List Json → List Json → Bool
  | [], [] => true
  | a :: as, b :: bs => same a b && sameItems as bs
  | _, _ => false

def sameMembers : List (String × Json) → List (String × Json) → Bool
  | [], [] => true
  | (m, a) :: as, (n, b) :: bs => m == n && same a b && sameMembers as bs
  | _, _ => false

end

mutual

/-- For every number within a value, whether it is a zero with a minus sign. -/
def negativeZeros : Json → List Bool
  | .number (.double x) => [x.negative && x.isZero]
  | .number (.integer _) => [false]
  | .array items => itemsNegativeZeros items
  | .object members => membersNegativeZeros members
  | _ => []

def itemsNegativeZeros : List Json → List Bool
  | [] => []
  | a :: as => negativeZeros a ++ itemsNegativeZeros as

def membersNegativeZeros : List (String × Json) → List Bool
  | [] => []
  | (_, a) :: as => negativeZeros a ++ membersNegativeZeros as

end

/-- Whether two values are the same down to the signs of their zeros. -/
def sameSigned (a b : Json) : Bool := same a b && negativeZeros a == negativeZeros b

/-- Whether no two items are alike. -/
def areDistinct (alike : Json → Json → Bool) : List Json → Bool
  | [] => true
  | a :: as => !(as.any (alike a)) && areDistinct alike as

/-- The greatest number of items that are told apart by value alone. -/
def maxPlainItems : Nat := 15

/-- Whether no two items are the same. Among more than `maxPlainItems` the signs of zeros count. -/
def allDistinct (items : List Json) : Bool :=
  areDistinct (if items.length ≤ maxPlainItems then same else sameSigned) items

def Number.toDouble? : Number → Option Binary64
  | .integer i => Binary64.ofRatio? (i < 0) i.natAbs 1
  | .double x => some x

/-- Whether a magnitude, as a numerator and a denominator, is less than the 52nd power of a half. -/
def isNegligible (ratio : Nat × Nat) : Bool := ratio.1 * 4503599627370496 < ratio.2

/-- Whether two numbers are as good as equal, both taken as binary64. -/
def Number.isCloseTo (x y : Number) : Bool :=
  match x.toDouble?, y.toDouble? with
  | some x, some y =>
    match x.sub? y with
    | some d => isNegligible d.ratio
    | none => false
  | _, _ => false

/-- Whether a value is the one expected: numbers are to be close, anything else the same. -/
def isExpected : Json → Json → Bool
  | .number expected, .number n => n.isCloseTo expected
  | expected, v => expected.same v

/-- Whether a whole number of times `d` gives `x`, both taken as binary64. For a divisor that is
no whole number the quotient is rounded first, and may exceed a whole number by a negligible
part; one too large to be rounded is that of the numbers as they are written. -/
def Number.isMultipleOf (x d : Number) : Bool :=
  match x.toDouble?, d.toDouble? with
  | some x, some d =>
    let (p, q) := x.ratio
    let (r, s) := d.ratio
    if r = 0 then false
    else if d.isWhole then x.isWhole && (p / q) % (r / s) == 0
    else match x.div? d with
      | some quotient =>
        let (n, m) := quotient.ratio
        quotient.negative || isNegligible (n % m, m)
      | none =>
        let (p, q) := x.decimalRatio
        let (r, s) := d.decimalRatio
        p * s % (q * r) == 0
  | _, _ => true

end Elicit.Json

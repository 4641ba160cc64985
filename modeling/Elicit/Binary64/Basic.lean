/-! Finite numbers of IEEE 754 binary64, with exact values and rounding to nearest, ties to
even, carried out on natural numbers. -/
namespace Elicit

/-- A finite binary64 number: `± significand * 2 ^ exponent`. Zero has a sign. -/
structure Binary64 where
  negative : Bool
  significand : Nat
  exponent : Int
  deriving Repr, DecidableEq

namespace Binary64

/-- The least exponent, that of the subnormal numbers. -/
def minExponent : Int := -1074

def maxExponent : Int := 971

/-- The least significand of a normal number, the 52nd power of two. -/
def leastNormal : Nat := 4503599627370496

def zero (negative : Bool) : Binary64 := ⟨negative, 0, minExponent⟩

/-- The quotient rounded to the nearest natural number, a half to the even neighbour. -/
def roundQuotient (num den : Nat) : Nat :=
  let q := num / den
  let r := num % den
  if 2 * r < den then q else if den < 2 * r then q + 1 else q + q % 2

/-- Numerator and denominator of `num / den * 2 ^ e`. -/
def scale (num den : Nat) (e : Int) : Nat × Nat :=
  if 0 ≤ e then (num * Nat.pow 2 e.toNat, den) else (num, den * Nat.pow 2 (-e).toNat)

/-- The exponent at which `num / den` has a significand of full precision, and never one below
that of the subnormal numbers. -/
def exponentOf (num den : Nat) : Int :=
  let guess : Int := (num.log2 : Int) - (den.log2 : Int) - 52
  let (n, d) := scale num den (-guess)
  max minExponent (if n / d < leastNormal then guess - 1 else guess)

/-- The binary64 number nearest to `± num / den`; `none` when its magnitude is too large. -/
def ofRatio? (negative : Bool) (num den : Nat) : Option Binary64 :=
  if num = 0 then some (zero negative) else
  let e := exponentOf num den
  let (n, d) := scale num den (-e)
  let m := roundQuotient n d
  let x : Binary64 :=
    if m = 2 * leastNormal then ⟨negative, leastNormal, e + 1⟩ else ⟨negative, m, e⟩
  if x.exponent ≤ maxExponent then some x else none

/-- The number nearest to `± num / den * 2 ^ e`. -/
def ofScaled? (negative : Bool) (num den : Nat) (e : Int) : Option Binary64 :=
  let (n, d) := scale num den e
  ofRatio? negative n d

def mul? (x y : Binary64) : Option Binary64 :=
  ofScaled? (x.negative != y.negative) (x.significand * y.significand) 1 (x.exponent + y.exponent)

/-- The rounded quotient by a number other than zero. -/
def div? (x y : Binary64) : Option Binary64 :=
  ofScaled? (x.negative != y.negative) x.significand y.significand (x.exponent - y.exponent)

def ofNat? (n : Nat) : Option Binary64 := ofRatio? false n 1

def neg (x : Binary64) : Binary64 := { x with negative := !x.negative }

def isZero (x : Binary64) : Bool := x.significand == 0

/-- Numerator and denominator of the exact magnitude. -/
def ratio (x : Binary64) : Nat × Nat := scale x.significand 1 x.exponent

/-- The exact value as a fraction: a signed numerator and a positive denominator. -/
def fraction (x : Binary64) : Int × Nat :=
  let (n, d) := x.ratio
  (if x.negative then -(n : Int) else n, d)

def sub? (x y : Binary64) : Option Binary64 :=
  let (p, q) := x.fraction
  let (r, s) := y.fraction
  let d := p * s - r * q
  ofRatio? (d < 0) d.natAbs (q * s)

def isWhole (x : Binary64) : Bool := x.ratio.1 % x.ratio.2 == 0

end Binary64

end Elicit

import Elicit.Binary64.Basic

/-! The shortest decimal that reads back as a binary64 number, and its written forms. -/
namespace Elicit.Binary64

/-- A decimal `digits * 10 ^ exponent`. -/
structure Decimal where
  digits : Nat
  exponent : Int
  deriving Repr, DecidableEq

/-- Number of decimal digits; zero has none. -/
def digitCount (n : Nat) : Nat := if n = 0 then 0 else (Nat.toDigits 10 n).length

/-- The `k` with `10 ^ (k - 1) ≤ num / den < 10 ^ k`, for a positive fraction. -/
def magnitude (num den : Nat) : Int :=
  if den ≤ num then digitCount (num / den)
  else 1 - (digitCount ((den + num - 1) / num - 1) : Int)

/-- The values that round to `significand * 2 ^ exponent`, as three numerators over the common
factor `2 ^ (exponent - 2)`: lower end, value, upper end. The gap below a power of two is half
as wide. -/
def roundingInterval (x : Binary64) : Nat × Nat × Nat :=
  let m := x.significand
  (if m = leastNormal ∧ minExponent < x.exponent then 4 * m - 1 else 4 * m - 2, 4 * m, 4 * m + 2)

/-- Whether `d * 10 ^ e` reads back as the number: it lies in the rounding interval, whose ends
count when the significand is even. -/
def readsBack (x : Binary64) (d : Nat) (e : Int) : Bool :=
  let (lo, _, hi) := x.roundingInterval
  -- compare d * 10 ^ e with lo, hi times 2 ^ (exponent - 2)
  let (p, q) := if 0 ≤ e then (d * Nat.pow 10 e.toNat, 1) else (d, Nat.pow 10 (-e).toNat)
  let b := x.exponent - 2
  let (s, t) := if 0 ≤ b then (Nat.pow 2 b.toNat, 1) else (1, Nat.pow 2 (-b).toNat)
  let point := p * t
  let low := lo * s * q
  let high := hi * s * q
  if x.significand % 2 = 0 then low ≤ point && point ≤ high else low < point && point < high

/-- The decimal of `n` digits that is nearest to the number among those that read back as it;
of two equally near ones the one with an even last digit. -/
def nearestOfLength (x : Binary64) (n : Nat) : Option Decimal :=
  let (num, den) := x.ratio
  let e := magnitude num den - n
  let (p, q) :=
    if 0 ≤ e then (num, den * Nat.pow 10 e.toNat) else (num * Nat.pow 10 (-e).toNat, den)
  let below := p / q
  let r := p % q
  let lower := x.readsBack below e && below ≠ 0
  let upper := x.readsBack (below + 1) e
  match lower, upper with
  | false, false => none
  | true, false => some ⟨below, e⟩
  | false, true => some ⟨below + 1, e⟩
  | true, true =>
    if 2 * r < q ∨ 2 * r = q ∧ below % 2 = 0 then some ⟨below, e⟩ else some ⟨below + 1, e⟩

def Decimal.stripZeros (d : Decimal) : Decimal :=
  let ds := Nat.toDigits 10 d.digits
  let zeros := (ds.reverse.takeWhile (· == '0')).length
  if d.digits = 0 then d else ⟨d.digits / Nat.pow 10 zeros, d.exponent + zeros⟩

/-- The decimal of fewest digits that reads back as the number; 17 digits always do. -/
def shortest (x : Binary64) : Decimal :=
  match (List.range 17).findSome? (fun i => x.nearestOfLength (i + 1)) with
  | some d => d.stripZeros
  | none => ⟨0, 0⟩

def decimalRatio (x : Binary64) : Nat × Nat :=
  let d := x.shortest
  if 0 ≤ d.exponent then (d.digits * Nat.pow 10 d.exponent.toNat, 1)
  else (d.digits, Nat.pow 10 (-d.exponent).toNat)

structure Notation where
  /-- Positions of the decimal point, counted from the first digit, that are written out. -/
  positional : Int → Bool

/-- Digits with the point after the first `k` of them, padded with zeros where needed. -/
def positionalText (digits : List Char) (k : Int) : List Char :=
  if k ≤ 0 then '0' :: '.' :: (List.replicate (-k).toNat '0' ++ digits)
  else if (digits.length : Int) ≤ k then
    digits ++ List.replicate (k.toNat - digits.length) '0' ++ ['.', '0']
  else digits.take k.toNat ++ '.' :: digits.drop k.toNat

/-- Digits with the point after the first of them, and the exponent of ten with its sign. -/
def scientificText (digits : List Char) (k : Int) : List Char :=
  let e := k - 1
  let mantissa := match digits with
    | [] => []
    | [d] => [d]
    | d :: ds => d :: '.' :: ds
  mantissa ++ 'e' :: (if e < 0 then '-' else '+') :: Nat.toDigits 10 e.natAbs

def text (style : Notation) (x : Binary64) : List Char :=
  let sign := if x.negative then ['-'] else []
  if x.isZero then sign ++ ['0', '.', '0'] else
  let d := x.shortest
  let digits := Nat.toDigits 10 d.digits
  let k := (digits.length : Int) + d.exponent
  sign ++ if style.positional k then positionalText digits k else scientificText digits k

/-- Written out from `1e-5` up to below `1e16`, and with an exponent otherwise. -/
def Notation.mixed : Notation := ⟨fun k => -5 < k && k ≤ 16⟩

def Notation.plain : Notation := ⟨fun _ => true⟩

end Elicit.Binary64

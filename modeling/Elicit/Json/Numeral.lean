import Elicit.Json.Basic

/-! Numbers as they are read, digit by digit. The significand holds at most 64 bits: further whole
digits raise the exponent instead, further fraction digits are ignored. -/
namespace Elicit

namespace Binary64

/-- Division by `10 ^ n`, in steps of `10 ^ 308`. -/
def scaleDown (x : Binary64) (n : Nat) : Option Binary64 :=
  if n ≤ 308 then do x.div? (← ofNat? (Nat.pow 10 n))
  else if x.isZero then some x
  else do
    let y ← x.div? (← ofNat? (Nat.pow 10 308))
    scaleDown y (n - 308)
termination_by n

/-- The number read for `significand * 10 ^ e`: the rounded significand times or over the rounded
power of ten. `none` when that is too large. -/
def ofDecimal? (negative : Bool) (significand : Nat) (e : Int) : Option Binary64 := do
  let x ← ofNat? significand
  let y ←
    if 0 ≤ e then
      if e ≤ 308 then x.mul? (← ofNat? (Nat.pow 10 e.toNat))
      else if significand = 0 then some x else none
    else x.scaleDown (-e).toNat
  return if negative then y.neg else y

end Binary64

namespace Json

inductive Cause where
  | endInValue
  | endInString
  | endInArray
  | endInObject
  | expectedValue
  | expectedWord
  | expectedItemEnd
  | expectedMemberEnd
  | expectedColon
  | expectedName
  | trailingComma
  | trailingCharacters
  | tooDeep
  | badNumber
  | numberTooLarge
  | badEscape
  | loneSurrogate
  | missingSurrogate
  | controlCharacter
  deriving Repr, DecidableEq

/-- The sign and digits of a number so far: `± significand * 10 ^ shift`. -/
structure Mantissa where
  negative : Bool
  significand : Nat
  shift : Int
  deriving Repr, DecidableEq

/-- How much of a number has been read. -/
inductive Numeral where
  | sign
  /-- A leading zero, which is the only whole digit. -/
  | zero (negative : Bool)
  /-- Whole digits that fit. -/
  | whole (negative : Bool) (significand : Nat)
  /-- More whole digits than fit. -/
  | overlong (m : Mantissa)
  | point (m : Mantissa)
  /-- Fraction digits that fit. -/
  | fraction (m : Mantissa)
  /-- More fraction digits than fit. -/
  | crowded (m : Mantissa)
  /-- The exponent mark. -/
  | mark (m : Mantissa)
  | markSign (m : Mantissa) (down : Bool)
  | exponent (m : Mantissa) (down : Bool) (value : Nat)
  /-- More exponent digits than matter, for a number that is zero. -/
  | vanished (negative : Bool)
  deriving Repr, DecidableEq

namespace Numeral

def maxSignificand : Nat := 18446744073709551615

def maxExponent : Nat := 2147483647

def digit? (c : Char) : Option Nat := if c.isDigit then some (c.toNat - '0'.toNat) else none

inductive Step where
  | more (n : Numeral)
  | stop
  | bad (cause : Cause)
  deriving Repr

def addWhole (negative : Bool) (significand d : Nat) : Numeral :=
  if significand * 10 + d ≤ maxSignificand then .whole negative (significand * 10 + d)
  else .overlong ⟨negative, significand, 1⟩

def addFraction (m : Mantissa) (d : Nat) : Numeral :=
  if m.significand * 10 + d ≤ maxSignificand then
    .fraction { m with significand := m.significand * 10 + d, shift := m.shift - 1 }
  else .crowded m

def addExponent (m : Mantissa) (down : Bool) (value d : Nat) : Step :=
  if value * 10 + d ≤ maxExponent then .more (.exponent m down (value * 10 + d))
  else if m.significand = 0 ∨ down then .more (.vanished m.negative)
  else .bad .numberTooLarge

/-- Continues after the digits of a number with a point, an exponent mark, or its end. -/
def leaveWhole (m : Mantissa) (c : Char) : Step :=
  if c = '.' then .more (.point m)
  else if c = 'e' ∨ c = 'E' then .more (.mark m)
  else .stop

def step : Numeral → Char → Step
  | .sign, c =>
    match digit? c with
    | some 0 => .more (.zero true)
    | some d => .more (.whole true d)
    | none => .bad .badNumber
  | .zero negative, c => if c.isDigit then .bad .badNumber else leaveWhole ⟨negative, 0, 0⟩ c
  | .whole negative significand, c =>
    match digit? c with
    | some d => .more (addWhole negative significand d)
    | none => leaveWhole ⟨negative, significand, 0⟩ c
  | .overlong m, c =>
    if c.isDigit then .more (.overlong { m with shift := m.shift + 1 }) else leaveWhole m c
  | .point m, c =>
    match digit? c with
    | some d => .more (addFraction m d)
    | none => .bad .badNumber
  | .fraction m, c =>
    match digit? c with
    | some d => .more (addFraction m d)
    | none => if c = 'e' ∨ c = 'E' then .more (.mark m) else .stop
  | .crowded m, c =>
    if c.isDigit then .more (.crowded m)
    else if c = 'e' ∨ c = 'E' then .more (.mark m) else .stop
  | .mark m, c =>
    if c = '+' then .more (.markSign m false)
    else if c = '-' then .more (.markSign m true)
    else match digit? c with
      | some d => .more (.exponent m false d)
      | none => .bad .badNumber
  | .markSign m down, c =>
    match digit? c with
    | some d => .more (.exponent m down d)
    | none => .bad .badNumber
  | .exponent m down value, c =>
    match digit? c with
    | some d => addExponent m down value d
    | none => .stop
  | .vanished negative, c => if c.isDigit then .more (.vanished negative) else .stop

/-- The exponent held to 32 bits. -/
def clampExponent (e : Int) : Int := max (-2147483648) (min e 2147483647)

/-- The binary64 number of a mantissa with a further exponent. -/
def Mantissa.toNumber (m : Mantissa) (e : Int) : Except Cause Number :=
  match Binary64.ofDecimal? m.negative m.significand (clampExponent (m.shift + e)) with
  | some x => .ok (.double x)
  | none => .error .numberTooLarge

/-- The number of a whole numeral: negative zero and what 64 bits cannot hold are binary64. -/
def wholeNumber (negative : Bool) (significand : Nat) : Except Cause Number :=
  if negative ∧ (significand = 0 ∨ 9223372036854775808 < significand) then
    Mantissa.toNumber ⟨negative, significand, 0⟩ 0
  else .ok (.integer (if negative then -(significand : Int) else significand))

/-- The number that has been read, when the text may end here. -/
def finish : Numeral → Except Cause Number
  | .sign | .point _ | .mark _ | .markSign .. => .error .endInValue
  | .zero negative => wholeNumber negative 0
  | .whole negative significand => wholeNumber negative significand
  | .overlong m | .fraction m | .crowded m => Mantissa.toNumber m 0
  | .exponent m down value => Mantissa.toNumber m (if down then -(value : Int) else value)
  | .vanished negative => .ok (.double (.zero negative))

end Numeral

end Json

end Elicit

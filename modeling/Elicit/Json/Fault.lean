import Elicit.Json.Numeral
import Elicit.Text.Utf8

/-! Where and why the reading of a JSON text failed. -/
namespace Elicit.Json

/-- A place in a text: its line, and the octets of that line before it. -/
structure Place where
  line : Nat
  column : Nat
  deriving Repr, DecidableEq

def Place.start : Place := ⟨1, 0⟩

/-- The place `n` octets further, within a character. -/
def Place.within (p : Place) (c : Char) (n : Nat) : Place :=
  if c = '\n' ∧ 0 < n then ⟨p.line + 1, 0⟩ else ⟨p.line, p.column + n⟩

def Place.after (p : Place) (c : Char) : Place := p.within c (Text.octetCount c)

structure Fault where
  cause : Cause
  place : Place
  deriving Repr, DecidableEq

def Cause.message : Cause → String
  | .endInValue => "EOF while parsing a value"
  | .endInString => "EOF while parsing a string"
  | .endInArray => "EOF while parsing a list"
  | .endInObject => "EOF while parsing an object"
  | .expectedValue => "expected value"
  | .expectedWord => "expected ident"
  | .expectedItemEnd => "expected `,` or `]`"
  | .expectedMemberEnd => "expected `,` or `\x7d`"
  | .expectedColon => "expected `:`"
  | .expectedName => "key must be a string"
  | .trailingComma => "trailing comma"
  | .trailingCharacters => "trailing characters"
  | .tooDeep => "recursion limit exceeded"
  | .badNumber => "invalid number"
  | .numberTooLarge => "number out of range"
  | .badEscape => "invalid escape"
  | .loneSurrogate => "lone leading surrogate in hex escape"
  | .missingSurrogate => "unexpected end of hex escape"
  | .controlCharacter => "control character (\\u0000-\\u001F) found while parsing a string"

def Fault.message (f : Fault) : String :=
  f.cause.message ++ " at line " ++ toString f.place.line ++ " column " ++ toString f.place.column

end Elicit.Json

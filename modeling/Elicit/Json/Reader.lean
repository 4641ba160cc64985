import Elicit.Json.Fault
import Elicit.Text.Hexadecimal

/-! Reading JSON: a machine with a stack of open containers that takes one character at a time. -/
namespace Elicit.Json

/-- A container around the value being read: the items before it, latest first, or the members
before it and its name. -/
inductive Frame where
  | array (items : List Json)
  | object (members : List (String × Json)) (name : String)

inductive Purpose where
  | value
  | name (members : List (String × Json))

/-- Where the reader stands within a string. -/
inductive Escape where
  /-- Between characters. -/
  | none
  | backslash
  /-- Within the four octets of a hexadecimal escape: the leading surrogate before it, the octets
  so far and their value, unless one of them is no digit. -/
  | hex (lead : Option Nat) (seen : Nat) (value : Option Nat)
  /-- After a leading surrogate. -/
  | paired (lead : Nat)
  | pairedBackslash (lead : Nat)

inductive Mode where
  | value
  /-- The first item of an array, or its end. -/
  | firstItem
  | nextItem (items : List Json)
  /-- A comma or the end of an array. -/
  | afterItem (items : List Json)
  /-- The first member of an object, or its end. -/
  | firstName
  | nextName (members : List (String × Json))
  | colon (members : List (String × Json)) (name : String)
  /-- A comma or the end of an object. -/
  | afterMember (members : List (String × Json))
  /-- The rest of a word, and the value it stands for. -/
  | word (left : List Char) (value : Json)
  | numeral (n : Numeral)
  /-- More of a string, whose characters so far stand in reverse. -/
  | text (purpose : Purpose) (chars : List Char) (escape : Escape)
  /-- Nothing but blanks. -/
  | done (value : Json)

structure State where
  frames : List Frame
  mode : Mode

/-- Why the reader stops at a character, and how many octets past its start it does so. -/
structure Stop where
  cause : Cause
  reach : Nat

/-- How many containers may be nested. -/
def maxDepth : Nat := 127

def isBlank (c : Char) : Bool := c == ' ' || c == '\n' || c == '\t' || c == '\r'

/-- Stops just past the first octet of the character. -/
def refuse {α : Type} (cause : Cause) : Except Stop α := .error ⟨cause, 1⟩

/-- The state after a complete value. -/
def complete (frames : List Frame) (v : Json) : State :=
  match frames with
  | [] => ⟨[], .done v⟩
  | .array items :: rest => ⟨rest, .afterItem (v :: items)⟩
  | .object members name :: rest => ⟨rest, .afterMember (insertMember name v members)⟩

def openContainer (frames : List Frame) (m : Mode) : Except Stop State :=
  if frames.length < maxDepth then .ok ⟨frames, m⟩ else refuse .tooDeep

/-- The first character of a value. -/
def beginValue (frames : List Frame) (c : Char) : Except Stop State :=
  if c = 'n' then .ok ⟨frames, .word ['u', 'l', 'l'] .null⟩
  else if c = 't' then .ok ⟨frames, .word ['r', 'u', 'e'] (.bool true)⟩
  else if c = 'f' then .ok ⟨frames, .word ['a', 'l', 's', 'e'] (.bool false)⟩
  else if c = '-' then .ok ⟨frames, .numeral .sign⟩
  else if c = '"' then .ok ⟨frames, .text .value [] .none⟩
  else if c = '[' then openContainer frames .firstItem
  else if c = '{' then openContainer frames .firstName
  else match Numeral.digit? c with
    | some 0 => .ok ⟨frames, .numeral (.zero false)⟩
    | some d => .ok ⟨frames, .numeral (.whole false d)⟩
    | none => refuse .expectedValue

/-- A character between tokens. -/
def stepBetween (frames : List Frame) (m : Mode) (c : Char) : Except Stop State :=
  if isBlank c then .ok ⟨frames, m⟩ else
  match m with
  | .value => beginValue frames c
  | .firstItem =>
    if c = ']' then .ok (complete frames (.array [])) else beginValue (.array [] :: frames) c
  | .nextItem items =>
    if c = ']' then refuse .trailingComma else beginValue (.array items :: frames) c
  | .afterItem items =>
    if c = ',' then .ok ⟨frames, .nextItem items⟩
    else if c = ']' then .ok (complete frames (.array items.reverse))
    else refuse .expectedItemEnd
  | .firstName =>
    if c = '}' then .ok (complete frames (.object []))
    else if c = '"' then .ok ⟨frames, .text (.name []) [] .none⟩
    else refuse .expectedName
  | .nextName members =>
    if c = '"' then .ok ⟨frames, .text (.name members) [] .none⟩
    else if c = '}' then refuse .trailingComma
    else refuse .expectedName
  | .colon members name =>
    if c = ':' then .ok ⟨.object members name :: frames, .value⟩ else refuse .expectedColon
  | .afterMember members =>
    if c = ',' then .ok ⟨frames, .nextName members⟩
    else if c = '}' then .ok (complete frames (.object members))
    else refuse .expectedMemberEnd
  | _ => refuse .trailingCharacters

/-- The character that a one-letter escape stands for. -/
def simpleEscape? (c : Char) : Option Char :=
  if c = '"' ∨ c = '\\' ∨ c = '/' then some c
  else if c = 'b' then some '\x08'
  else if c = 'f' then some '\x0c'
  else if c = 'n' then some '\n'
  else if c = 'r' then some '\r'
  else if c = 't' then some '\t'
  else none

/-- What a complete hexadecimal escape of value `n` leads to: a character to add, or a wait for
the second half of a surrogate pair. -/
def resolveEscape (lead : Option Nat) (n : Nat) : Except Cause (Option Char × Escape) :=
  match lead with
  | some l =>
    if 0xDC00 ≤ n ∧ n ≤ 0xDFFF then
      .ok (some (Char.ofNat (0x10000 + (l - 0xD800) * 0x400 + (n - 0xDC00))), .none)
    else .error .loneSurrogate
  | none =>
    if 0xDC00 ≤ n ∧ n ≤ 0xDFFF then .error .loneSurrogate
    else if 0xD800 ≤ n ∧ n ≤ 0xDBFF then .ok (none, .paired n)
    else .ok (some (Char.ofNat n), .none)

/-- A character within a hexadecimal escape, which ends with its fourth octet. -/
def stepHex (lead : Option Nat) (seen : Nat) (value : Option Nat) (c : Char) :
    Except Stop (Option Char × Escape) :=
  let value' := match value, Text.hexDigit? c with
    | some v, some d => some (v * 16 + d)
    | _, _ => none
  let seen' := seen + Text.octetCount c
  if seen' < 4 then .ok (none, .hex lead seen' value')
  else match value' with
    | none => .error ⟨.badEscape, 4 - seen⟩
    | some n =>
      match resolveEscape lead n with
      | .ok r => .ok r
      | .error cause => refuse cause

/-- A character within a string other than its closing quote: the character it adds, if any. -/
def stepEscape (e : Escape) (c : Char) : Except Stop (Option Char × Escape) :=
  match e with
  | .none =>
    if c = '\\' then .ok (none, .backslash)
    else if c.toNat < 0x20 then refuse .controlCharacter
    else .ok (some c, .none)
  | .backslash =>
    match simpleEscape? c with
    | some d => .ok (some d, .none)
    | none => if c = 'u' then .ok (none, .hex none 0 (some 0)) else refuse .badEscape
  | .hex lead seen value => stepHex lead seen value c
  | .paired lead => if c = '\\' then .ok (none, .pairedBackslash lead) else refuse .missingSurrogate
  | .pairedBackslash lead =>
    if c = 'u' then .ok (none, .hex (some lead) 0 (some 0)) else refuse .missingSurrogate

def completeText (frames : List Frame) (purpose : Purpose) (s : String) : State :=
  match purpose with
  | .value => complete frames (.string s)
  | .name members => ⟨frames, .colon members s⟩

def step (s : State) (c : Char) : Except Stop State :=
  match s.mode with
  | .word (l :: left) v =>
    if c = l then
      .ok (if left.isEmpty then complete s.frames v else ⟨s.frames, .word left v⟩)
    else refuse .expectedWord
  | .numeral n =>
    match n.step c with
    | .more n' => .ok ⟨s.frames, .numeral n'⟩
    | .bad cause => refuse cause
    | .stop =>
      match n.finish with
      | .error cause => .error ⟨cause, 0⟩
      | .ok x =>
        let after := complete s.frames (.number x)
        stepBetween after.frames after.mode c
  | .text purpose chars .none =>
    if c = '"' then .ok (completeText s.frames purpose (String.ofList chars.reverse))
    else do
      let (added, e) ← stepEscape .none c
      return ⟨s.frames, .text purpose (added.toList ++ chars) e⟩
  | .text purpose chars e => do
    let (added, e') ← stepEscape e c
    return ⟨s.frames, .text purpose (added.toList ++ chars) e'⟩
  | m => stepBetween s.frames m c

/-- The value that has been read, when the text ends here. -/
def finish (s : State) : Except Cause Json :=
  match s.mode with
  | .done v => .ok v
  | .numeral n =>
    match n.finish with
    | .error cause => .error cause
    | .ok x =>
      match s.frames with
      | [] => .ok (.number x)
      | .array _ :: _ => .error .endInArray
      | .object _ _ :: _ => .error .endInObject
  | .value | .nextItem _ | .nextName _ | .word .. => .error .endInValue
  | .firstItem | .afterItem _ => .error .endInArray
  | .firstName | .colon .. | .afterMember _ => .error .endInObject
  | .text .. => .error .endInString

/-- Reads on from a state and a place. -/
def run (s : State) (p : Place) : List Char → Except Fault Json
  | [] => (finish s).mapError (⟨·, p⟩)
  | c :: cs =>
    match step s c with
    | .ok s' => run s' (p.after c) cs
    | .error e => .error ⟨e.cause, p.within c e.reach⟩

def State.start : State := ⟨[], .value⟩

def read (cs : List Char) : Except Fault Json := run .start .start cs

end Elicit.Json

import Elicit.Pattern.Regex
import Elicit.Text.Blank
import Elicit.Unicode.Property

/-! Escapes and bracketed sets, as strict notation has them. -/
namespace Elicit.Pattern

open Unicode (CharSet)

/-- Why strict notation cannot be read on. -/
inductive Halt where
  | malformed
  /-- It looks around or back, first where so many characters are left. -/
  | beyond (left : Nat)
  deriving Repr, DecidableEq

structure Classes where
  digits : CharSet
  blanks : CharSet
  words : CharSet

namespace Classes

/-- Digits and word characters of ASCII, and a few blanks. -/
def basic : Classes where
  digits := .read ["30-39"]
  blanks := .read ["9-D 20 A0 2003 2029 FEFF"]
  words := .read ["30-39 41-5A 5F 61-7A"]

/-- All digits, blanks and word characters. -/
def full : Classes where
  digits := Unicode.digits
  blanks := Unicode.blanks
  words := Unicode.wordCharacters

/-- The set of a class letter; a capital letter stands for the complement. -/
def find? (k : Classes) (c : Char) : Option CharSet :=
  match c with
  | 'd' => some k.digits
  | 'D' => some (.complement k.digits)
  | 's' => some k.blanks
  | 'S' => some (.complement k.blanks)
  | 'w' => some k.words
  | 'W' => some (.complement k.words)
  | _ => none

end Classes

inductive Escape where
  | char (c : Char)
  | set (s : CharSet)
  | assertion (a : Assertion)

structure Mode where
  classes : Classes
  anyCase : Bool
  /-- Whether blanks and comments are skipped. -/
  spaced : Bool

/-- The text without the blanks and comments at its start, where those are skipped. -/
def skipBlanks (spaced comment : Bool) : List Char → List Char
  | [] => []
  | c :: cs =>
    if !spaced then c :: cs
    else if comment then skipBlanks true (c != '\n') cs
    else if c = '#' then skipBlanks true true cs
    else if Text.isBlank c then skipBlanks true false cs
    else c :: cs

def charOf? (n : Nat) : Option Char := if n.isValidChar then some (Char.ofNat n) else none

def hexNumber? (cs : List Char) : Option Nat :=
  if cs.isEmpty then none
  else cs.foldlM (fun n c => do return 16 * n + (← Text.hexDigit? c)) 0

/-- A character by its number, in so many digits or in braces, and the rest. -/
def readHex (digits : Nat) (cs : List Char) : Except Halt (Char × List Char) :=
  let (numeral, rest) := match cs with
    | '{' :: cs => (cs.takeWhile (· != '}'), (cs.dropWhile (· != '}')))
    | _ => (cs.take digits, '}' :: cs.drop digits)
  match rest, (hexNumber? numeral).bind charOf? with
  | '}' :: rest, some c =>
    if cs.head? = some '{' ∨ numeral.length = digits then .ok (c, rest) else .error .malformed
  | _, _ => .error .malformed

/-- The set of a property's name, whether its complement is meant, and the rest. A name may give the
value of another property. -/
def readProperty (negated : Bool) (cs : List Char) :
    Except Halt (CharSet × Bool × List Char) := do
  let (name, rest) ← match cs with
    | '{' :: cs =>
      match cs.dropWhile (· != '}') with
      | '}' :: rest => pure (cs.takeWhile (· != '}'), rest)
      | _ => throw .malformed
    | c :: cs => if c = '\\' then throw .malformed else pure ([c], cs)
    | [] => throw .malformed
  let key := name.takeWhile fun c => c != '=' && c != ':' && c != '!'
  let found := match name.drop key.length with
    | '!' :: '=' :: value => (Unicode.findValue? key value).map (·, !negated)
    | '=' :: value | ':' :: value => (Unicode.findValue? key value).map (·, negated)
    | _ => (Unicode.findProperty? name).map (·, negated)
  match found with
  | some (s, negated) => return (s, negated, rest)
  | none => throw .malformed

/-- Whether a backslash before the character makes it stand for itself. -/
def isEscapable (c : Char) : Bool :=
  c.toNat < 128 && !c.isAlphanum && c != '<' && c != '>'

def letterEscape? (c : Char) : Option Char :=
  match c with
  | 'a' => some '\x07'
  | 'f' => some '\x0c'
  | 't' => some '\t'
  | 'n' => some '\n'
  | 'r' => some '\r'
  | 'v' => some '\x0b'
  | _ => none

def assertionEscape? (c : Char) : Option Assertion :=
  match c with
  | 'A' => some .textStart
  | 'z' => some .textEnd
  | 'b' => some .wordEdge
  | 'B' => some .noWordEdge
  | '<' => some .wordStart
  | '>' => some .wordEnd
  | _ => none

/-- The control character of a letter. -/
def controlOf (c : Char) : Char := Char.ofNat (c.toNat % 32)

def readEscape (m : Mode) (cs : List Char) : Except Halt (Escape × List Char) :=
  match cs with
  | [] => .error .malformed
  | c :: rest =>
    let hex (digits : Nat) := do
      let (c, rest) ← readHex digits rest
      return (.char c, rest)
    if c.isDigit then .error (.beyond cs.length)
    else if c = 'x' then hex 2
    else if c = 'u' then hex 4
    else if c = 'U' then hex 8
    else if c = 'p' ∨ c = 'P' then do
      let (s, negated, rest) ← readProperty (c = 'P') rest
      return (.set (.negatedIf negated (.foldedIf m.anyCase s)), rest)
    else match m.classes.find? c, letterEscape? c, assertionEscape? c with
      | some s, _, _ => .ok (.set s, rest)
      | _, some d, _ => .ok (.char d, rest)
      | _, _, some a =>
        if a = .wordEdge ∧ rest.head? = some '{' then .error .malformed
        else .ok (.assertion a, rest)
      | _, _, _ =>
        if isEscapable c then .ok (.char c, rest)
        else match c, rest with
          | 'c', letter :: rest =>
            if letter.isAlpha then .ok (.char (controlOf letter), rest) else .error .malformed
          | _, _ => .error .malformed

def namedClasses : List (String × CharSet) :=
  [("alnum", .read ["30-39 41-5A 61-7A"]), ("alpha", .read ["41-5A 61-7A"]),
    ("ascii", .read ["0-7F"]), ("blank", .read ["9 20"]), ("cntrl", .read ["0-1F 7F"]),
    ("digit", .read ["30-39"]), ("graph", .read ["21-7E"]), ("lower", .read ["61-7A"]),
    ("print", .read ["20-7E"]), ("punct", .read ["21-2F 3A-40 5B-60 7B-7E"]),
    ("space", .read ["9-D 20"]), ("upper", .read ["41-5A"]),
    ("word", .read ["30-39 41-5A 5F 61-7A"]), ("xdigit", .read ["30-39 41-46 61-66"])]

def readNamedClass? (anyCase : Bool) (cs : List Char) : Option (CharSet × List Char) := do
  let (negated, cs) ← match cs with
    | ':' :: '^' :: cs => some (true, cs)
    | ':' :: cs => some (false, cs)
    | _ => none
  let s ← namedClasses.lookup (String.ofList (cs.takeWhile (· != ':')))
  match cs.dropWhile (· != ':') with
  | ':' :: ']' :: rest => some (.negatedIf negated (.foldedIf anyCase s), rest)
  | _ => none

inductive SetOperation where
  | intersection
  | difference
  | symmetricDifference

def SetOperation.apply (anyCase : Bool) (o : SetOperation) (a b : CharSet) : CharSet :=
  let a := CharSet.foldedIf anyCase a
  let b := CharSet.foldedIf anyCase b
  match o with
  | .intersection => .intersection a b
  | .difference => .difference a b
  | .symmetricDifference => .symmetricDifference a b

/-- The set read so far: what precedes the last operation, combined with what follows it. -/
def combined (anyCase : Bool) (left : Option (SetOperation × CharSet)) (s : CharSet) : CharSet :=
  match left with
  | some (o, l) => o.apply anyCase l s
  | none => s

def addSet (s t : CharSet) : CharSet := if s = .none then t else .union s t

def readItem (m : Mode) (cs : List Char) : Except Halt (Escape × List Char) :=
  match cs with
  | [] => .error .malformed
  | '\\' :: cs => readEscape m cs
  | c :: cs => .ok (.char c, cs)

def readRange (m : Mode) (cs : List Char) : Except Halt (CharSet × List Char) := do
  let (first, rest) ← readItem m cs
  let rest := skipBlanks m.spaced false rest
  let ranges := match rest with
    | '-' :: rest =>
      match (skipBlanks m.spaced false rest).head? with
      | some c => c != ']' && c != '-'
      | none => true
    | _ => false
  if rest.isEmpty then throw .malformed
  if !ranges then
    match first with
    | .char c => return (.single c, rest)
    | .set s => return (s, rest)
    | .assertion _ => throw .malformed
  let (last, rest) ← readItem m (skipBlanks m.spaced false (rest.drop 1))
  match first, last with
  | .char lo, .char hi => if lo ≤ hi then return (.range lo hi, rest) else throw .malformed
  | _, _ => throw .malformed

mutual

def readSet (m : Mode) : Nat → List Char → Except Halt (CharSet × List Char)
  | 0, _ => .error .malformed
  | fuel + 1, cs =>
    let skip := skipBlanks m.spaced false
    let cs := skip cs
    let (negated, cs) := match cs with
      | '^' :: cs => (true, skip cs)
      | _ => (false, cs)
    match cs with
    | '-' :: rest =>
      readItems m fuel negated none (.single '-') (skip (rest.dropWhile (· == '-')))
    | ']' :: rest => readItems m fuel negated none (.single ']') (skip rest)
    | _ => readItems m fuel negated none .none cs

/-- Reads on within brackets: `left` precedes the last operation, and `s` holds what has been read
since. -/
def readItems (m : Mode) : Nat → Bool → Option (SetOperation × CharSet) → CharSet → List Char →
    Except Halt (CharSet × List Char)
  | 0, _, _, _, _ => .error .malformed
  | fuel + 1, negated, left, s, cs =>
    let operation (o : SetOperation) (rest : List Char) :=
      readItems m fuel negated (some (o, combined m.anyCase left s)) .none rest
    match skipBlanks m.spaced false cs with
    | [] => .error .malformed
    | ']' :: rest =>
      .ok (.negatedIf negated (.foldedIf m.anyCase (combined m.anyCase left s)), rest)
    | '[' :: rest =>
      match readNamedClass? m.anyCase rest with
      | some (t, rest) => readItems m fuel negated left (addSet s t) rest
      | none => do
        let (t, rest) ← readSet m fuel rest
        readItems m fuel negated left (addSet s t) rest
    | '&' :: '&' :: rest => operation .intersection rest
    | '-' :: '-' :: rest => operation .difference rest
    | '~' :: '~' :: rest => operation .symmetricDifference rest
    | cs => do
      let (t, rest) ← readRange m cs
      readItems m fuel negated left (addSet s t) rest

end

end Elicit.Pattern

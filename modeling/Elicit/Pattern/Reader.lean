import Elicit.Pattern.Strict

/-! Reading expressions, those included that look around or back. -/
namespace Elicit.Pattern

open Unicode (CharSet)

/-- What holds of an expression as a whole. -/
structure Bounds where
  classes : Classes
  /-- References back have numbers below this one. -/
  numbers : Nat
  /-- Control characters are written by their letter while more characters than these are left. -/
  controls : Nat

/-- The flags that an expression sets for what follows. -/
structure Flags where
  anyCase : Bool
  multiline : Bool
  anyCharacter : Bool
  reluctant : Bool
  spaced : Bool

def Flags.none : Flags := ⟨false, false, false, false, false⟩

/-- What has been read so far: the flags, the number of groups, their names, and whether there are
references by number. -/
structure Progress where
  flags : Flags
  groups : Nat
  names : List (List Char × Nat)
  numbered : Bool

inductive Enclosure where
  | group (number : Nat)
  /-- No group; the flags are those of before afterwards. -/
  | plain (flags : Flags)
  | ahead (negated : Bool)
  | behind (negated : Bool)
  | atomic

/-- An open parenthesis: what it encloses, the alternatives around it, last first, and what precedes
it in its own alternative. -/
structure Frame where
  enclosure : Enclosure
  alternatives : List Regex
  before : Regex

/-- What is being skipped between the parts of an expression. -/
inductive Aside where
  | nothing
  | line
  | parenthesis
  | escape

/-- The text after blanks and comments, unless a comment has no end. -/
def skipAside (spaced : Bool) : Aside → List Char → Option (List Char)
  | .nothing, '(' :: '?' :: '#' :: cs => skipAside spaced .parenthesis cs
  | .nothing, c :: cs =>
    if spaced && c == '#' then skipAside spaced .line cs
    else if spaced && (c == ' ' || c == '\r' || c == '\n' || c == '\t') then
      skipAside spaced .nothing cs
    else some (c :: cs)
  | .line, c :: cs => skipAside spaced (if c = '\n' then .nothing else .line) cs
  | .parenthesis, c :: cs =>
    skipAside spaced (if c = ')' then .nothing else if c = '\\' then .escape else .parenthesis) cs
  | .escape, _ :: cs => skipAside spaced .parenthesis cs
  | .nothing, [] | .line, [] => some []
  | .parenthesis, [] | .escape, [] => none

def readDecimal? (cs : List Char) : Option (Nat × List Char) :=
  let digits := cs.takeWhile Char.isDigit
  if digits.isEmpty then none else some (Nat.ofDigitChars 10 digits 0, cs.drop digits.length)

/-- The bounds of a counted repetition after its opening brace, and the rest. -/
def readCount? (spaced : Bool) (cs : List Char) : Option ((Nat × Option Nat) × List Char) := do
  let skip := skipAside spaced .nothing
  let cs ← skip cs
  let (least, rest) ← if cs.head? = some ',' then some (0, cs) else readDecimal? cs
  match ← skip rest with
  | '}' :: rest => return ((least, some least), rest)
  | ',' :: rest =>
    let rest ← skip rest
    let (most, rest) := match readDecimal? rest with
      | some (most, rest) => (some most, rest)
      | none => (none, rest)
    match ← skip rest with
    | '}' :: rest => return ((least, most), rest)
    | _ => none
  | _ => none

/-- The bounds of a repetition, and the rest. -/
def readQuantifier? (spaced : Bool) (cs : List Char) : Option ((Nat × Option Nat) × List Char) :=
  match cs with
  | '?' :: rest => some ((0, some 1), rest)
  | '*' :: rest => some ((0, none), rest)
  | '+' :: rest => some ((1, none), rest)
  | '{' :: rest => readCount? spaced rest
  | _ => none

/-- Reads the quantifier of an item, if it has one, and gives the rest. A plus sign after it allows
the first match only. -/
def readRepetition? (f : Flags) (r : Regex) (cs : List Char) : Option (Regex × List Char) := do
  let cs ← skipAside f.spaced .nothing cs
  match readQuantifier? f.spaced cs with
  | none => return (r, cs)
  | some ((least, most), rest) =>
    if !r.isRepeatable || most.any (· < least) then none
    else
      let (isLazy, rest) := match ← skipAside f.spaced .nothing rest with
        | '?' :: rest => (true, rest)
        | rest => (false, rest)
      let repeated := .rep r least most (isLazy == f.reluctant)
      match rest with
      | '+' :: rest => return (.atomic repeated, rest)
      | _ => return (repeated, rest)

/-- The flags of a flag group after its question mark, whether it opens a group, and the rest; `n`
characters of it have been read. -/
def readFlags? (f : Flags) (off : Bool) (n : Nat) : List Char → Option (Flags × Bool × List Char)
  | [] => none
  | c :: cs =>
    let onward (f : Flags) := readFlags? f off (n + 1) cs
    match c with
    | ')' => if n = 0 ∨ (off ∧ n = 1) then none else some (f, false, cs)
    | ':' => if off ∧ n = 1 then none else some (f, true, cs)
    | '-' => if off then none else readFlags? f true (n + 1) cs
    | 'u' => if off then none else onward f
    | 'i' => onward { f with anyCase := !off }
    | 'm' => onward { f with multiline := !off }
    | 's' => onward { f with anyCharacter := !off }
    | 'U' => onward { f with reluctant := !off }
    | 'x' => onward { f with spaced := !off }
    | _ => none

/-- A name of letters, numbers and underscores up to a closing character, and the rest. -/
def readName? (close : Char) (cs : List Char) : Option (List Char × List Char) :=
  let name := cs.takeWhile fun c =>
    c == '_' || Unicode.alphabetic.holds c || Unicode.numbers.holds c
  match cs.drop name.length with
  | c :: rest => if c = close ∧ !name.isEmpty then some (name, rest) else none
  | [] => none

/-- A reference to a group of that number, which has to be open or closed by now. -/
def referTo? (p : Progress) (number : Nat) : Option Regex :=
  if number ≤ p.groups then some (.backreference number) else none

def readReference? (p : Progress) (close : Char) (cs : List Char) : Option (Regex × List Char) := do
  let (name, rest) ← readName? close cs
  let number ← (p.names.lookup name).or
    (if name.all Char.isDigit then some (Nat.ofDigitChars 10 name 0) else none)
  return (← referTo? p number, rest)

def readNumbered? (digits : Nat) (cs : List Char) : Option (Char × List Char) :=
  match cs with
  | '{' :: rest =>
    let numeral := rest.takeWhile (· != '}')
    if 8 < numeral.length then none
    else do return (← (hexNumber? numeral).bind charOf?, rest.drop (numeral.length + 1))
  | _ =>
    if cs.length < digits then none
    else do return (← (hexNumber? (cs.take digits)).bind charOf?, cs.drop digits)

def literal (f : Flags) (c : Char) : Regex := .set (.foldedIf f.anyCase (.single c))

def readCharacter? (b : Bounds) (cs : List Char) : Option (Char × List Char) :=
  match cs with
  | 'x' :: rest => readNumbered? 2 rest
  | 'u' :: rest => readNumbered? 4 rest
  | 'U' :: rest => readNumbered? 8 rest
  | 'e' :: rest => some ('\x1b', rest)
  | 'c' :: letter :: rest =>
    if b.controls < cs.length ∧ letter.isAlpha then some (controlOf letter, rest) else none
  | c :: rest =>
    match letterEscape? c with
    | some d => some (d, rest)
    | none => if 0x20 ≤ c.toNat ∧ c.toNat < 0x80 ∧ !c.isAlphanum then some (c, rest) else none
  | [] => none

def propertyText? (cs : List Char) : Option (List Char × List Char) :=
  match cs with
  | '{' :: _ =>
    match cs.dropWhile (· != '}') with
    | _ :: rest => some (cs.take (cs.length - rest.length), rest)
    | [] => none
  | c :: rest => some ([c], rest)
  | [] => none

/-- The written form of a character that stands for itself. -/
def quotedCharacter (c : Char) : List Char := if isEscapable c then ['\\', c] else [c]

/-- What an escape within brackets is in strict notation, and the rest. -/
def strictEscape? (b : Bounds) (cs : List Char) : Option (List Char × List Char) :=
  match cs with
  | 'h' :: rest => some ("[0-9A-Fa-f]".toList, rest)
  | 'H' :: rest => some ("[^0-9A-Fa-f]".toList, rest)
  | 'b' :: rest => some (['\x08'], rest)
  | c :: rest =>
    if (b.classes.find? c).isSome then some (['\\', c], rest)
    else if c = 'p' ∨ c = 'P' then
      (propertyText? rest).map fun (text, rest) => ('\\' :: c :: text, rest)
    else (readCharacter? b cs).map fun (d, rest) => (quotedCharacter d, rest)
  | [] => none

/-- A bracketed set in strict notation, up to the bracket that closes the first one, and the rest;
`depth` brackets are open, and `done` is what has been read, last first. -/
def strictBrackets? (b : Bounds) : Nat → Nat → List Char → List Char →
    Option (List Char × List Char)
  | 0, _, _, _ => none
  | fuel + 1, depth, done, cs =>
    match cs with
    | [] => none
    | '\\' :: rest => do
      let (text, rest) ← strictEscape? b rest
      strictBrackets? b fuel depth (text.reverse ++ done) rest
    | '[' :: rest => strictBrackets? b fuel (depth + 1) ('[' :: done) rest
    | ']' :: rest =>
      if depth ≤ 1 then some ((']' :: done).reverse, rest)
      else strictBrackets? b fuel (depth - 1) (']' :: done) rest
    | c :: rest => strictBrackets? b fuel depth (c :: done) rest

def readBrackets? (b : Bounds) (f : Flags) (cs : List Char) : Option (Regex × List Char) := do
  let (caret, cs) := match cs with
    | '^' :: cs => (['^'], cs)
    | _ => ([], cs)
  let (bracket, cs) := match cs with
    | ']' :: cs => ([']'], cs)
    | _ => ([], cs)
  let (text, rest) ← strictBrackets? b (cs.length + 1) 1 [] cs
  let text := caret ++ bracket ++ text
  match readSet ⟨b.classes, f.anyCase, false⟩ (2 * text.length + 2) text with
  | .ok (s, []) => return (.set s, rest)
  | _ => none

def readEscape? (b : Bounds) (p : Progress) (cs : List Char) :
    Option (Regex × Progress × List Char) := do
  let f := p.flags
  match cs with
  | [] => none
  | c :: rest =>
    if c.isDigit then
      let (number, rest) ← readDecimal? cs
      if number < b.numbers then
        return (← referTo? p number, { p with numbered := true }, rest)
      else none
    else match c with
      | 'k' =>
        let (r, rest) ← match rest with
          | '\'' :: rest => readReference? p '\'' rest
          | '<' :: rest => readReference? p '>' rest
          | _ => none
        return (r, p, rest)
      | 'Z' =>
        return (.ahead false (.seq (.rep (.set (.single '\n')) 0 none true) (.assertion .textEnd)),
          p, rest)
      | 'h' => return (.set (.read ["30-39 41-46 61-66"]), p, rest)
      | 'H' => return (.set (.complement (.read ["30-39 41-46 61-66"])), p, rest)
      | 'K' => return (.empty, p, rest)
      | 'G' => return (.assertion .textStart, p, rest)
      | _ =>
        if c = 'p' ∨ c = 'P' then
          match readProperty (c = 'P') rest with
          | .ok (s, negated, rest) =>
            return (.set (.negatedIf negated (.foldedIf f.anyCase s)), p, rest)
          | .error _ => none
        else match b.classes.find? c, assertionEscape? c with
          | some s, _ => return (.set (.foldedIf f.anyCase s), p, rest)
          | _, some a =>
            if a = .wordEdge ∧ rest.head? = some '{' then none else return (.assertion a, p, rest)
          | _, _ =>
            let (d, rest) ← readCharacter? b cs
            return (literal f d, p, rest)

/-- What an opening parenthesis leads to: a part that is complete, or something enclosed. -/
inductive Opening where
  | part (r : Regex)
  | enclosure (e : Enclosure)

def readOpening? (p : Progress) (cs : List Char) : Option (Opening × Progress × List Char) := do
  let inGroup := { p with groups := p.groups + 1 }
  let named (rest : List Char) := do
    let (name, rest) ← readName? '>' rest
    return (Opening.enclosure (.group inGroup.groups),
      { inGroup with names := (name, inGroup.groups) :: p.names }, rest)
  match ← skipAside p.flags.spaced .nothing cs with
  | '?' :: '=' :: rest => return (.enclosure (.ahead false), p, rest)
  | '?' :: '!' :: rest => return (.enclosure (.ahead true), p, rest)
  | '?' :: '<' :: '=' :: rest => return (.enclosure (.behind false), p, rest)
  | '?' :: '<' :: '!' :: rest => return (.enclosure (.behind true), p, rest)
  | '?' :: '<' :: rest | '?' :: 'P' :: '<' :: rest => named rest
  | '?' :: 'P' :: '=' :: rest =>
    let (r, rest) ← readReference? p ')' rest
    return (.part r, p, rest)
  | '?' :: '>' :: rest => return (.enclosure .atomic, p, rest)
  | '?' :: rest =>
    let (f, isGroup, rest) ← readFlags? p.flags false 0 rest
    let opening := if isGroup then .enclosure (.plain p.flags) else .part .empty
    return (opening, { p with flags := f }, rest)
  | rest => return (.enclosure (.group inGroup.groups), inGroup, rest)

/-- The alternatives read, the last of them first. References by number do not go with names,
unless there are several alternatives. -/
def closeAlternatives? (p : Progress) (alternatives : List Regex) (last : Regex) : Option Regex :=
  if alternatives.isEmpty && p.numbered && !p.names.isEmpty then none
  else some (.ofAlternatives (last :: alternatives).reverse)

/-- Parentheses may not be nested deeper. -/
def maxDepth : Nat := 63

/-- Reads an expression: `frames` are open, `alternatives` of the innermost are complete, last
first, and `done` precedes in the present one. -/
def readFrom? (b : Bounds) : Nat → List Frame → List Regex → Regex → Progress → List Char →
    Option Regex
  | 0, _, _, _, _, _ => none
  | fuel + 1, frames, alternatives, done, p, cs => do
    let item (r : Regex) (p : Progress) (rest : List Char) := do
      let (r, rest) ← readRepetition? p.flags r rest
      readFrom? b fuel frames alternatives (done.followedBy r) p rest
    match ← skipAside p.flags.spaced .nothing cs with
    | [] => if frames.isEmpty then closeAlternatives? p alternatives done else none
    | '|' :: rest => readFrom? b fuel frames (done :: alternatives) .empty p rest
    | '(' :: rest =>
      if maxDepth ≤ frames.length then none
      else match ← readOpening? p rest with
        | (.part r, p, rest) => item r p rest
        | (.enclosure e, p, rest) =>
          readFrom? b fuel (⟨e, alternatives, done⟩ :: frames) [] .empty p rest
    | ')' :: rest =>
      match frames with
      | [] => none
      | frame :: frames =>
        let inner ← closeAlternatives? p alternatives done
        let (r, p) ← match frame.enclosure with
          | .group number => some (.group number inner, p)
          | .plain flags => some (inner, { p with flags := flags })
          | .ahead negated => some (.ahead negated inner, p)
          | .behind negated => (inner.lookBehind? negated).map (·, p)
          | .atomic => some (.atomic inner, p)
        let (r, rest) ← readRepetition? p.flags r rest
        readFrom? b fuel frames frame.alternatives (frame.before.followedBy r) p rest
    | '[' :: rest =>
      let (r, rest) ← readBrackets? b p.flags rest
      item r p rest
    | '\\' :: rest =>
      let (r, p, rest) ← readEscape? b p rest
      item r p rest
    | '.' :: rest =>
      item (.set (if p.flags.anyCharacter then .all else .complement (.single '\n'))) p rest
    | '^' :: rest => item (.assertion (if p.flags.multiline then .lineStart else .textStart)) p rest
    | '$' :: rest => item (.assertion (if p.flags.multiline then .lineEnd else .textEnd)) p rest
    | c :: rest => if c = '?' ∨ c = '*' ∨ c = '+' then none else item (literal p.flags c) p rest

/-- Reads an expression that takes up no more room than it may. -/
def readRegex? (b : Bounds) (cs : List Char) : Option Regex := do
  let r ← readFrom? b (cs.length + 1) [] [] .empty ⟨.none, 0, [], false⟩ cs
  let r := r.keepGroups r.referenced
  if r.size ≤ Regex.maxSize then some r else none

end Elicit.Pattern

import Elicit.Pattern.Bracket

/-! Strict notation, which every expression is checked against: groups, sets, repetitions and
escapes have to be complete. Where it first looks around or back, the notation ends. -/
namespace Elicit.Pattern

/-- Whether a name of a group may have the character. -/
def isNameCharacter (first : Bool) (c : Char) : Bool :=
  c == '_' || Unicode.alphabetic.holds c ||
    (!first && (c == '.' || c == '[' || c == ']' || Unicode.numbers.holds c))

/-- The name of a group up to its closing bracket, and the rest. -/
def readGroupName (cs : List Char) : Except Halt (List Char × List Char) :=
  let name := cs.takeWhile (· != '>')
  match name, cs.dropWhile (· != '>') with
  | c :: more, _ :: rest =>
    if isNameCharacter true c && more.all (isNameCharacter false) then .ok (name, rest)
    else .error .malformed
  | _, _ => .error .malformed

def flagLetters : List Char := ['i', 'm', 's', 'U', 'u', 'R', 'x']

/-- What a flag group says of blanks, whether it opens a group, and the rest. A flag is given
once, and a minus sign comes once and not last. -/
def readFlags (spaced : Bool) (cs : List Char) : Except Halt (Bool × Bool × List Char) :=
  let flags := cs.takeWhile fun c => c != ':' && c != ')'
  let on := flags.takeWhile (· != '-')
  let off := flags.drop (on.length + 1)
  let isDuplicated := !(on ++ off).Nodup
  let isUnknown := (on ++ off).any fun c => !flagLetters.contains c
  let isDangling := on.length < flags.length && off.isEmpty
  let spaced := if off.contains 'x' then false else spaced || on.contains 'x'
  match cs.drop flags.length with
  | c :: rest =>
    if isDuplicated || isUnknown || isDangling || (c = ')' && flags.isEmpty) then .error .malformed
    else .ok (spaced, c = ':', rest)
  | [] => .error .malformed

/-- A number with blanks around it, and the rest. -/
def readNumber (spaced : Bool) (cs : List Char) : Except Halt (Nat × List Char) :=
  let cs := cs.dropWhile Text.isBlank
  let digits := cs.takeWhile Char.isDigit
  let rest := skipBlanks spaced false ((cs.drop digits.length).dropWhile Text.isBlank)
  let n := Nat.ofDigitChars 10 digits 0
  if digits.isEmpty ∨ 4294967295 < n then .error .malformed else .ok (n, rest)

def skipCount (spaced : Bool) (cs : List Char) : Except Halt (List Char) := do
  let (least, rest) ← readNumber spaced (skipBlanks spaced false cs)
  match rest with
  | '}' :: rest => return rest
  | ',' :: rest =>
    match skipBlanks spaced false rest with
    | '}' :: rest => return rest
    | rest =>
      match ← readNumber spaced rest with
      | (most, '}' :: rest) => if least ≤ most then return rest else throw .malformed
      | _ => throw .malformed
  | _ => throw .malformed

def skipLazy (cs : List Char) : List Char :=
  match cs with
  | '?' :: rest => rest
  | _ => cs

/-- Checks an expression: `groups` tells for each open group whether blanks were skipped before it,
`names` are those of groups so far, and `repeatable` tells whether something to repeat precedes. -/
def checkFrom : Nat → List Bool → List (List Char) → Bool → Bool → List Char → Except Halt Unit
  | 0, _, _, _, _, _ => .error .malformed
  | fuel + 1, groups, names, spaced, repeatable, cs =>
    let skip := skipBlanks spaced false
    let onward := checkFrom fuel groups names spaced
    match skip cs with
    | [] => if groups.isEmpty then .ok () else .error .malformed
    | '(' :: rest =>
      let named (rest : List Char) := do
        let (name, rest) ← readGroupName rest
        if names.contains name then throw .malformed
        checkFrom fuel (spaced :: groups) (name :: names) spaced false rest
      match skip rest with
      | '?' :: '=' :: rest | '?' :: '!' :: rest
      | '?' :: '<' :: '=' :: rest | '?' :: '<' :: '!' :: rest => .error (.beyond rest.length)
      | '?' :: 'P' :: '<' :: rest | '?' :: '<' :: rest => named rest
      | '?' :: rest => do
        let (inner, isGroup, rest) ← readFlags spaced rest
        if isGroup then checkFrom fuel (spaced :: groups) names inner false rest
        else checkFrom fuel groups names inner false rest
      | rest => checkFrom fuel (spaced :: groups) names spaced false rest
    | ')' :: rest =>
      match groups with
      | outer :: groups => checkFrom fuel groups names outer true rest
      | [] => .error .malformed
    | '|' :: rest => onward false rest
    | '[' :: rest => do
      let (_, rest) ← readSet ⟨.basic, false, spaced⟩ (2 * rest.length + 2) rest
      onward true rest
    | '\\' :: rest => do
      let (_, rest) ← readEscape ⟨.basic, false, spaced⟩ rest
      onward true rest
    | '{' :: rest => do
      if !repeatable then throw .malformed
      onward true (skipLazy (← skipCount spaced rest))
    | c :: rest =>
      if c = '?' ∨ c = '*' ∨ c = '+' then
        if repeatable then onward true (skipLazy rest) else .error .malformed
      else onward true rest

def check (cs : List Char) : Except Halt Unit :=
  checkFrom (cs.length + 1) [] [] false false cs

end Elicit.Pattern

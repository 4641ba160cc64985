import Elicit.Pattern.Regex
import Elicit.Unicode.Property

/-! Matching: the places in a text that a match may reach. -/
namespace Elicit

/-- A place in a text, and where groups started and stopped on the way there. -/
structure Cursor where
  position : Nat
  starts : List (Nat × Nat)
  stops : List (Nat × Nat)
  deriving Repr, DecidableEq

namespace Cursor

/-- A place that no group leads to. -/
def start (position : Nat) : Cursor := ⟨position, [], []⟩

/-- The place with a value for a group in place of an earlier one. -/
def keep (number value : Nat) : List (Nat × Nat) → List (Nat × Nat)
  | [] => [(number, value)]
  | (n, v) :: rest =>
    if n = number then (number, value) :: rest else (n, v) :: keep number value rest

def openGroup (number : Nat) (c : Cursor) : Cursor :=
  { c with starts := keep number c.position c.starts }

def closeGroup (number : Nat) (c : Cursor) : Cursor :=
  { c with stops := keep number c.position c.stops }

def advance (n : Nat) (c : Cursor) : Cursor := { c with position := c.position + n }

/-- Puts a place before those of a list that are further on; `rest` adds what follows it. -/
def mergeInto (c : Cursor) (rest : List Cursor → List Cursor) : List Cursor → List Cursor
  | [] => c :: rest []
  | d :: ds =>
    if d.position < c.position then d :: mergeInto c rest ds
    else if d = c then c :: rest ds
    else c :: rest (d :: ds)

/-- The places of two lists, both by position. -/
def merge : List Cursor → List Cursor → List Cursor
  | [], ds => ds
  | c :: cs, ds => mergeInto c (merge cs) ds

/-- The places that a step leads to from any of some places. -/
def reach (step : Cursor → List Cursor) (cs : List Cursor) : List Cursor :=
  cs.foldl (fun reached c => merge (step c) reached) []

/-- The places reached by exactly `n` steps. -/
def times (step : Cursor → List Cursor) : Nat → List Cursor → List Cursor
  | 0, cs => cs
  | n + 1, cs =>
    match reach step cs with
    | [] => []
    | next => if next = cs then cs else times step n next

/-- The places reached by at most `n` steps that move on; `frontier` holds those found last. -/
def upTo (step : Cursor → List Cursor) : Nat → List Cursor → List Cursor → List Cursor
  | 0, found, _ => found
  | n + 1, found, frontier =>
    let further := reach (fun c => (step c).filter (c.position < ·.position)) frontier
    match further.filter fun c => !found.contains c with
    | [] => found
    | next => upTo step n (merge next found) next

/-- The places reached by any number of steps that move on, position after position. -/
def closure (step : Cursor → List Cursor) : Nat → Nat → List Cursor → List Cursor
  | 0, _, work => work
  | n + 1, position, work =>
    let here := work.takeWhile (·.position ≤ position)
    let later := work.dropWhile (·.position ≤ position)
    let next := here.foldl
      (fun found c => merge ((step c).filter (position < ·.position)) found) later
    here ++ closure step n (position + 1) next

end Cursor

namespace Assertion

def isWord (c : Char) : Bool :=
  if c.toNat < 128 then c.isAlphanum || c == '_' else Unicode.wordCharacters.holds c

/-- Whether the condition holds between two characters, where there are such. -/
def holdsBetween (a : Assertion) (before after : Option Char) : Bool :=
  let word (c : Option Char) := c.any isWord
  match a with
  | .textStart => before.isNone
  | .textEnd => after.isNone
  | .lineStart => before.all (· == '\n')
  | .lineEnd => after.all (· == '\n')
  | .wordEdge => word before != word after
  | .noWordEdge => word before == word after
  | .wordStart => !word before && word after
  | .wordEnd => word before && !word after

def holds (a : Assertion) (text : Array Char) (position : Nat) : Bool :=
  a.holdsBetween (if position = 0 then none else text[position - 1]?) text[position]?

end Assertion

namespace Regex

/-- What a group has matched last. -/
def captured? (text : Array Char) (number : Nat) (c : Cursor) : Option (List Char) := do
  let start ← c.starts.lookup number
  let stop ← c.stops.lookup number
  return (text.extract start stop).toList

/-- The place after the given characters, if they follow. -/
def afterText? (text : Array Char) (cs : List Char) (c : Cursor) : Option Cursor :=
  if (text.extract c.position (c.position + cs.length)).toList = cs then some (c.advance cs.length)
  else none

/-- The first match of a repetition; `body` gives that of its expression. -/
def firstRepeat (body : (Cursor → Option Cursor) → Cursor → Option Cursor) (greedy : Bool)
    (k : Cursor → Option Cursor) : Nat → Nat → Option Nat → Cursor → Option Cursor
  | 0, _, _, _ => none
  | fuel + 1, least + 1, most, c =>
    body (firstRepeat body greedy k fuel least (most.map (· - 1))) c
  | _ + 1, 0, some 0, c => k c
  | fuel + 1, 0, most, c =>
    let onward (d : Cursor) :=
      if c.position < d.position then firstRepeat body greedy k fuel 0 (most.map (· - 1)) d
      else none
    if greedy then (body onward c).or (k c) else (k c).or (body onward c)

mutual

/-- The places that a match from a place may reach, by position. -/
def ends (text : Array Char) : Regex → Cursor → List Cursor
  | .empty, c => [c]
  | .set s, c =>
    match text[c.position]? with
    | some char => if s.holds char then [c.advance 1] else []
    | none => []
  | .assertion a, c => if a.holds text c.position then [c] else []
  | .seq a b, c => Cursor.reach (ends text b) (ends text a c)
  | .alt a b, c => Cursor.merge (ends text a c) (ends text b c)
  | .rep r least most _, c =>
    let first := Cursor.times (ends text r) least [c]
    match most with
    | none => Cursor.closure (ends text r) (text.size - c.position) c.position first
    | some m => Cursor.upTo (ends text r) (m - least) first first
  | .group number r, c => (ends text r (c.openGroup number)).map (·.closeGroup number)
  | .backreference number, c =>
    ((captured? text number c).bind fun cs => afterText? text cs c).toList
  | .ahead negated r, c =>
    match ends text r c with
    | [] => if negated then [c] else []
    | d :: _ => if negated then [] else [{ d with position := c.position }]
  | .behind negated width r, c =>
    if c.position < width then if negated then [c] else []
    else match ends text r { c with position := c.position - width } with
      | [] => if negated then [c] else []
      | d :: _ => if negated then [] else [{ d with position := c.position }]
  | .atomic r, c => (first? text r some c).toList

/-- The place that the first match reaches after which `k` succeeds, in the order in which matches
are tried. -/
def first? (text : Array Char) : Regex → (Cursor → Option Cursor) → Cursor → Option Cursor
  | .seq a b, k, c => first? text a (first? text b k) c
  | .alt a b, k, c => (first? text a k c).or (first? text b k c)
  | .rep r least most greedy, k, c =>
    firstRepeat (first? text r) greedy k (least + text.size + 2) least most c
  | .group number r, k, c =>
    first? text r (fun d => k (d.closeGroup number)) (c.openGroup number)
  | .atomic r, k, c => (first? text r some c).bind k
  | .empty, k, c => k c
  | .set s, k, c =>
    match text[c.position]? with
    | some char => if s.holds char then k (c.advance 1) else none
    | none => none
  | .assertion a, k, c => if a.holds text c.position then k c else none
  | .backreference number, k, c =>
    ((captured? text number c).bind fun cs => afterText? text cs c).bind k
  | .ahead negated r, k, c =>
    match ends text r c with
    | [] => if negated then k c else none
    | d :: _ => if negated then none else k { d with position := c.position }
  | .behind negated width r, k, c =>
    if c.position < width then if negated then k c else none
    else match ends text r { c with position := c.position - width } with
      | [] => if negated then k c else none
      | d :: _ => if negated then none else k { d with position := c.position }

end

def matchesWithin (r : Regex) (cs : List Char) : Bool :=
  let text := cs.toArray
  (List.range (text.size + 1)).any fun i => !(r.ends text (.start i)).isEmpty

end Regex

end Elicit

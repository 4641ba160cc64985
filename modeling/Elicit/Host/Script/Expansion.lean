import Elicit.Host.Process
import Elicit.Host.Script.Basic
import Elicit.Host.Format

/-! What expansions come to: values of parameters and expressions, fields of words, and patterns. -/
namespace Elicit.Host.Script

inductive Atom where
  /-- A character; it separates fields if it is blank and comes from an expansion that is not
  quoted, and it has its meaning in a pattern if it is not quoted. -/
  | char (c : Char) (quoted expanded : Bool)
  /-- There is a field here, if only an empty one. -/
  | present
  /-- A field ends here. -/
  | apart
  deriving DecidableEq, Repr

def Atom.ofText (s : String) (quoted expanded : Bool) : List Atom :=
  (if quoted then [.present] else []) ++ s.toList.map fun c => .char c quoted expanded

/-- The fields of an expanded word, after one that is begun. -/
def fields : Option (List Char) → List Atom → List String
  | begun, [] => (begun.map String.ofList).toList
  | begun, .present :: as => fields (some (begun.getD [])) as
  | begun, .apart :: as => (begun.map String.ofList).toList ++ fields none as
  | begun, .char c quoted expanded :: as =>
    if expanded && !quoted && [' ', '\t', '\n'].contains c then
      (begun.map String.ofList).toList ++ fields none as
    else fields (some (begun.getD [] ++ [c])) as

def joined (as : List Atom) : String :=
  String.ofList (as.filterMap fun
    | .char c _ _ => some c
    | .present => none
    | .apart => some ' ')

/-- A character of a pattern, and whether it stands for itself. -/
abbrev PatternChar := Char × Bool

def patternOf (as : List Atom) : List PatternChar :=
  as.filterMap fun
    | .char c quoted _ => some (c, quoted)
    | .present | .apart => none

/-- Whether a character is in a set, in which a hyphen stands for a range. -/
def inSet (c : Char) : List Char → Bool
  | a :: '-' :: b :: rest => (a ≤ c && c ≤ b) || inSet c rest
  | a :: rest => a = c || inSet c rest
  | [] => false

def fits : Nat → List PatternChar → List Char → Bool
  | 0, _, _ => false
  | _ + 1, [], cs => cs.isEmpty
  | n + 1, ('*', false) :: ps, cs =>
    (List.range (cs.length + 1)).any fun i => fits n ps (cs.drop i)
  | _ + 1, _ :: _, [] => false
  | n + 1, ('?', false) :: ps, _ :: cs => fits n ps cs
  | n + 1, ('[', false) :: ps, c :: cs =>
    let set := (ps.takeWhile fun q => q.1 ≠ ']').map (·.1)
    let rest := (ps.dropWhile fun q => q.1 ≠ ']').tail
    let found := match set with
      | '!' :: set => !inSet c set
      | set => inSet c set
    found && fits n rest cs
  | n + 1, (p, _) :: ps, c :: cs => p = c && fits n ps cs

/-- The number that a running script has for itself. -/
def processNumber : String := "4242"

def value? (p : Process) : Parameter → Option String
  | .variable name => p.valueOf name
  | .position 0 => some p.name
  | .position (n + 1) => p.parameters[n]?
  | .all _ => if p.parameters.isEmpty then none else some (String.intercalate " " p.parameters)
  | .count => some (toString p.parameters.length)
  | .status => some (toString p.status)
  | .process => some processNumber

def atomsOf (p : Process) (x : Parameter) (quoted : Bool) : List Atom :=
  match x with
  | .all apart =>
    if apart || !quoted then
      List.intercalate [.apart] (p.parameters.map fun s => Atom.ofText s quoted true)
    else Atom.ofText (String.intercalate " " p.parameters) true true
  | x => Atom.ofText ((value? p x).getD "") quoted true

def ofTruth (b : Bool) : Int := if b then 1 else 0

def calculate (op : Operator) (a b : Int) : Int :=
  match op with
  | .plus => a + b
  | .minus => a - b
  | .times => a * b
  | .over => Int.tdiv a b
  | .remainder => Int.tmod a b
  | .less => ofTruth (a < b)
  | .atMost => ofTruth (a ≤ b)
  | .more => ofTruth (a > b)
  | .atLeast => ofTruth (a ≥ b)
  | .equal => ofTruth (a = b)
  | .unequal => ofTruth (a ≠ b)
  | .both => ofTruth (a ≠ 0 && b ≠ 0)
  | .either => ofTruth (a ≠ 0 || b ≠ 0)

/-- The value of an expression; what is no number counts as 0. -/
def evaluate (p : Process) : Expression → Int
  | .number n => n
  | .variable name => (Format.integer? ((p.valueOf name).getD "")).getD 0
  | .position n => (Format.integer? ((value? p (.position n)).getD "")).getD 0
  | .negation e => -evaluate p e
  | .binary op a b => calculate op (evaluate p a) (evaluate p b)

end Elicit.Host.Script

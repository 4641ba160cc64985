/-! Balanced regions: from an opening bracket to the bracket that closes it, with quoted text
passed over. -/
namespace Elicit.Region

/-- Where a scan stands: within a quoted text or not, after a backslash there or not, and the
closing brackets that are due, innermost first. -/
structure State where
  quoted : Bool
  escaped : Bool
  closers : List Char
  deriving Repr, DecidableEq

def State.start : State := ⟨false, false, []⟩

inductive Step where
  | more (s : State)
  | closed
  | mismatched
  deriving Repr, DecidableEq

/-- Whether a document can start with the character. -/
def isOpener (c : Char) : Bool := c == '{' || c == '['

def step (s : State) (c : Char) : Step :=
  if s.escaped then .more { s with escaped := false }
  else if c = '\\' ∧ s.quoted then .more { s with escaped := true }
  else if c = '"' then .more { s with quoted := !s.quoted }
  else if s.quoted then .more s
  else if c = '{' then .more { s with closers := '}' :: s.closers }
  else if c = '[' then .more { s with closers := ']' :: s.closers }
  else if c = '}' ∨ c = ']' then
    match s.closers with
    | [] => .mismatched
    | d :: closers =>
      if d ≠ c then .mismatched
      else if closers.isEmpty then .closed
      else .more { s with closers }
  else .more s

/-- The part of a text up to the bracket that closes the region, if it does close. -/
def takeFrom (s : State) : List Char → Option (List Char)
  | [] => none
  | c :: cs =>
    match step s c with
    | .more s' => (takeFrom s' cs).map (c :: ·)
    | .closed => some [c]
    | .mismatched => none

/-- The balanced region at the start of a text. -/
def balanced? (cs : List Char) : Option (List Char) := takeFrom .start cs

end Elicit.Region

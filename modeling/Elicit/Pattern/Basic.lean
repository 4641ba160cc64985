import Elicit.Pattern.Match
import Elicit.Pattern.Reader

/-! Patterns: regular expressions as they are written, searched for anywhere in a text. -/
namespace Elicit

structure Pattern where
  source : String
  regex : Regex
  deriving Repr, DecidableEq

namespace Pattern

/-- Reads an expression. What looks neither around nor back uses the basic classes. -/
def regex? (cs : List Char) : Option Regex :=
  let numbers := (String.ofList cs).utf8ByteSize / 2
  match check cs with
  | .ok () => readRegex? ⟨.basic, numbers, 0⟩ cs
  | .error (.beyond left) => readRegex? ⟨.full, numbers, left⟩ cs
  | .error .malformed => none

def read? (source : String) : Option Pattern := (regex? source.toList).map (⟨source, ·⟩)

/-- Whether the pattern matches some part of a text. -/
def holds (p : Pattern) (s : String) : Bool := p.regex.matchesWithin s.toList

end Pattern

end Elicit

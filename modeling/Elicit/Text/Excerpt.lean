/-! Bounded excerpts of a text, for messages that quote it. -/
namespace Elicit.Text

/-- At most `limit` characters of the text, with `...` after them when something was cut off. -/
def excerpt (limit : Nat) (s : String) : String :=
  let cs := s.toList
  if (cs.drop limit).isEmpty then s else String.ofList (cs.take limit) ++ "..."

end Elicit.Text

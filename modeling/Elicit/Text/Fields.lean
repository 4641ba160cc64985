/-! Texts that consist of fields between separators. -/
namespace Elicit.Text

/-- The fields of a text, between single separators. -/
def fields (separator : Char) : List Char → List (List Char)
  | [] => [[]]
  | c :: cs =>
    if c = separator then [] :: fields separator cs
    else match fields separator cs with
      | [] => [[c]]
      | field :: rest => (c :: field) :: rest

end Elicit.Text

import Elicit.Text.Unprintable

/-! Values as diagnostic text: quoted strings, options, lists and named fields. -/
namespace Elicit.Text

def quoteChar (c : Char) : String :=
  if c = '"' then "\\\""
  else if c = '\\' then "\\\\"
  else if c = '\n' then "\\n"
  else if c = '\r' then "\\r"
  else if c = '\t' then "\\t"
  else if c = '\x00' then "\\0"
  else if isUnprintable c then
    "\\u\x7b" ++ String.ofList (Nat.toDigits 16 c.toNat) ++ "\x7d"
  else c.toString

/-- Text between quotes, with escapes for what cannot be shown. -/
def quoted (s : String) : String :=
  "\"" ++ String.join (s.toList.map quoteChar) ++ "\""

def optional (text : Option String) : String :=
  match text with
  | none => "None"
  | some t => "Some(" ++ t ++ ")"

def listed (texts : List String) : String := "[" ++ String.intercalate ", " texts ++ "]"

/-- A name and fields with their values; an open record has more fields than it shows. -/
def record (name : String) (fields : List (String × String)) (isOpen : Bool) : String :=
  let shown := fields.map fun (n, v) => n ++ ": " ++ v
  name ++ " \x7b " ++ String.intercalate ", " (if isOpen then shown ++ [".."] else shown) ++ " \x7d"

def truth (b : Bool) : String := if b then "true" else "false"

end Elicit.Text

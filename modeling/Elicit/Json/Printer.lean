import Elicit.Binary64.Shortest
import Elicit.Json.Basic

/-! The compact and the indented text of a JSON value. -/
namespace Elicit.Json

def hexDigit (n : Nat) : Char := Nat.digitChar n

def escapeChar (c : Char) : List Char :=
  if c = '"' then ['\\', '"']
  else if c = '\\' then ['\\', '\\']
  else if c = '\x08' then ['\\', 'b']
  else if c = '\x0c' then ['\\', 'f']
  else if c = '\n' then ['\\', 'n']
  else if c = '\r' then ['\\', 'r']
  else if c = '\t' then ['\\', 't']
  else if c.toNat < 0x20 then
    ['\\', 'u', '0', '0', hexDigit (c.toNat / 16), hexDigit (c.toNat % 16)]
  else [c]

def stringText (s : String) : List Char := '"' :: s.toList.flatMap escapeChar ++ ['"']

def Number.text : Number → List Char
  | .integer i => (toString i).toList
  | .double x => x.text .mixed

/-- A written scalar; containers are the printers' own work. -/
def scalarText : Json → List Char
  | .null => ['n', 'u', 'l', 'l']
  | .bool true => ['t', 'r', 'u', 'e']
  | .bool false => ['f', 'a', 'l', 's', 'e']
  | .number n => n.text
  | .string s => stringText s
  | _ => []

mutual

/-- The value's text without any blanks. -/
def compactText : Json → List Char
  | .array items => '[' :: compactItems items ++ [']']
  | .object members => '{' :: compactMembers members ++ ['}']
  | v => scalarText v

def compactItems : List Json → List Char
  | [] => []
  | [item] => compactText item
  | item :: items => compactText item ++ ',' :: compactItems items

def compactMembers : List (String × Json) → List Char
  | [] => []
  | [(name, value)] => stringText name ++ ':' :: compactText value
  | (name, value) :: members =>
    stringText name ++ ':' :: compactText value ++ ',' :: compactMembers members

end

def newLine (depth : Nat) : List Char := '\n' :: List.replicate (2 * depth) ' '

mutual

/-- The value's text with each item and member on a line of its own. -/
def prettyText (depth : Nat) : Json → List Char
  | .array [] => ['[', ']']
  | .object [] => ['{', '}']
  | .array items => '[' :: prettyItems (depth + 1) items ++ newLine depth ++ [']']
  | .object members => '{' :: prettyMembers (depth + 1) members ++ newLine depth ++ ['}']
  | v => scalarText v

def prettyItems (depth : Nat) : List Json → List Char
  | [] => []
  | [item] => newLine depth ++ prettyText depth item
  | item :: items => newLine depth ++ prettyText depth item ++ ',' :: prettyItems depth items

def prettyMembers (depth : Nat) : List (String × Json) → List Char
  | [] => []
  | [(name, value)] => newLine depth ++ stringText name ++ ':' :: ' ' :: prettyText depth value
  | (name, value) :: members =>
    newLine depth ++ stringText name ++ ':' :: ' ' :: prettyText depth value ++
      ',' :: prettyMembers depth members

end

def compact (v : Json) : String := String.ofList v.compactText

def pretty (v : Json) : String := String.ofList (v.prettyText 0)

end Elicit.Json

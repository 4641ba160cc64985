import Elicit.Json.Printer
import Elicit.Json.Same
import Elicit.Schema.Basic

/-! Violations of a schema in words. -/
namespace Elicit.Schema

/-- A number of things. -/
def counted (n : Nat) (one several : String) : String :=
  toString n ++ " " ++ if n = 1 then one else several

def pointer (path : Path) : String :=
  let escape (c : Char) : List Char :=
    if c = '~' then ['~', '0'] else if c = '/' then ['~', '1'] else [c]
  String.join (path.reverse.map fun step => "/" ++ String.ofList (step.toList.flatMap escape))

/-- A divisor as a binary64 number, written out and without the fraction of a whole number. -/
def divisorText (divisor : Json.Number) : String :=
  match divisor.toDouble? with
  | some x =>
    let text := x.text .plain
    String.ofList (if x.isWhole then text.take (text.length - 2) else text)
  | none => ""

/-- What is wrong with a value, in words that follow the value. -/
def Complaint.text : Complaint → String
  | .type [kind] => "is not of type \"" ++ kind.name ++ "\""
  | .type kinds =>
    let named := Kind.all.filter fun k => kinds.contains k
    "is not of types " ++ String.intercalate ", " (named.map fun k => "\"" ++ k.name ++ "\"")
  | .oneOfValues values => "is not one of " ++ (Json.array values).compact
  | .minimum limit => "is less than the minimum of " ++ (Json.number limit).compact
  | .maximum limit => "is greater than the maximum of " ++ (Json.number limit).compact
  | .exclusiveMinimum limit =>
    "is less than or equal to the minimum of " ++ (Json.number limit).compact
  | .exclusiveMaximum limit =>
    "is greater than or equal to the maximum of " ++ (Json.number limit).compact
  | .multipleOf divisor => "is not a multiple of " ++ divisorText divisor
  | .minLength limit => "is shorter than " ++ counted limit "character" "characters"
  | .maxLength limit => "is longer than " ++ counted limit "character" "characters"
  | .format f => "is not a \"" ++ f.name ++ "\""
  | .encoded => "is not compliant with \"base64\" content encoding"
  | .document => "is not compliant with \"application/json\" media type"
  | .pattern p => "does not match \"" ++ p.source ++ "\""
  | .minItems limit => "has less than " ++ counted limit "item" "items"
  | .maxItems limit => "has more than " ++ counted limit "item" "items"
  | .uniqueItems => "has non-unique elements"
  | .minProperties limit => "has less than " ++ counted limit "property" "properties"
  | .maxProperties limit => "has more than " ++ counted limit "property" "properties"
  | .anyOf => "is not valid under any of the schemas listed in the 'anyOf' keyword"
  | .oneOfNone => "is not valid under any of the schemas listed in the 'oneOf' keyword"
  | .oneOfSeveral => "is valid under more than one of the schemas listed in the 'oneOf' keyword"
  | _ => ""

/-- What there is too much of, and that it is not expected. -/
def unexpectedText (names : List String) : String :=
  String.intercalate ", " names ++ if names.length = 1 then " was unexpected)" else
    " were unexpected)"

def inQuotes (s : String) : String := "'" ++ s ++ "'"

/-- A violation in words, without its path. -/
def Violation.text (v : Violation) : String :=
  match v.complaint with
  | .const value => value.compact ++ " was expected"
  | .contains => "None of " ++ v.value.compact ++ " are valid under the given schema"
  | .required name => (Json.string name).compact ++ " is a required property"
  | .unexpected names =>
    "Additional properties are not allowed (" ++ unexpectedText (names.map inQuotes)
  | .unexpectedItems items =>
    "Additional items are not allowed (" ++ unexpectedText (items.map Json.compact)
  | .unevaluated names =>
    "Unevaluated properties are not allowed (" ++ unexpectedText (names.map inQuotes)
  | .unevaluatedItems items =>
    "Unevaluated items are not allowed (" ++
      unexpectedText (items.map fun item => inQuotes item.compact)
  | .nothing => "False schema does not allow " ++ v.value.compact
  | .not source => source.compact ++ " is not allowed for " ++ v.value.compact
  | c => v.value.compact ++ " " ++ c.text

def Violation.message (v : Violation) : String :=
  "At path '" ++ pointer v.path ++ "': " ++ v.text

end Elicit.Schema

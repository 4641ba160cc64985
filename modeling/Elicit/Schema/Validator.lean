import Elicit.Schema.Reader
import Elicit.Text.Quoted

/-! Validators: schemas that have been read and found in order. -/
namespace Elicit

/-- A schema and the JSON it was read from. -/
structure Validator where
  source : Json
  document : Schema.Document

namespace Validator

/-- Where a schema says that it is, or else the base of those that do not. -/
def placeOf (d : Schema.Dialect) (source : Json) : Except Schema.Fault Uri :=
  match d.identifier? source with
  | some name => Schema.resolveReference .root name
  | none => .ok .root

/-- Reads a schema. It is to declare no unknown dialect, to refer to nothing that is not at hand,
and to follow the schema of its dialect's schemas. -/
def read (source : Json) : Except Schema.Fault Validator := do
  let dialect ← Schema.dialectWithin .draft2020 source
  let place ← placeOf dialect source
  let registry ← Schema.Registry.ofSchema place ⟨source, dialect⟩
  if let v :: _ := (Schema.Document.ofDialect dialect).violations source then
    throw (.malformed v)
  return ⟨source, ← Schema.Document.read ⟨registry, place, [], dialect⟩ source⟩

/-- What is wrong with a document, in words; nothing if it is accepted. -/
def errors (k : Validator) (v : Json) : List String :=
  (k.document.violations v).map Schema.Violation.message

end Validator

namespace Json

mutual

def diagnosticText : Json → String
  | .null => "Null"
  | .bool b => "Bool(" ++ Text.truth b ++ ")"
  | .number n => "Number(" ++ String.ofList n.text ++ ")"
  | .string s => "String(" ++ Text.quoted s ++ ")"
  | .array items => "Array " ++ Text.listed (diagnosticItems items)
  | .object members =>
    "Object \x7b" ++ String.intercalate ", " (diagnosticMembers members) ++ "\x7d"

def diagnosticItems : List Json → List String
  | [] => []
  | v :: vs => diagnosticText v :: diagnosticItems vs

def diagnosticMembers : List (String × Json) → List String
  | [] => []
  | (n, v) :: members => (Text.quoted n ++ ": " ++ diagnosticText v) :: diagnosticMembers members

end

end Json

def Validator.diagnosticText (k : Validator) : String :=
  Text.record "JsonSchemaValidator" [("schema", k.source.diagnosticText)] true

end Elicit

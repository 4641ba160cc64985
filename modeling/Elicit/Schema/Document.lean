import Elicit.Schema.Check
import Elicit.Schema.Meta.Draft
import Elicit.Schema.Meta.Vocabulary

/-! Schemas with all that they refer to, and what is wrong with a value by them. -/
namespace Elicit.Schema

/-- The schema of a dialect's schemas. -/
def Dialect.schema : Dialect → Schema
  | .draft4 => Meta.draft4
  | .draft6 => Meta.draft6
  | .draft7 => Meta.draft7
  | .draft2019 => Meta.draft2019
  | .draft2020 => Meta.draft2020

/-- What a pointer into the schema of a dialect's schemas leads to. -/
def Dialect.schemaAt? (d : Dialect) (pointer : String) : Option Schema :=
  match (Text.fields '/' pointer.toList).map String.ofList with
  | [_] => some d.schema
  | [_, "definitions", name] => (Meta.definitions d).lookup name
  | [_, "properties", name] => (Meta.properties d).lookup name
  | _ => none

/-- A schema with the schemas it refers to, by place. -/
structure Document where
  root : Schema
  places : List (Place × Schema)

namespace Document

def schemaAt? (d : Document) : Place → Option Schema
  | .dialect e pointer => e.schemaAt? pointer
  | place => d.places.lookup place

/-- The check of a place, following at most `n` references in a row. -/
def checkPlace (d : Document) : Nat → Place → Check
  | 0, _ => .pass
  | n + 1, place =>
    match d.schemaAt? place with
    | some s => s.check (d.checkPlace n)
    | none => .pass

/-- References that can be followed within a value before one comes up twice at the same place of
the value. -/
def budget (d : Document) (v : Json) : Nat :=
  (v.height + 1) * (d.places.length + Dialect.all.length)

def violations (d : Document) (v : Json) : List Violation :=
  (d.root.check (d.checkPlace (d.budget v)) [] v).violations

/-- The schema of a dialect's schemas, which refers to nothing but itself. -/
def ofDialect (d : Dialect) : Document := ⟨d.schema, []⟩

end Document

end Elicit.Schema

import Elicit.Schema.Format

/-! Schemas of JSON documents, and what can be wrong with a document. -/
namespace Elicit

namespace Schema

/-- The kinds of values; every whole number is also a number. -/
inductive Kind where
  | array
  | boolean
  | integer
  | null
  | number
  | object
  | string
  deriving DecidableEq, Repr

def Kind.all : List Kind := [.array, .boolean, .integer, .null, .number, .object, .string]

def Kind.name : Kind → String
  | .array => "array"
  | .boolean => "boolean"
  | .integer => "integer"
  | .null => "null"
  | .number => "number"
  | .object => "object"
  | .string => "string"

def Kind.ofName? (name : String) : Option Kind := Kind.all.find? (·.name == name)

def Kind.holds : Kind → Json → Bool
  | .array, .array _ => true
  | .boolean, .bool _ => true
  | .integer, .number n => n.isWhole
  | .null, .null => true
  | .number, .number _ => true
  | .object, .object _ => true
  | .string, .string _ => true
  | _, _ => false

/-- Whether a value is of a kind, when only what is written as a whole number counts as one. -/
def Kind.holdsAsWritten : Kind → Json → Bool
  | .integer, .number (.double _) => false
  | kind, v => kind.holds v

inductive Place where
  /-- The schema that a reference leads to, on the way through some resources. -/
  | within (uri : Uri) (scope : List Uri)
  /-- A place in the schema of a dialect's schemas, by a pointer. -/
  | dialect (d : Dialect) (pointer : String)
  deriving DecidableEq, Repr

end Schema

mutual

inductive Schema where
  | anything
  | nothing
  /-- Allows what every keyword allows. -/
  | keywords (ks : List Schema.Keyword)

/-- A requirement of a schema. -/
inductive Schema.Keyword where
  | type (kinds : List Schema.Kind)
  /-- Kinds, where only what is written as a whole number counts as one. -/
  | typeAsWritten (kinds : List Schema.Kind)
  | const (value : Json)
  | oneOfValues (values : List Json)
  | minimum (limit : Json.Number)
  | maximum (limit : Json.Number)
  | exclusiveMinimum (limit : Json.Number)
  | exclusiveMaximum (limit : Json.Number)
  | multipleOf (divisor : Json.Number)
  | minLength (limit : Nat)
  | maxLength (limit : Nat)
  | pattern (p : Pattern)
  | format (f : Schema.Format)
  /-- Text in base 64. -/
  | encoded
  /-- Text that is a document, perhaps in base 64. -/
  | document (encoded : Bool)
  | minItems (limit : Nat)
  | maxItems (limit : Nat)
  | uniqueItems
  | items (from_ : Nat) (s : Schema)
  | firstItems (ss : List Schema)
  | noItems (from_ : Nat)
  /-- Items that the schema allows, at least and at most so many. Where they count as looked at,
  `marking` is set. -/
  | contains (s : Schema) (least : Nat) (most : Option Nat) (marking : Bool)
  | minProperties (limit : Nat)
  | maxProperties (limit : Nat)
  | required (names : List String)
  /-- Schemas for objects that have a member of some name. Where they count as looking at its
  members, `marking` is set. -/
  | dependent (named : List (String × Schema)) (marking : Bool)
  | properties (named : List (String × Schema))
  | patternProperties (patterns : List (Pattern × Schema))
  /-- Members by name, by pattern, and otherwise; without a schema for the others, there are to
  be none. -/
  | members (named : List (String × Schema)) (patterns : List (Pattern × Schema))
      (others : Option Schema)
  /-- No members at all, said of the first. -/
  | noMembers
  /-- No members at all, said of the object. -/
  | noNames
  | propertyNames (s : Schema)
  | allOf (ss : List Schema)
  | anyOf (ss : List Schema)
  | oneOf (ss : List Schema)
  | not (s : Schema) (source : Json)
  | conditional (condition : Schema) (onTrue onFalse : Option Schema)
  | ref (place : Schema.Place)
  /-- Keywords, and a schema for the items that they have not looked at. -/
  | unevaluatedItems (ks : List Schema.Keyword) (s : Schema)
  /-- Keywords, and a schema for the members that they have not looked at. -/
  | unevaluatedProperties (ks : List Schema.Keyword) (s : Schema)

end

namespace Schema

inductive Complaint where
  | type (kinds : List Kind)
  | const (value : Json)
  | oneOfValues (values : List Json)
  | minimum (limit : Json.Number)
  | maximum (limit : Json.Number)
  | exclusiveMinimum (limit : Json.Number)
  | exclusiveMaximum (limit : Json.Number)
  | multipleOf (divisor : Json.Number)
  | minLength (limit : Nat)
  | maxLength (limit : Nat)
  | pattern (p : Pattern)
  | format (f : Format)
  | encoded
  | document
  | minItems (limit : Nat)
  | maxItems (limit : Nat)
  | uniqueItems
  | contains
  | minProperties (limit : Nat)
  | maxProperties (limit : Nat)
  | required (name : String)
  | unexpected (names : List String)
  | unexpectedItems (items : List Json)
  | unevaluated (names : List String)
  | unevaluatedItems (items : List Json)
  | nothing
  | anyOf
  | oneOfNone
  | oneOfSeveral
  | not (source : Json)

/-- Steps from a document to a value within it, last step first. -/
abbrev Path := List String

/-- A value that is not allowed: where it is, what it is, and what is wrong with it. -/
structure Violation where
  path : Path
  value : Json
  complaint : Complaint

end Schema

end Elicit

import Elicit.Json.Basic

/-! Dialects that schemas are written in: their keywords, and where they nest schemas. -/
namespace Elicit.Schema

inductive Dialect where
  | draft4
  | draft6
  | draft7
  | draft2019
  | draft2020
  deriving DecidableEq, Repr

namespace Dialect

/-- Every dialect, oldest first. -/
def all : List Dialect := [.draft4, .draft6, .draft7, .draft2019, .draft2020]

def rank : Dialect → Nat
  | .draft4 => 0
  | .draft6 => 1
  | .draft7 => 2
  | .draft2019 => 3
  | .draft2020 => 4

def since (d e : Dialect) : Bool := e.rank ≤ d.rank

/-- The name that a schema declares it by. -/
def name : Dialect → String
  | .draft4 => "http://json-schema.org/draft-04/schema"
  | .draft6 => "http://json-schema.org/draft-06/schema"
  | .draft7 => "http://json-schema.org/draft-07/schema"
  | .draft2019 => "https://json-schema.org/draft/2019-09/schema"
  | .draft2020 => "https://json-schema.org/draft/2020-12/schema"

def ofName? (name : String) : Option Dialect := all.find? (·.name == name)

/-- A text without the hash signs at its end. -/
def withoutHash (s : String) : String :=
  String.ofList (s.toList.reverse.dropWhile (· == '#')).reverse

/-- The dialect of a value that stands within one: the one that it declares, or else the same.
Gives the name of one that is not known. -/
def within (d : Dialect) (v : Json) : Except String Dialect :=
  match v.member? "$schema" with
  | some (.string name) =>
    let name := withoutHash name
    match ofName? name with
    | some e => .ok e
    | none => .error name
  | _ => .ok d

/-- The keyword by which a schema says where it is. -/
def identity : Dialect → String
  | .draft4 => "id"
  | _ => "$id"

/-- Whether a reference leaves nothing to the keywords beside it. -/
def referenceStandsAlone (d : Dialect) : Bool := !d.since .draft2019

/-- Where a schema says that it is. Up to draft 7 that is nothing beside a reference, and not a
mere anchor. -/
def identifier? (d : Dialect) (v : Json) : Option String :=
  match v.member? d.identity with
  | some (.string name) =>
    if d.referenceStandsAlone ∧ ((v.member? "$ref").isSome ∨ name.toList.head? = some '#') then
      none
    else some (withoutHash name)
  | _ => none

/-- The anchors that a schema declares, and whether each gives way to older ones. -/
def anchors (d : Dialect) (v : Json) : List (String × Bool) :=
  let named (keyword : String) (gives : Bool) : List (String × Bool) :=
    match v.member? keyword with
    | some (.string name) => [(name, gives)]
    | _ => []
  match d with
  | .draft2020 => named "$anchor" false ++ named "$dynamicAnchor" true
  | .draft2019 => named "$anchor" false
  | d => (named d.identity false).filterMap fun (name, gives) =>
    match name.toList with
    | '#' :: cs => some (String.ofList cs, gives)
    | _ => none

/-- How a keyword's value holds schemas. -/
inductive Nesting where
  /-- It is one. -/
  | one
  /-- It is one if it is an object. -/
  | oneObject
  /-- It is a list of them. -/
  | listed
  /-- It is one or a list of them. -/
  | oneOrListed
  /-- Its members are some. -/
  | named
  /-- Its members are some if the first is an object. -/
  | namedObjects
  deriving DecidableEq, Repr

def nesting? (d : Dialect) (keyword : String) : Option Nesting :=
  match keyword with
  | "not" => some .one
  | "allOf" | "anyOf" | "oneOf" => some .listed
  | "definitions" | "patternProperties" | "properties" => some .named
  | "additionalProperties" => some (if d.since .draft6 then .one else .oneObject)
  | "additionalItems" =>
    if d.since .draft2020 then none else some (if d.since .draft6 then .one else .oneObject)
  | "items" => some (if d.since .draft2020 then .one else .oneOrListed)
  | "contains" | "propertyNames" => if d.since .draft6 then some .one else none
  | "if" | "then" | "else" => if d.since .draft7 then some .one else none
  | "dependencies" => if d.since .draft2019 then none else some .namedObjects
  | "$defs" | "dependentSchemas" => if d.since .draft2019 then some .named else none
  | "contentSchema" | "unevaluatedItems" | "unevaluatedProperties" =>
    if d.since .draft2019 then some .one else none
  | "prefixItems" => if d.since .draft2020 then some .listed else none
  | _ => none

def itemsOf : Json → List Json
  | .array items => items
  | _ => []

def valuesOf : Json → List Json
  | .object members => members.map (·.2)
  | _ => []

def isObject : Json → Bool
  | .object _ => true
  | _ => false

def Nesting.schemas (v : Json) : Nesting → List Json
  | .one => [v]
  | .oneObject => if isObject v then [v] else []
  | .listed => itemsOf v
  | .oneOrListed => if isObject v then [v] else itemsOf v
  | .named => valuesOf v
  | .namedObjects => if ((valuesOf v).head?.map isObject).getD false then valuesOf v else []

/-- The schemas right within a schema. -/
def subschemas (d : Dialect) : Json → List Json
  | .object members => members.flatMap fun (name, v) =>
    match d.nesting? name with
    | some n => n.schemas v
    | none => []
  | _ => []

/-- Whether steps into a schema lead to a schema right within it, `v` being what they lead to. -/
def reachesSchema (d : Dialect) (v : Json) : List String → Bool
  | [] => true
  | [keyword] =>
    match d.nesting? keyword with
    | some .one | some .oneObject => true
    | some .oneOrListed | some .namedObjects => isObject v
    | _ => false
  | keyword :: step :: steps =>
    match d.nesting? keyword with
    | some .one | some .oneObject => reachesSchema d v (step :: steps)
    | some .listed | some .named => reachesSchema d v steps
    | some .oneOrListed | some .namedObjects => isObject v
    | none => false

def knows (d : Dialect) (keyword : String) : Bool :=
  match keyword with
  | "$ref" | "additionalProperties" | "allOf" | "anyOf" | "dependencies" | "enum" | "format"
  | "items" | "maxItems" | "maxLength" | "maxProperties" | "maximum" | "minItems" | "minLength"
  | "minProperties" | "minimum" | "multipleOf" | "not" | "oneOf" | "pattern"
  | "patternProperties" | "properties" | "required" | "type" | "uniqueItems" => true
  | "const" | "contains" | "exclusiveMaximum" | "exclusiveMinimum" | "propertyNames" =>
    d.since .draft6
  | "if" => d.since .draft7
  | "dependentRequired" | "dependentSchemas" | "unevaluatedItems" | "unevaluatedProperties" =>
    d.since .draft2019
  | "contentEncoding" | "contentMediaType" => d.since .draft6 && !d.since .draft2019
  | "additionalItems" => !d.since .draft2020
  | "$recursiveRef" => d == .draft2019
  | "$dynamicRef" | "prefixItems" => d.since .draft2020
  | _ => false

/-- Whether strings are held to the formats that a schema names. -/
def checksFormats (d : Dialect) : Bool := !d.since .draft2019

end Dialect

end Elicit.Schema

import Elicit.Json.Printer
import Elicit.Text.Quoted

/-! Shapes of typed documents: the schema a shape amounts to, and documents read by it. -/
namespace Elicit

structure IntegerType where
  signed : Bool
  bits : Nat
  deriving DecidableEq, Repr

namespace IntegerType

def least (t : IntegerType) : Int := if t.signed then -Int.ofNat (Nat.pow 2 (t.bits - 1)) else 0

def greatest (t : IntegerType) : Int :=
  Int.ofNat (Nat.pow 2 (if t.signed then t.bits - 1 else t.bits) - 1)

def name (t : IntegerType) : String := (if t.signed then "i" else "u") ++ toString t.bits

def format (t : IntegerType) : String := (if t.signed then "int" else "uint") ++ toString t.bits

end IntegerType

/-- What a typed document consists of. -/
inductive Shape where
  | bool
  | string
  | integer (type : IntegerType)
  | optional (s : Shape)
  | list (s : Shape)
  | record (name : String) (fields : List (String × Shape))

namespace Shape

/-- What a misfit value is. -/
inductive Found where
  | null
  | bool (b : Bool)
  | integer (i : Int)
  | double (x : Binary64)
  | string (s : String)
  | sequence
  | map

/-- What a misfit value was to be. -/
inductive Wanted where
  | bool
  | string
  | integer (type : IntegerType)
  | sequence
  | record (name : String)

inductive Misfit where
  | wrongType (found : Found) (wanted : Wanted)
  | outOfRange (value : Int) (type : IntegerType)
  | tooFew (count : Nat) (name : String) (fields : Nat)
  | tooMany (count : Nat)
  | missing (field : String)

def Found.of : Json → Found
  | .null => .null
  | .bool b => .bool b
  | .number (.integer i) => .integer i
  | .number (.double x) => .double x
  | .string s => .string s
  | .array _ => .sequence
  | .object _ => .map

def Found.text : Found → String
  | .null => "null"
  | .bool b => "boolean `" ++ Text.truth b ++ "`"
  | .integer i => "integer `" ++ toString i ++ "`"
  | .double x => "floating point `" ++ String.ofList (x.text .mixed) ++ "`"
  | .string s => "string " ++ Text.quoted s
  | .sequence => "sequence"
  | .map => "map"

def Wanted.text : Wanted → String
  | .bool => "a boolean"
  | .string => "a string"
  | .integer t => t.name
  | .sequence => "a sequence"
  | .record name => "struct " ++ name

def Misfit.message : Misfit → String
  | .wrongType found wanted => "invalid type: " ++ found.text ++ ", expected " ++ wanted.text
  | .outOfRange value t =>
    "invalid value: " ++ (Found.integer value).text ++ ", expected " ++ t.name
  | .tooFew count name fields =>
    "invalid length " ++ toString count ++ ", expected struct " ++ name ++ " with " ++
      toString fields ++ if fields = 1 then " element" else " elements"
  | .tooMany count => "invalid length " ++ toString count ++ ", expected fewer elements in array"
  | .missing field => "missing field `" ++ field ++ "`"

/-- Whether a field of the shape may be left out. -/
def isOptional : Shape → Bool
  | .optional _ => true
  | _ => false

/-- How a value is read: as the same value in full, or as a misfit. -/
abbrev Reader := Json → Except Misfit Json

def readInteger (t : IntegerType) : Reader
  | .number (.integer i) =>
    if t.least ≤ i ∧ i ≤ t.greatest then .ok (.number (.integer i)) else .error (.outOfRange i t)
  | v => .error (.wrongType (.of v) (.integer t))

def readList (item : Reader) : Reader
  | .array items => do return .array (← items.mapM item)
  | v => .error (.wrongType (.of v) .sequence)

/-- Reads the items of an array as fields, in order. -/
def readFields (name : String) (all : Nat) (count : Nat) :
    List (String × Bool × Reader) → List Json → Except Misfit (List (String × Json))
  | [], [] => .ok []
  | [], _ :: _ => .error (.tooMany count)
  | _ :: _, [] => .error (.tooFew count name all)
  | (field, _, read) :: fields, v :: vs => do
    let x ← read v
    return (field, x) :: (← readFields name all count fields vs)

/-- Reads the members that are fields, in the order of the members. -/
def readMembers (fields : List (String × Bool × Reader)) :
    List (String × Json) → Except Misfit (List (String × Json))
  | [] => .ok []
  | (name, v) :: members =>
    match fields.lookup name with
    | some (_, read) => do
      let x ← read v
      return (name, x) :: (← readMembers fields members)
    | none => readMembers fields members

/-- Adds the fields that are missing, in the order of the fields. -/
def addMissing (found : List (String × Json)) :
    List (String × Bool × Reader) → Except Misfit (List (String × Json))
  | [] => .ok found
  | (field, mayLack, _) :: fields =>
    if (found.lookup field).isSome then addMissing found fields
    else if mayLack then addMissing (found ++ [(field, .null)]) fields
    else .error (.missing field)

/-- Reads a record from an object, or from an array with an item for each field. -/
def readRecord (name : String) (fields : List (String × Bool × Reader)) : Reader
  | .object members => do
    let found ← readMembers fields members
    return .ofMembers (← addMissing found fields)
  | .array items => do
    return .ofMembers (← readFields name fields.length items.length fields items)
  | v => .error (.wrongType (.of v) (.record name))

mutual

def read : Shape → Reader
  | .bool => fun
    | .bool b => .ok (.bool b)
    | v => .error (.wrongType (.of v) .bool)
  | .string => fun
    | .string s => .ok (.string s)
    | v => .error (.wrongType (.of v) .string)
  | .integer t => readInteger t
  | .optional s => fun
    | .null => .ok .null
    | v => s.read v
  | .list s => readList s.read
  | .record name fields => readRecord name (fieldReaders fields)

def fieldReaders : List (String × Shape) → List (String × Bool × Reader)
  | [] => []
  | (name, s) :: fields => (name, s.isOptional, s.read) :: fieldReaders fields

end

/-- The type that a schema names, with `null` beside it. -/
def orNull : List (String × Json) → List (String × Json)
  | [] => []
  | ("type", t) :: ms => ("type", .array [t, .string "null"]) :: ms
  | m :: ms => m :: orNull ms

mutual

def schemaMembers : Shape → List (String × Json)
  | .bool => [("type", .string "boolean")]
  | .string => [("type", .string "string")]
  | .integer t =>
    [("type", .string "integer"), ("format", .string t.format)] ++
      (if t.signed ∧ 32 ≤ t.bits then [] else [("minimum", .number (.integer t.least))]) ++
      (if t.bits < 32 then [("maximum", .number (.integer t.greatest))] else [])
  | .optional s => orNull (schemaMembers s)
  | .list s => [("type", .string "array"), ("items", .ofMembers (schemaMembers s))]
  | .record name fields =>
    [("title", .string name), ("type", .string "object"),
      ("properties", .ofMembers (fieldSchemas fields)),
      ("required",
        .array ((fields.filter fun (_, s) => !s.isOptional).map fun (n, _) => .string n))]

def fieldSchemas : List (String × Shape) → List (String × Json)
  | [] => []
  | (name, s) :: fields => (name, .ofMembers (schemaMembers s)) :: fieldSchemas fields

end

/-- The schema that a shape amounts to, with the dialect it is written in. -/
def schema (s : Shape) : Json :=
  .ofMembers (("$schema", .string "https://json-schema.org/draft/2020-12/schema") ::
    schemaMembers s)

def flag : Shape := .record "Flag" [("ok", .bool)]

/-- A line of a file under review. -/
def review : Shape := .record "Review" [("file", .string), ("line", .integer ⟨false, 32⟩)]

def profile : Shape := .record "Profile"
  [("name", .string), ("age", .optional (.integer ⟨false, 8⟩)), ("tags", .list .string)]

def integers : Shape := .list (.integer ⟨true, 32⟩)

end Shape

end Elicit

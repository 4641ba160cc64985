import Elicit.Binary64.Basic

/-! JSON values. An object lists its members by increasing name, each name once. -/
namespace Elicit

/-- A JSON number is a whole number of at most 64 bits or a binary64 number. -/
inductive Json.Number where
  | integer (value : Int)
  | double (value : Binary64)
  deriving Repr, DecidableEq

inductive Json where
  | null
  | bool (value : Bool)
  | number (value : Json.Number)
  | string (value : String)
  | array (items : List Json)
  | object (members : List (String × Json))
  deriving Repr, BEq

namespace Json

/-- Puts a member in its place; a member of the same name is replaced. -/
def insertMember {α : Type} (name : String) (value : α) : List (String × α) → List (String × α)
  | [] => [(name, value)]
  | (n, v) :: rest =>
    if name < n then (name, value) :: (n, v) :: rest
    else if name = n then (name, value) :: rest
    else (n, v) :: insertMember name value rest

/-- The object with the given members; the last of several with one name counts. -/
def ofMembers (members : List (String × Json)) : Json :=
  .object (members.foldl (fun ms (n, v) => insertMember n v ms) [])

/-- The member of that name, if the value is an object and has one. -/
def member? (name : String) : Json → Option Json
  | .object members => members.lookup name
  | _ => none

mutual

/-- How deeply containers are nested in the value. -/
def height : Json → Nat
  | .array items => itemsHeight items + 1
  | .object members => membersHeight members + 1
  | _ => 0

def itemsHeight : List Json → Nat
  | [] => 0
  | item :: items => max item.height (itemsHeight items)

def membersHeight : List (String × Json) → Nat
  | [] => 0
  | (_, value) :: members => max value.height (membersHeight members)

end

mutual

/-- The number of values in the value, itself included. -/
def size : Json → Nat
  | .array items => itemsSize items + 1
  | .object members => membersSize members + 1
  | _ => 1

def itemsSize : List Json → Nat
  | [] => 0
  | item :: items => item.size + itemsSize items

def membersSize : List (String × Json) → Nat
  | [] => 0
  | (_, value) :: members => value.size + membersSize members

end

/-- The exact value of a number: a signed numerator and a positive denominator. -/
def Number.fraction : Number → Int × Nat
  | .integer i => (i, 1)
  | .double x => x.fraction

def Number.compare (a b : Number) : Ordering :=
  let (p, q) := a.fraction
  let (r, s) := b.fraction
  Ord.compare (p * s) (r * q)

def Number.isWhole : Number → Bool
  | .integer _ => true
  | .double x => x.isWhole

end Json

end Elicit

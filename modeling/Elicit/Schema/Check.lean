import Elicit.Json.Reader
import Elicit.Json.Same
import Elicit.Schema.Basic
import Elicit.Text.Base64

/-! Checking documents against schemas: every violation, in the order of the schema's keywords
and of the document's items and members, and what a schema has looked at. -/
namespace Elicit.Schema

/-- What a schema has looked at in a value: members by name, and items by position. -/
structure Marks where
  names : List String
  positions : List Nat
  deriving Repr, DecidableEq

namespace Marks

def none : Marks := ⟨[], []⟩

def ofNames (names : List String) : Marks := ⟨names, []⟩

def ofPositions (positions : List Nat) : Marks := ⟨[], positions⟩

def allItems : Json → Marks
  | .array items => ofPositions (List.range items.length)
  | _ => none

def union (a b : Marks) : Marks := ⟨a.names ++ b.names, a.positions ++ b.positions⟩

def unions (ms : List Marks) : Marks := ms.foldl union none

end Marks

/-- What a check finds: what is wrong with a value, and what it has looked at. -/
structure Report where
  violations : List Violation
  marks : Unit → Marks

namespace Report

def clear : Report := ⟨[], fun _ => .none⟩

def ofViolations (vs : List Violation) : Report := ⟨vs, fun _ => .none⟩

def accepted (r : Report) : Bool := r.violations.isEmpty

def unions (rs : List Report) : Report :=
  ⟨rs.flatMap (·.violations), fun _ => .unions (rs.map (·.marks ()))⟩

/-- The names of members that nothing is wrong with. -/
def acceptedNames (rs : List (String × Report)) : List String :=
  (rs.filter (·.2.accepted)).map (·.1)

/-- What is wrong with some members, which have been looked at unless something is. -/
def ofMembers (rs : List (String × Report)) : Report :=
  ⟨rs.flatMap (·.2.violations), fun _ => .ofNames (acceptedNames rs)⟩

end Report

/-- A check tells what it finds in a value at a path. -/
abbrev Check := Path → Json → Report

namespace Check

def pass : Check := fun _ _ => .clear

/-- Complains unless a condition holds. -/
def demand (ok : Json → Bool) (complaint : Complaint) : Check := fun path v =>
  .ofViolations (if ok v then [] else [⟨path, v, complaint⟩])

def all (ks : List Check) : Check := fun path v => .unions (ks.map fun k => k path v)

/-- A condition on numbers; other values meet it. -/
def onNumber (ok : Json.Number → Bool) : Json → Bool
  | .number n => ok n
  | _ => true

def onString (ok : String → Bool) : Json → Bool
  | .string s => ok s
  | _ => true

def onArray (ok : List Json → Bool) : Json → Bool
  | .array items => ok items
  | _ => true

def onObject (ok : List (String × Json) → Bool) : Json → Bool
  | .object members => ok members
  | _ => true

def isEncoded (s : String) : Bool := (Text.base64Decode? s.toList).isSome

/-- Checks that a string is a document, perhaps in base 64. -/
def document (encoded : Bool) : Check := fun path v =>
  let isDocument (cs : List Char) : Bool := (Json.read cs).toBool
  match v with
  | .string s =>
    if encoded then
      match Text.base64Decode? s.toList with
      | none => .ofViolations [⟨path, v, .encoded⟩]
      | some octets =>
        demand (fun _ => (Text.decode? octets).any fun s => isDocument s.toList) .document path v
    else demand (fun _ => isDocument s.toList) .document path v
  | _ => .clear

def items (from_ : Nat) (k : Check) : Check := fun path v =>
  match v with
  | .array items =>
    ⟨(items.zipIdx.drop from_).flatMap fun (item, i) => (k (toString i :: path) item).violations,
      fun _ => .allItems v⟩
  | _ => .clear

/-- Checks the first items, each by a check of its own. -/
def firstItems (ks : List Check) : Check := fun path v =>
  match v with
  | .array items =>
    ⟨(ks.zip items.zipIdx).flatMap fun (k, item, i) => (k (toString i :: path) item).violations,
      fun _ => .ofPositions (List.range (min ks.length items.length))⟩
  | _ => .clear

def noItems (from_ : Nat) : Check := fun path v =>
  match v with
  | .array items =>
    let left := items.drop from_
    ⟨if left.isEmpty then [] else [⟨path, v, .unexpectedItems left⟩], fun _ => .allItems v⟩
  | _ => .clear

def contains (k : Check) (least : Nat) (most : Option Nat) (marking : Bool) : Check :=
  fun path v =>
    match v with
    | .array items =>
      let found := items.zipIdx.filter fun (item, _) => (k path item).accepted
      let ok := least ≤ found.length && most.all fun n => found.length ≤ n
      ⟨if ok then [] else [⟨path, v, .contains⟩],
        fun _ => if marking then .ofPositions (found.map (·.2)) else .none⟩
    | _ => .clear

/-- Complains of every name that is missing. -/
def required (names : List String) : Check := fun path v =>
  match v with
  | .object members =>
    .ofViolations (names.flatMap fun n =>
      if (members.lookup n).isSome then [] else [⟨path, v, .required n⟩])
  | _ => .clear

/-- Checks an object by those checks whose name it has a member of. -/
def dependent (named : List (String × Check)) (marking : Bool) : Check := fun path v =>
  let found := named.map fun (name, k) =>
    if (v.member? name).isSome then k path v else .clear
  let report := Report.unions found
  if marking then report else .ofViolations report.violations

/-- Checks the members that have a check of their own, in the order of those checks. -/
def properties (named : List (String × Check)) : Check := fun path v =>
  .ofMembers (named.filterMap fun (name, k) =>
    (v.member? name).map fun value => (name, k (name :: path) value))

/-- Checks members by each pattern that their name matches. -/
def patternProperties (patterns : List (Pattern × Check)) : Check := fun path v =>
  match v with
  | .object members =>
    .ofMembers (patterns.flatMap fun (p, k) =>
      members.filterMap fun (name, value) =>
        if p.holds name then some (name, k (name :: path) value) else none)
  | _ => .clear

/-- The checks that apply to a member of a certain name. -/
def forMember (named : List (String × Check)) (patterns : List (Pattern × Check)) (name : String) :
    List Check :=
  (named.lookup name).toList ++ (patterns.filter fun (p, _) => p.holds name).map (·.2)

/-- Checks every member by name and by pattern, and otherwise by `others`; without that, complains
of the members that are left. -/
def members (named : List (String × Check)) (patterns : List (Pattern × Check))
    (others : Option Check) : Check := fun path v =>
  match v with
  | .object members =>
    let found := members.map fun (name, value) =>
      match forMember named patterns name, others with
      | [], some k => k (name :: path) value
      | ks, _ => all ks (name :: path) value
    let left := (members.filter fun (name, _) => (forMember named patterns name).isEmpty).map (·.1)
    let accepted (k : Check) : List (String × Json) :=
      members.filter fun (name, value) => (k (name :: path) value).accepted
    ⟨found.flatMap (·.violations) ++
        if others.isNone && !left.isEmpty then [⟨path, v, .unexpected left⟩] else [],
      fun _ => .unions [
        (properties named path v).marks (), (patternProperties patterns path v).marks (),
        .ofNames ((others.toList.flatMap accepted).map (·.1))]⟩
  | _ => .clear

/-- Complains of the first member. -/
def noMembers : Check := fun path v =>
  match v with
  | .object ((_, value) :: _) => .ofViolations [⟨path, value, .nothing⟩]
  | _ => .clear

def propertyNames (k : Check) : Check := fun path v =>
  match v with
  | .object members =>
    .ofViolations (members.flatMap fun (name, _) => (k path (.string name)).violations)
  | _ => .clear

def anyOf (ks : List Check) : Check := fun path v =>
  let accepted := (ks.map fun k => k path v).filter Report.accepted
  ⟨if accepted.isEmpty then [⟨path, v, .anyOf⟩] else [],
    fun _ => .unions (accepted.map (·.marks ()))⟩

def oneOf (ks : List Check) : Check := fun path v =>
  match (ks.map fun k => k path v).filter Report.accepted with
  | [] => .ofViolations [⟨path, v, .oneOfNone⟩]
  | [r] => r
  | _ => .ofViolations [⟨path, v, .oneOfSeveral⟩]

def not (k : Check) (source : Json) : Check := fun path v =>
  demand (fun v => !(k path v).accepted) (.not source) path v

def conditional (condition onTrue onFalse : Check) : Check := fun path v =>
  let r := condition path v
  if r.accepted then
    let t := onTrue path v
    ⟨t.violations, fun _ => .union (r.marks ()) (t.marks ())⟩
  else onFalse path v

/-- Checks by `ks`, and complains of the items that they have not looked at and `k` does not
allow. -/
def unevaluatedItems (ks : List Check) (k : Check) : Check := fun path v =>
  let r := all ks path v
  match v with
  | .array items =>
    let seen := (r.marks ()).positions
    let rest := items.zipIdx.filter fun (_, i) => !seen.contains i
    let left := rest.filter fun (item, _) => !(k path item).accepted
    ⟨r.violations ++
        if left.isEmpty then [] else [⟨path, v, .unevaluatedItems (left.map (·.1))⟩],
      fun _ => .union (r.marks ()) (.ofPositions (rest.filterMap fun (item, i) =>
        if (k path item).accepted then some i else none))⟩
  | _ => r

/-- Checks by `ks`, and complains of the members that they have not looked at and `k` does not
allow. -/
def unevaluatedProperties (ks : List Check) (k : Check) : Check := fun path v =>
  let r := all ks path v
  match v with
  | .object members =>
    let seen := (r.marks ()).names
    let rest := members.filter fun (name, _) => !seen.contains name
    let left := rest.filter fun (name, value) => !(k (name :: path) value).accepted
    ⟨r.violations ++ if left.isEmpty then [] else [⟨path, v, .unevaluated (left.map (·.1))⟩],
      fun _ => .union (r.marks ()) (.ofNames (rest.filterMap fun (name, value) =>
        if (k (name :: path) value).accepted then some name else none))⟩
  | _ => r

end Check

open Check in
mutual

/-- The check of a schema; `resolve` gives that of a referenced one. -/
def check (resolve : Place → Check) : Schema → Check
  | .anything => pass
  | .nothing => demand (fun _ => false) .nothing
  | .keywords ks => all (checkKeywords resolve ks)

def checkKeyword (resolve : Place → Check) : Keyword → Check
  | .type kinds => demand (fun v => kinds.any (·.holds v)) (.type kinds)
  | .typeAsWritten kinds => demand (fun v => kinds.any (·.holdsAsWritten v)) (.type kinds)
  | .const value => demand (Json.isExpected value) (.const value)
  | .oneOfValues values => demand (fun v => values.any (·.same v)) (.oneOfValues values)
  | .minimum limit => demand (onNumber fun n => n.compare limit != .lt) (.minimum limit)
  | .maximum limit => demand (onNumber fun n => n.compare limit != .gt) (.maximum limit)
  | .exclusiveMinimum limit =>
    demand (onNumber fun n => n.compare limit == .gt) (.exclusiveMinimum limit)
  | .exclusiveMaximum limit =>
    demand (onNumber fun n => n.compare limit == .lt) (.exclusiveMaximum limit)
  | .multipleOf divisor => demand (onNumber (·.isMultipleOf divisor)) (.multipleOf divisor)
  | .minLength limit => demand (onString fun s => limit ≤ s.length) (.minLength limit)
  | .maxLength limit => demand (onString fun s => s.length ≤ limit) (.maxLength limit)
  | .pattern p => demand (onString p.holds) (.pattern p)
  | .format f => demand (onString f.holds) (.format f)
  | .encoded => demand (onString isEncoded) .encoded
  | .document encoded => document encoded
  | .minItems limit => demand (onArray fun xs => limit ≤ xs.length) (.minItems limit)
  | .maxItems limit => demand (onArray fun xs => xs.length ≤ limit) (.maxItems limit)
  | .uniqueItems => demand (onArray Json.allDistinct) .uniqueItems
  | .items from_ s => items from_ (check resolve s)
  | .firstItems ss => firstItems (checkAll resolve ss)
  | .noItems from_ => noItems from_
  | .contains s least most marking => contains (check resolve s) least most marking
  | .minProperties limit => demand (onObject fun ms => limit ≤ ms.length) (.minProperties limit)
  | .maxProperties limit => demand (onObject fun ms => ms.length ≤ limit) (.maxProperties limit)
  | .required names => required names
  | .dependent named marking => dependent (checkNamed resolve named) marking
  | .properties named => properties (checkNamed resolve named)
  | .patternProperties patterns => patternProperties (checkPatterns resolve patterns)
  | .members named patterns others =>
    members (checkNamed resolve named) (checkPatterns resolve patterns)
      (checkOption? resolve others)
  | .noMembers => noMembers
  | .noNames => demand (onObject (·.isEmpty)) .nothing
  | .propertyNames s => propertyNames (check resolve s)
  | .allOf ss => all (checkAll resolve ss)
  | .anyOf ss => anyOf (checkAll resolve ss)
  | .oneOf ss => oneOf (checkAll resolve ss)
  | .not s source => not (check resolve s) source
  | .conditional condition onTrue onFalse =>
    conditional (check resolve condition) ((checkOption? resolve onTrue).getD pass)
      ((checkOption? resolve onFalse).getD pass)
  | .ref place => fun path v => resolve place path v
  | .unevaluatedItems ks s => unevaluatedItems (checkKeywords resolve ks) (check resolve s)
  | .unevaluatedProperties ks s =>
    unevaluatedProperties (checkKeywords resolve ks) (check resolve s)

def checkKeywords (resolve : Place → Check) : List Keyword → List Check
  | [] => []
  | k :: ks => checkKeyword resolve k :: checkKeywords resolve ks

def checkAll (resolve : Place → Check) : List Schema → List Check
  | [] => []
  | s :: ss => check resolve s :: checkAll resolve ss

def checkNamed (resolve : Place → Check) : List (String × Schema) → List (String × Check)
  | [] => []
  | (name, s) :: ss => (name, check resolve s) :: checkNamed resolve ss

def checkPatterns (resolve : Place → Check) : List (Pattern × Schema) → List (Pattern × Check)
  | [] => []
  | (p, s) :: ss => (p, check resolve s) :: checkPatterns resolve ss

/-- The check of a schema that may be missing. -/
def checkOption? (resolve : Place → Check) : Option Schema → Option Check
  | none => none
  | some s => some (check resolve s)

end

end Elicit.Schema

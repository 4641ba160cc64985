import Elicit.Schema.Document
import Elicit.Schema.Registry

/-! References between schemas: where a reader stands, and what a reference leads to. -/
namespace Elicit.Schema

/-- Where a schema is read: what references can lead to, the base that they are resolved against,
the resources on the way, last one first, and the dialect. -/
structure Context where
  registry : Registry
  base : Uri
  scope : List Uri
  dialect : Dialect

namespace Context

/-- The context after a step to a resource. The one that is left joins those on the way, unless
the step stays within it; one that is there already keeps its place. -/
def goTo (c : Context) (uri : Uri) : Context :=
  let leaves := c.scope = [] ∨ uri ≠ c.base
  { c with
    base := uri
    scope := if leaves ∧ !c.scope.contains c.base then c.base :: c.scope else c.scope }

/-- The context within a schema, which may tell where it is. -/
def enter (c : Context) (v : Json) : Except Fault Context :=
  match c.dialect.identifier? v with
  | some name => return { c with base := ← resolveReference c.base name }
  | none => .ok c

end Context

inductive Target where
  /-- A value, to be read as a schema in its own context. -/
  | found (v : Json) (c : Context)
  | dialect (d : Dialect) (pointer : String)

/-- A pointer's step as a name. -/
def unescapeStep : List Char → List Char
  | '~' :: '0' :: cs => '~' :: unescapeStep cs
  | '~' :: '1' :: cs => '/' :: unescapeStep cs
  | '~' :: c :: cs => '~' :: c :: unescapeStep cs
  | c :: cs => c :: unescapeStep cs
  | [] => []

/-- The greatest position that can be named. -/
def maxPosition : Nat := 18446744073709551615

/-- The position that a step into an array names; a plus sign may stand before it. -/
def position? (step : List Char) : Option Nat :=
  let digits := match step with
    | '+' :: cs => cs
    | cs => cs
  (Format.decimal? digits).bind fun n => if n ≤ maxPosition then some n else none

/-- A way into a resource: the steps since the last resource that it passes through, the context
and the value that it has come to. -/
structure Way where
  steps : List String
  context : Context
  value : Json

/-- The value one step into a value, and the name of the step. -/
def stepInto (pointer : String) (v : Json) (step : List Char) : Except Fault (Json × String) :=
  match v with
  | .array items =>
    match position? step with
    | none => .error (.badPosition (String.ofList step) pointer)
    | some i =>
      match items[i]? with
      | some item => .ok (item, String.ofList step)
      | none => .error (.danglingPointer pointer)
  | v =>
    let name := String.ofList (unescapeStep step)
    match v.member? name with
    | some value => .ok (value, name)
    | none => .error (.danglingPointer pointer)

/-- The way after one more step. A schema on it that tells where it is starts a resource of its
own. -/
def Way.step (pointer : String) (w : Way) (step : List Char) : Except Fault Way := do
  let (value, name) ← stepInto pointer w.value step
  let steps := w.steps ++ [name]
  let dialect := w.context.dialect
  let reached := dialect.reachesSchema value steps
  let context ← if reached then w.context.enter value else pure w.context
  return ⟨if context.base = w.context.base then steps else [], context, value⟩

def follow (c : Context) (root : Json) (pointer : String) : Except Fault Target :=
  match Text.percentDecode? (pointer.toList.drop 1) with
  | none => .error (.badPointer pointer)
  | some text => do
    let w ← (Text.fields '/' text.toList).foldlM (Way.step pointer) ⟨[], c, root⟩
    return .found w.value w.context

/-- The anchor that stands for one that gives way: the oldest of that name on the way. -/
def oldestAnchor (c : Context) (name : String) (a : Anchor) : Anchor :=
  c.scope.foldl (fun found uri =>
    match c.registry.anchor? uri name with
    | some b => if b.givesWay then b else found
    | none => found) a

def atAnchor (c : Context) (uri : Uri) (name : String) : Except Fault Target :=
  match c.registry.anchor? uri name with
  | none => .error (if name.toList.contains '/' then .badAnchor name else .danglingAnchor name)
  | some a =>
    let c := c.goTo uri
    if a.givesWay then do
      let r := (oldestAnchor c name a).resource
      let c := { c with dialect := r.dialect }
      return .found r.contents (← c.enter r.contents)
    else .ok (.found a.resource.contents { c with dialect := a.resource.dialect })

/-- A reference's resource and its fragment, as they are written. -/
def splitFragment (reference : String) : String × String :=
  let cs := reference.toList.reverse
  let fragment := cs.takeWhile (· != '#')
  if fragment.length = cs.length then (reference, "")
  else (String.ofList (cs.drop (fragment.length + 1)).reverse, String.ofList fragment.reverse)

/-- The resource that a reference leads to, and the rest of the reference. -/
def resourceOf (base : Uri) (reference : String) : Except Fault (Uri × String) :=
  match reference.toList with
  | '#' :: fragment => .ok (base, String.ofList fragment)
  | _ => do
    let (resource, fragment) := splitFragment reference
    return (← resolveReference base resource, fragment)

def lookUp (c : Context) (reference : String) : Except Fault Target := do
  let (uri, fragment) ← resourceOf c.base reference
  match c.registry.resource? uri with
  | some r =>
    match fragment.toList with
    | [] => return .found r.contents { c.goTo uri with dialect := r.dialect }
    | '/' :: _ => follow { c.goTo uri with dialect := r.dialect } r.contents fragment
    | _ => atAnchor c uri fragment
  | none =>
    match Registry.dialectAt? uri with
    | some d =>
      match fragment.toList with
      | [] | '/' :: _ =>
        if (d.schemaAt? fragment).isSome then return .dialect d fragment
        else .error (.danglingPointer fragment)
      | _ => .error (.danglingAnchor fragment)
    | none => .error (.unknownResource uri)

/-- Whether a schema of draft 2019-09 gives way to older ones. -/
def isRecursive : Target → Bool
  | .found v _ => v.member? "$recursiveAnchor" == some (.bool true)
  | .dialect .. => false

/-- What the recursive reference leads to: the oldest resource on the way, as long as resources
there give way to older ones. -/
def lookUpRecursive (c : Context) : Except Fault Target := do
  let first ← lookUp c "#"
  let older (state : Target × Bool) (uri : Uri) : Except Fault (Target × Bool) := do
    if !state.2 then return state
    let next ← lookUp c uri.text
    if isRecursive next then return (next, true) else return (state.1, false)
  if isRecursive first then return (← c.scope.foldlM older (first, true)).1 else return first

end Elicit.Schema

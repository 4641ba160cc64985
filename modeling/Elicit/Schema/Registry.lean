import Elicit.Schema.Fault

/-! The resources and anchors of a schema, by where they are. -/
namespace Elicit.Schema

/-- A schema that references lead to, and the dialect it is written in. -/
structure Resource where
  contents : Json
  dialect : Dialect

/-- An anchor: the schema that declares it, and whether it gives way to older ones. -/
structure Anchor where
  resource : Resource
  givesWay : Bool

/-- What references can lead to: resources by their place, and anchors by place and name. What
was added last comes first. -/
structure Registry where
  resources : List (Uri × Resource)
  anchors : List ((Uri × String) × Anchor)

namespace Registry

def addResource (g : Registry) (uri : Uri) (r : Resource) : Registry :=
  { g with resources := (uri, r) :: g.resources }

def addAnchors (g : Registry) (base : Uri) (r : Resource) : Registry :=
  { g with anchors :=
      ((r.dialect.anchors r.contents).map fun (name, givesWay) =>
        ((base, name), ⟨r, givesWay⟩)).reverse ++ g.anchors }

/-- Where schemas of schemas stand; they are always at hand. -/
def standardPlaces : List String :=
  ["https://json-schema.org/draft/2020-12/", "https://json-schema.org/draft/2019-09/",
    "http://json-schema.org/draft-07/", "http://json-schema.org/draft-06/",
    "http://json-schema.org/draft-04/"]

/-- Whether a reference leads out of the resource that it stands in. -/
def leadsOut (reference : String) : Bool :=
  let cs := reference.toList
  cs.head? != some '#' && !standardPlaces.any fun place => place.toList.isPrefixOf cs

/-- The resources that a schema's own keywords refer to. -/
def outerReferences (base : Uri) (v : Json) : Except Fault (List Uri) :=
  if base.scheme = some "urn".toList then .ok []
  else (["$ref", "$schema"].filterMap fun keyword =>
    match v.member? keyword with
    | some (.string reference) => if leadsOut reference then some reference else none
    | _ => none).mapM fun reference => return (← resolveReference base.whole reference).whole

/-- A schema that is to be looked at, and the place of the resource that it stands in. -/
abbrev Waiting := Uri × Resource

/-- Looks at schemas and those within them, breadth first and at most `n` of them. Gives the
registry with what they declare, and the resources that they refer to. -/
def explore : Nat → Registry → List Uri → List Waiting → Except Fault (Registry × List Uri)
  | 0, g, outer, _ => .ok (g, outer)
  | _ + 1, g, outer, [] => .ok (g, outer)
  | n + 1, g, outer, (place, r) :: waiting => do
    let (g, base) ← match r.dialect.identifier? r.contents with
      | some name => do
        let base ← resolveReference place name
        pure (g.addResource base r, base)
      | none => pure (g, place)
    let outer := outer ++ (← outerReferences base r.contents)
    let within ← (r.dialect.subschemas r.contents).mapM fun v =>
      return (base, ⟨v, ← dialectWithin r.dialect v⟩)
    explore n (g.addAnchors base r) outer (waiting ++ within)

def dialectAt? (uri : Uri) : Option Dialect :=
  if uri.authority = some "json-schema.org".toList then Dialect.ofName? uri.text else none

def resource? (g : Registry) (uri : Uri) : Option Resource := g.resources.lookup uri

/-- The registry of a schema at a place. Everything that it refers to is to be in it. -/
def ofSchema (place : Uri) (r : Resource) : Except Fault Registry := do
  let (g, outer) ← explore (r.contents.size + 1) ⟨[(place, r)], []⟩ [] [(place, r)]
  match outer.find? fun uri => (g.resource? uri).isNone && (dialectAt? uri).isNone with
  | some uri => .error (.missingResource uri)
  | none => .ok g

def anchor? (g : Registry) (uri : Uri) (name : String) : Option Anchor :=
  (g.anchors.lookup (uri, name)).or do
    let r ← g.resource? uri
    let own ← (Uri.ofIdentifier (← r.dialect.identifier? r.contents)).toOption
    g.anchors.lookup (own, name)

end Registry

end Elicit.Schema

import Elicit.Schema.Reference

/-! Reading schemas from JSON, keyword by keyword in the order of their names, depth first; the
first fault counts. -/
namespace Elicit.Schema

/-- What reading has come to know: the references that have been followed, the schemas that they
led to, and what is still to be read. -/
structure Progress where
  followed : List Uri
  places : List (Place × Schema)
  pending : List (Place × Json × Context)

/-- A reader of something in a schema. -/
abbrev ReadM := StateT Progress (Except Fault)

/-- A reader of a certain schema, for a context that the schema stands in. -/
abbrev SchemaReader := Context → ReadM Schema

/-- A member of a schema, with readers for the schemas that it may hold: itself, its items and
its own members. -/
structure Reading where
  value : Json
  schema : SchemaReader
  items : List SchemaReader
  members : List (String × Json × SchemaReader)

/-- The members of a schema, by name. -/
abbrev Readings := List (String × Reading)

/-- A value that is of none of the kinds it should be. -/
def misplaced (v : Json) (kinds : List Kind) : Fault := .malformed ⟨[], v, .type kinds⟩

/-- The number that a bound is. -/
def readNumber : Json → Except Fault Json.Number
  | .number n => .ok n
  | v => .error (misplaced v [.number])

/-- The string that a value is. -/
def readString : Json → Except Fault String
  | .string s => .ok s
  | v => .error (misplaced v [.string])

/-- The greatest limit on sizes. -/
def maxLimit : Nat := 18446744073709551615

/-- A value that is no limit on sizes. -/
def noLimit (v : Json) : Fault :=
  match v with
  | .number (.integer i) => if i < 0 then .malformed ⟨[], v, .minimum (.integer 0)⟩
    else misplaced v [.integer]
  | v => misplaced v [.integer]

/-- The limit on sizes that a value is. Since draft 6 it is taken as binary64, and any whole number
will do. -/
def readLimit (d : Dialect) (v : Json) : Except Fault Nat :=
  let whole? : Option Binary64 := match v with
    | .number n => if d.since .draft6 then n.toDouble?.filter (·.isWhole) else none
    | _ => none
  match whole?, v with
  | some x, _ =>
    let (p, q) := x.ratio
    .ok (if x.negative then 0 else min (p / q) maxLimit)
  | none, .number (.integer i) =>
    if 0 ≤ i ∧ i ≤ maxLimit then .ok i.toNat else .error (noLimit v)
  | none, v => .error (noLimit v)

/-- The limit on the number of items that a value is. -/
def readCount (v : Json) : Except Fault Nat :=
  match v with
  | .number n =>
    let (p, q) := n.fraction
    if 0 ≤ p ∧ n.isWhole then .ok (p.toNat / q) else .error (noLimit v)
  | v => .error (noLimit v)

def readNames : Json → Except Fault (List String)
  | .array items => items.mapM readString
  | v => .error (misplaced v [.array])

/-- The kinds that a `type` names, if they are kinds. -/
def kinds? : Json → Option (List Kind)
  | .string name => (Kind.ofName? name).map ([·])
  | .array items => items.mapM fun
    | .string name => Kind.ofName? name
    | _ => none
  | _ => none

/-- Reads a pattern; `subject` is what is at fault if it cannot be read. -/
def readPattern (source : String) (subject : Json) : Except Fault Pattern :=
  match Pattern.read? source with
  | some p => .ok p
  | none => .error (.malformed ⟨[], subject, .format .regex⟩)

namespace Reading

/-- The members of an object, with their readers. -/
def named (r : Reading) : Except Fault (List (String × Json × SchemaReader)) :=
  match r.value with
  | .object _ => .ok r.members
  | v => .error (misplaced v [.object])

/-- The readers of an array's items. -/
def listed (r : Reading) : Except Fault (List SchemaReader) :=
  match r.value with
  | .array _ => .ok r.items
  | v => .error (misplaced v [.array])

def readSchemas (r : Reading) (c : Context) : ReadM (List Schema) := do
  (← r.listed).mapM fun read => read c

def readNamed (r : Reading) (c : Context) : ReadM (List (String × Schema)) := do
  (← r.named).mapM fun (name, _, read) => return (name, ← read c)

def readPatterns (r : Reading) (c : Context) : ReadM (List (Pattern × Schema)) := do
  (← r.named).mapM fun (source, v, read) => do
    let p ← readPattern source v
    return (p, ← read c)

/-- Reads what an object depends on, by name: schemas, or lists of names. -/
def readDependencies (r : Reading) (c : Context) : ReadM (List (String × Schema)) := do
  (← r.named).mapM fun (name, v, read) => do
    match v with
    | .array _ => return (name, .keywords [.required (← readNames v)])
    | _ => return (name, ← read c)

/-- Reads the lists of names that an object depends on, by name. -/
def readRequirements (r : Reading) : ReadM (List (String × Schema)) := do
  (← r.named).mapM fun (name, v, _) => return (name, .keywords [.required (← readNames v)])

end Reading

/-- Whether `additionalProperties` has a say, which takes the members over from `properties` and
`patternProperties`. -/
def ordersMembers (siblings : Readings) : Bool :=
  match siblings.lookup "additionalProperties" with
  | some r =>
    match r.value with
    | .bool b => !b
    | .object _ => true
    | _ => false
  | none => false

def readSibling? (siblings : Readings) (c : Context) (name : String) : ReadM (Option Schema) :=
  match siblings.lookup name with
  | some r => some <$> r.schema c
  | none => return none

def firstCount (siblings : Readings) : Nat :=
  match siblings.lookup "prefixItems" with
  | some r => r.items.length
  | none => 0

/-- Reads `additionalProperties`: patterns first, then names, then the others. Where all others
are allowed, it has at least looked at them. -/
def readMembers (siblings : Readings) (c : Context) (r : Reading) : ReadM (Option Keyword) := do
  let patterns ← match siblings.lookup "patternProperties" with
    | some r => some <$> r.readPatterns c
    | none => pure none
  if r.value == .bool true then return some (.unevaluatedProperties [] .anything)
  let named ← match siblings.lookup "properties" with
    | some r => some <$> r.readNamed c
    | none => pure none
  match r.value with
  | .bool false =>
    if patterns.isNone && named.isNone then return some .noMembers
    else return some (.members (named.getD []) (patterns.getD []) none)
  | _ => return some (.members (named.getD []) (patterns.getD []) (some (← r.schema c)))

def readItems (siblings : Readings) (c : Context) (r : Reading) : ReadM (Option Keyword) := do
  match r.value with
  | .array _ =>
    if c.dialect.since .draft2020 then return some (.items (firstCount siblings) (← r.schema c))
    else return some (.firstItems (← r.readSchemas c))
  | _ =>
    let from_ := if c.dialect.since .draft2020 then firstCount siblings else 0
    return some (.items from_ (← r.schema c))

/-- Reads `additionalItems`, which has a say beside a list of `items`. -/
def readFurtherItems (siblings : Readings) (c : Context) (r : Reading) :
    ReadM (Option Keyword) := do
  match siblings.lookup "items" with
  | none => return none
  | some items =>
    match items.value, r.value with
    | .array vs, .object _ => return some (.items vs.length (← r.schema c))
    | .array vs, .bool false => return some (.noItems vs.length)
    | .array vs, .bool true => return some (.items vs.length .anything)
    | .bool false, _ => return some (.allOf [.nothing])
    | _, _ => return none

/-- Reads `contains` with its limits. -/
def readContains (siblings : Readings) (c : Context) (r : Reading) : ReadM (Option Keyword) := do
  let limit (name : String) : ReadM (Option Nat) :=
    match siblings.lookup name with
    | some r => if c.dialect.since .draft2019 then some <$> readCount r.value else return none
    | none => return none
  let least ← limit "minContains"
  let most ← limit "maxContains"
  return some (.contains (← r.schema c) (least.getD 1) most (c.dialect.since .draft2020))

/-- Reads `if` with its branches. Without any it is not held to be a schema, and is read only for
what it looks at. -/
def readConditional (siblings : Readings) (c : Context) (r : Reading) :
    ReadM (Option Keyword) := do
  if (siblings.lookup "then").isNone ∧ (siblings.lookup "else").isNone then
    try return some (.conditional (← r.schema c) none none)
    catch _ => return none
  else
    let condition ← r.schema c
    let onTrue ← readSibling? siblings c "then"
    return some (.conditional condition onTrue (← readSibling? siblings c "else"))

/-- Reads a bound; in draft 4 a sibling tells whether the bound itself is allowed. -/
def readBound (siblings : Readings) (c : Context) (r : Reading) (exclusive : String)
    (inner outer : Json.Number → Keyword) : Except Fault (Option Keyword) := do
  let n ← readNumber r.value
  let excluded := match siblings.lookup exclusive with
    | some r => r.value == .bool true
    | none => false
  return some (if c.dialect == .draft4 && excluded then outer n else inner n)

/-- Reads the media type of a string, which may be in base 64. -/
def readMediaType (siblings : Readings) (r : Reading) : Option Keyword :=
  if r.value == .string "application/json" then
    match siblings.lookup "contentEncoding" with
    | some e => some (.document (e.value == .string "base64"))
    | none => some (.document false)
  else none

/-- Reads the encoding of a string, unless that is up to the media type. -/
def readEncoding (siblings : Readings) (r : Reading) : Option Keyword :=
  if (siblings.lookup "contentMediaType").isNone ∧ r.value == .string "base64" then some .encoded
  else none

/-- Reads the schemas that references lead to. -/
abbrev Follower := Context → Json → ReadM Schema

/-- Notes down a schema at a place. -/
def Progress.add (place : Place) (s : Schema) (p : Progress) : Progress :=
  { p with places := (place, s) :: p.places }

/-- Notes down that a value at a place is to be read. -/
def Progress.await (place : Place) (v : Json) (c : Context) (p : Progress) : Progress :=
  { p with pending := p.pending ++ [(place, v, c)] }

/-- Reads a reference. What it leads to is read at its first mention; later ones lead to the same
place. A schema that refers to itself by the same text says nothing. -/
def readReference (read : Follower) (c : Context) (reference : String) :
    ReadM (Option Keyword) := do
  let uri ← resolveReference c.base reference
  let seen := (← get).followed.contains uri
  if !seen then modify fun p => { p with followed := uri :: p.followed }
  match ← lookUp c reference with
  | .dialect d pointer => return some (.ref (.dialect d pointer))
  | .found v there =>
    let place : Place := .within uri there.scope
    if !seen then
      let s ← read there v
      modify (Progress.add place s)
      return some (.ref place)
    else if v.member? "$ref" == some (.string reference) then return none
    else
      modify (Progress.await place v there)
      return some (.ref place)

def readRecursive (c : Context) : ReadM (Option Keyword) := do
  match ← lookUpRecursive c with
  | .dialect d pointer => return some (.ref (.dialect d pointer))
  | .found v there =>
    let place : Place := .within there.base there.scope
    modify (Progress.await place v there)
    return some (.ref place)

/-- The keywords that limit a size. -/
def limitKeyword? : String → Option (Nat → Keyword)
  | "maxItems" => some .maxItems
  | "maxLength" => some .maxLength
  | "maxProperties" => some .maxProperties
  | "minItems" => some .minItems
  | "minLength" => some .minLength
  | "minProperties" => some .minProperties
  | _ => none

/-- The keywords that say a number, bounds that a sibling may exclude apart. -/
def numberKeyword? : String → Option (Json.Number → Keyword)
  | "exclusiveMaximum" => some .exclusiveMaximum
  | "exclusiveMinimum" => some .exclusiveMinimum
  | "multipleOf" => some .multipleOf
  | _ => none

/-- The keywords that list schemas. -/
def listKeyword? : String → Option (List Schema → Keyword)
  | "allOf" => some .allOf
  | "anyOf" => some .anyOf
  | "oneOf" => some .oneOf
  | "prefixItems" => some .firstItems
  | _ => none

def readType (c : Context) (v : Json) : Except Fault (Option Keyword) :=
  match v with
  | .string _ | .array _ =>
    .ok ((kinds? v).map fun kinds =>
      if c.dialect = .draft4 then .typeAsWritten kinds else .type kinds)
  | v => .error (misplaced v [.array, .string])

def readFormat (c : Context) (v : Json) : Except Fault (Option Keyword) := do
  if c.dialect.checksFormats then
    return (Format.ofName? c.dialect (← readString v)).map .format
  else return none

/-- Reads `enum`. -/
def readValues : Json → Except Fault Keyword
  | .array values => .ok (.oneOfValues values)
  | v => .error (misplaced v [.array])

/-- Reads a keyword that holds no schema. -/
def readPlain (siblings : Readings) (c : Context) (name : String) (r : Reading) :
    Except Fault (Option Keyword) := do
  if let some k := limitKeyword? name then return some (k (← readLimit c.dialect r.value))
  if let some k := numberKeyword? name then return some (k (← readNumber r.value))
  match name with
  | "const" => return some (.const r.value)
  | "contentEncoding" => return readEncoding siblings r
  | "contentMediaType" => return readMediaType siblings r
  | "enum" => return some (← readValues r.value)
  | "format" => readFormat c r.value
  | "maximum" => readBound siblings c r "exclusiveMaximum" .maximum .exclusiveMaximum
  | "minimum" => readBound siblings c r "exclusiveMinimum" .minimum .exclusiveMinimum
  | "pattern" => return some (.pattern (← readPattern (← readString r.value) r.value))
  | "required" => return some (.required (← readNames r.value))
  | "type" => readType c r.value
  | "uniqueItems" => return if r.value == .bool true then some .uniqueItems else none
  | _ => return none

/-- Reads a keyword among its siblings; one that is not known says nothing. -/
def readKeyword (read : Follower) (siblings : Readings) (c : Context) (name : String)
    (r : Reading) : ReadM (Option Keyword) :=
  if !c.dialect.knows name then return none
  else if let some k := listKeyword? name then return some (k (← r.readSchemas c))
  else match name with
    | "$ref" | "$dynamicRef" => do readReference read c (← readString r.value)
    | "$recursiveRef" => readRecursive c
    | "additionalItems" => readFurtherItems siblings c r
    | "additionalProperties" => readMembers siblings c r
    | "contains" => readContains siblings c r
    | "dependencies" => return some (.dependent (← r.readDependencies c) false)
    | "dependentRequired" => return some (.dependent (← r.readRequirements) false)
    | "dependentSchemas" => return some (.dependent (← r.readNamed c) true)
    | "if" => readConditional siblings c r
    | "items" => readItems siblings c r
    | "not" => return some (.not (← r.schema c) r.value)
    | "patternProperties" =>
      if ordersMembers siblings then return none
      else return some (.patternProperties (← r.readPatterns c))
    | "properties" =>
      if ordersMembers siblings then return none else return some (.properties (← r.readNamed c))
    | "propertyNames" =>
      if r.value == .bool false then return some .noNames
      else return some (.propertyNames (← r.schema c))
    | _ => readPlain siblings c name r

def readKeywords (read : Follower) (siblings : Readings) (c : Context) (before : List Keyword) :
    Readings → ReadM (List Keyword)
  | [] => return before
  | (name, r) :: rest => do
    if c.dialect.knows name ∧ name = "unevaluatedItems" then
      readKeywords read siblings c [.unevaluatedItems before (← r.schema c)] rest
    else if c.dialect.knows name ∧ name = "unevaluatedProperties" then
      readKeywords read siblings c [.unevaluatedProperties before (← r.schema c)] rest
    else
      let k ← readKeyword read siblings c name r
      readKeywords read siblings c (before ++ k.toList) rest

/-- Reads the members of a schema. Up to draft 7 a reference leaves nothing to the others. -/
def readMembersOf (read : Follower) (c : Context) (readings : Readings) : ReadM Schema := do
  let alone := if c.dialect.referenceStandsAlone then
    readings.filter fun (name, _) => name == "$ref" else []
  return .keywords (← readKeywords read readings c [] (if alone.isEmpty then readings else alone))

mutual

/-- Reads a schema; `read` reads those that it refers to. -/
def readSchema (read : Follower) : Json → SchemaReader
  | .bool true => fun _ => return .anything
  | .bool false => fun _ => return .nothing
  | .object members => fun c => do
    let c := { c with dialect := (c.dialect.within (.object members)).toOption.getD .draft2020 }
    readMembersOf read (← c.enter (.object members)) (readings read members)
  | v => fun _ => throw (misplaced v [.boolean, .object])

def readings (read : Follower) : List (String × Json) → Readings
  | [] => []
  | (name, v) :: members =>
    (name, ⟨v, readSchema read v, itemReaders read v, memberReaders read v⟩) ::
      readings read members

def itemReaders (read : Follower) : Json → List SchemaReader
  | .array items => readers read items
  | _ => []

def readers (read : Follower) : List Json → List SchemaReader
  | [] => []
  | v :: vs => readSchema read v :: readers read vs

def memberReaders (read : Follower) : Json → List (String × Json × SchemaReader)
  | .object members => namedReaders read members
  | _ => []

def namedReaders (read : Follower) : List (String × Json) → List (String × Json × SchemaReader)
  | [] => []
  | (name, v) :: members => (name, v, readSchema read v) :: namedReaders read members

end

/-- Reads what a reference leads to, and has told where it is already. -/
def readTarget (read : Follower) (c : Context) : Json → ReadM Schema
  | .object members => readMembersOf read c (readings read members)
  | v => readSchema read v c

/-- Reads what a reference leads to, following at most `n` more from there in a row. -/
def follower : Nat → Follower
  | 0 => fun _ _ => return .anything
  | n + 1 => fun c v => readTarget (follower n) c v

/-- Reads what is still to be read, at most `n` values. -/
def readPending (read : Follower) : Nat → ReadM Unit
  | 0 => return
  | n + 1 => do
    match (← get).pending with
    | [] => return
    | (place, v, c) :: rest =>
      modify fun p => { p with pending := rest }
      if ((← get).places.lookup place).isNone then
        modify fun p => { p with followed := [] }
        let s ← read c v
        modify (Progress.add place s)
      readPending read n

/-- Reads a schema in a context, with those that it refers to. A reference in a row is followed
once, and there are no more references than values, each read against no more bases. -/
def Document.read (c : Context) (v : Json) : Except Fault Document := do
  let n := v.size
  let read := follower (n * n)
  let reading : ReadM Schema := do
    let s ← readSchema read v c
    readPending read (n * n * n)
    return s
  let (s, p) ← reading.run ⟨[], [], []⟩
  return ⟨s, p.places⟩

end Elicit.Schema

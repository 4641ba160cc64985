import Elicit.Schema.Meta.Basic

/-! The schemas of schemas since draft 2019-09, by vocabulary. -/
namespace Elicit.Schema.Meta

/-- The characters of an anchor: a letter or a mark, then letters, digits and more marks. -/
def anchorRegex (first other : Unicode.Ranges) : Regex :=
  .seq (.assertion .textStart) (.seq (.set (.ranges first))
    (.seq (.rep (.set (.ranges other)) 0 none true) (.assertion .textEnd)))

/-- The schema of anchors: a letter or an underscore, then those, digits, points and hyphens. -/
def anchor : Schema := .keywords
  [.pattern ⟨"^[A-Za-z_][-A-Za-z0-9._]*$",
    anchorRegex [(0x41, 0x5A), (0x5F, 0x5F), (0x61, 0x7A)]
      [(0x2D, 0x2E), (0x30, 0x39), (0x41, 0x5A), (0x5F, 0x5F), (0x61, 0x7A)]⟩,
    .type [.string]]

/-- The schema of anchors of draft 2019-09, which start with a letter and may have colons. -/
def anchor2019 : Schema := .keywords
  [.pattern ⟨"^[A-Za-z][-A-Za-z0-9.:_]*$",
    anchorRegex [(0x41, 0x5A), (0x61, 0x7A)]
      [(0x2D, 0x2E), (0x30, 0x3A), (0x41, 0x5A), (0x5F, 0x5F), (0x61, 0x7A)]⟩,
    .type [.string]]

/-- The schema of identifiers, which have no fragment. -/
def identifier : Schema :=
  let mark : Unicode.CharSet := .single '#'
  .keywords [.type [.string], .pattern ⟨"^[^#]*#?$",
    .seq (.assertion .textStart) (.seq (.rep (.set (.complement mark)) 0 none true)
      (.seq (.rep (.set mark) 0 (some 1) true) (.assertion .textEnd)))⟩]

/-- A vocabulary: what it says of the keywords it knows. -/
def vocabulary (named : List (String × Schema)) : Schema :=
  .keywords [.properties named, .type [.object, .boolean]]

def vocabularies : Schema := .keywords
  [.members [] [] (some (ofKind .boolean)), .propertyNames (ofKind .string), .type [.object]]

def core : Schema := vocabulary
  [("$anchor", anchor), ("$comment", ofKind .string), ("$defs", schemaMap .draft2020),
    ("$dynamicAnchor", anchor), ("$dynamicRef", ofKind .string), ("$id", identifier),
    ("$ref", ofKind .string), ("$schema", ofKind .string), ("$vocabulary", vocabularies)]

def core2019 : Schema := vocabulary
  [("$anchor", anchor2019), ("$comment", ofKind .string), ("$defs", schemaMap .draft2019),
    ("$id", identifier), ("$recursiveAnchor", ofKind .boolean),
    ("$recursiveRef", ofKind .string), ("$ref", ofKind .string), ("$schema", ofKind .string),
    ("$vocabulary", vocabularies)]

/-- Schemas applied to parts of a value, or together. -/
def applicator : Schema :=
  let schema := schema .draft2020
  let schemaArray := schemaArray .draft2020
  let schemaMap := schemaMap .draft2020
  vocabulary
    [("additionalProperties", schema), ("allOf", schemaArray), ("anyOf", schemaArray),
      ("contains", schema), ("dependentSchemas", schemaMap), ("else", schema), ("if", schema),
      ("items", schema), ("not", schema), ("oneOf", schemaArray),
      ("patternProperties", schemaMap), ("prefixItems", schemaArray), ("properties", schemaMap),
      ("propertyNames", schema), ("then", schema)]

def applicator2019 : Schema :=
  let schema := schema .draft2019
  let schemaArray := schemaArray .draft2019
  let schemaMap := schemaMap .draft2019
  vocabulary
    [("additionalItems", schema), ("additionalProperties", schema), ("allOf", schemaArray),
      ("anyOf", schemaArray), ("contains", schema), ("dependentSchemas", schemaMap),
      ("else", schema), ("if", schema), ("items", schemaOrArray .draft2019), ("not", schema),
      ("oneOf", schemaArray), ("patternProperties", schemaMap), ("properties", schemaMap),
      ("propertyNames", schema), ("then", schema), ("unevaluatedItems", schema),
      ("unevaluatedProperties", schema)]

/-- What no other keyword has looked at. -/
def unevaluated : Schema := vocabulary
  [("unevaluatedItems", schema .draft2020), ("unevaluatedProperties", schema .draft2020)]

/-- Requirements on a value itself. -/
def validation : Schema := vocabulary
  [("const", .anything),
    ("dependentRequired", .keywords [.members [] [] (some names), .type [.object]]),
    ("enum", values), ("exclusiveMaximum", ofKind .number), ("exclusiveMinimum", ofKind .number),
    ("maxContains", limit), ("maxItems", limit), ("maxLength", limit), ("maxProperties", limit),
    ("maximum", ofKind .number), ("minContains", limit), ("minItems", limit),
    ("minLength", limit), ("minProperties", limit), ("minimum", ofKind .number),
    ("multipleOf", divisor), ("pattern", ofKind .string), ("required", names),
    ("type", kindNames), ("uniqueItems", ofKind .boolean)]

def description : Schema := vocabulary
  [("default", .anything), ("deprecated", ofKind .boolean), ("description", ofKind .string),
    ("examples", values), ("readOnly", ofKind .boolean), ("title", ofKind .string),
    ("writeOnly", ofKind .boolean)]

def format : Schema := vocabulary [("format", ofKind .string)]

def content (d : Dialect) : Schema := vocabulary
  [("contentEncoding", ofKind .string), ("contentMediaType", ofKind .string),
    ("contentSchema", schema d)]

/-- The schema of schemas of draft 2020-12: every vocabulary, and what remains of older ones. -/
def draft2020 : Schema := .keywords
  [.allOf [core, applicator, unevaluated, validation, description, format, content .draft2020],
    .properties [("$recursiveAnchor", anchor), ("$recursiveRef", ofKind .string),
      ("definitions", schemaMap .draft2020), ("dependencies", dependencies .draft2020 names)],
    .type [.object, .boolean]]

def draft2019 : Schema := .keywords
  [.allOf [core2019, applicator2019, validation, description, format, content .draft2019],
    .properties [("definitions", schemaMap .draft2019),
      ("dependencies", dependencies .draft2019 names)],
    .type [.object, .boolean]]

end Elicit.Schema.Meta

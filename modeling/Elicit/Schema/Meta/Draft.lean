import Elicit.Schema.Meta.Basic

/-! The schemas of schemas up to draft 7, each in one piece. -/
namespace Elicit.Schema.Meta

/-- Named schemas in the order of their names. -/
def inOrder (named : List (String × Schema)) : List (String × Schema) :=
  named.foldl (fun ss (name, s) => Json.insertMember name s ss) []

/-- The keywords that every draft up to draft 7 describes in the same way. -/
def shared (d : Dialect) : List (String × Schema) :=
  [("allOf", schemaArray d), ("anyOf", schemaArray d), ("default", .anything),
    ("definitions", schemaMap d), ("description", ofKind .string), ("format", ofKind .string),
    ("items", schemaOrArray d), ("maximum", ofKind .number), ("minimum", ofKind .number),
    ("not", schema d), ("oneOf", schemaArray d), ("pattern", ofFormat .regex),
    ("patternProperties", schemaMap d), ("properties", schemaMap d), ("title", ofKind .string),
    ("type", kindNames), ("uniqueItems", ofKind .boolean)]

def limits (s : Schema) : List (String × Schema) :=
  [("maxItems", s), ("maxLength", s), ("maxProperties", s), ("minItems", s), ("minLength", s),
    ("minProperties", s)]

/-- What draft 4 says of its keywords. -/
def properties4 : List (String × Schema) :=
  let boolOrSchema : Schema := .keywords [.anyOf [ofKind .boolean, schema .draft4]]
  inOrder (shared .draft4 ++ limits limitAsWritten ++
    [("$schema", ofKind .string), ("additionalItems", boolOrSchema),
      ("additionalProperties", boolOrSchema), ("dependencies", dependencies .draft4 someNames),
      ("enum", distinctValues), ("exclusiveMaximum", ofKind .boolean),
      ("exclusiveMinimum", ofKind .boolean), ("id", ofKind .string), ("multipleOf", divisor),
      ("required", someNames)])

def draft4 : Schema := .keywords
  [.dependent [("exclusiveMaximum", .keywords [.required ["maximum"]]),
    ("exclusiveMinimum", .keywords [.required ["minimum"]])] false,
  .properties properties4, .type [.object]]

/-- What drafts 6 and 7 describe in the same way. -/
def sharedSinceDraft6 (d : Dialect) : List (String × Schema) :=
  shared d ++ limits limit ++
    [("$id", ofFormat .uriReference), ("$ref", ofFormat .uriReference), ("$schema", ofFormat .uri),
      ("additionalItems", schema d), ("additionalProperties", schema d), ("const", .anything),
      ("contains", schema d), ("dependencies", dependencies d names), ("examples", values),
      ("exclusiveMaximum", ofKind .number), ("exclusiveMinimum", ofKind .number),
      ("multipleOf", divisor), ("propertyNames", schema d), ("required", names)]

def properties6 : List (String × Schema) :=
  inOrder (sharedSinceDraft6 .draft6 ++ [("enum", distinctValues)])

def properties7 : List (String × Schema) :=
  let schema := schema .draft7
  inOrder (sharedSinceDraft6 .draft7 ++
    [("$comment", ofKind .string), ("contentEncoding", ofKind .string),
      ("contentMediaType", ofKind .string), ("else", schema), ("enum", values), ("if", schema),
      ("patternProperties", .keywords [.members [] [] (some schema),
        .propertyNames (.keywords [.format .regex]), .type [.object]]),
      ("readOnly", ofKind .boolean), ("then", schema)])

def draft6 : Schema := .keywords [.properties properties6, .type [.object, .boolean]]

def draft7 : Schema := .keywords [.properties properties7, .type [.object, .boolean]]

/-- The schema of limits on sizes that may be left out. -/
def optional (s : Schema) : Schema := .keywords [.allOf [s, .keywords []]]

/-- What the schema of a draft's schemas defines apart. -/
def definitions : Dialect → List (String × Schema)
  | .draft4 =>
    [("positiveInteger", limitAsWritten), ("positiveIntegerDefault0", optional limitAsWritten),
      ("schemaArray", schemaArray .draft4), ("simpleTypes", kindName),
      ("stringArray", someNames)]
  | d =>
    if d.since .draft2019 then [] else
      [("nonNegativeInteger", limit), ("nonNegativeIntegerDefault0", optional limit),
        ("schemaArray", schemaArray d), ("simpleTypes", kindName), ("stringArray", names)]

/-- What a draft says of its keywords. -/
def properties : Dialect → List (String × Schema)
  | .draft4 => properties4
  | .draft6 => properties6
  | .draft7 => properties7
  | _ => []

end Elicit.Schema.Meta

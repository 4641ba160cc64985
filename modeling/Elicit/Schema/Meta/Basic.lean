import Elicit.Schema.Basic

/-! What the schemas of schemas have in common. -/
namespace Elicit.Schema.Meta

/-- The schema of a value that is itself a schema. -/
def schema (d : Dialect) : Schema := .keywords [.ref (.dialect d "")]

/-- The schema of an object whose members are schemas. -/
def schemaMap (d : Dialect) : Schema :=
  .keywords [.members [] [] (some (schema d)), .type [.object]]

def schemaArray (d : Dialect) : Schema :=
  .keywords [.items 0 (schema d), .minItems 1, .type [.array]]

def schemaOrArray (d : Dialect) : Schema := .keywords [.anyOf [schema d, schemaArray d]]

def ofKind (kind : Kind) : Schema := .keywords [.type [kind]]

def ofFormat (f : Format) : Schema := .keywords [.format f, .type [.string]]

def limit : Schema := .keywords [.minimum (.integer 0), .type [.integer]]

/-- The schema of limits on sizes that are written as whole numbers. -/
def limitAsWritten : Schema := .keywords [.minimum (.integer 0), .typeAsWritten [.integer]]

def divisor : Schema := .keywords [.exclusiveMinimum (.integer 0), .type [.number]]

def names : Schema := .keywords [.items 0 (ofKind .string), .type [.array], .uniqueItems]

def someNames : Schema :=
  .keywords [.items 0 (ofKind .string), .minItems 1, .type [.array], .uniqueItems]

def kindName : Schema := .keywords [.oneOfValues (Kind.all.map fun k => .string k.name)]

def kindNames : Schema := .keywords [.anyOf [kindName,
  .keywords [.items 0 kindName, .minItems 1, .type [.array], .uniqueItems]]]

def values : Schema := .keywords [.items 0 .anything, .type [.array]]

/-- The schema of lists of values that are not empty and do not repeat one. -/
def distinctValues : Schema := .keywords [.minItems 1, .type [.array], .uniqueItems]

/-- The schema of what an object depends on, by name: schemas or lists of names. -/
def dependencies (d : Dialect) (names : Schema) : Schema :=
  .keywords [.members [] [] (some (.keywords [.anyOf [schema d, names]])), .type [.object]]

end Elicit.Schema.Meta

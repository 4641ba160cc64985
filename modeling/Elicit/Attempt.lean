import Elicit.Extraction.Basic

/-! Single attempts and why they fail. When an attempt was made is not kept. -/
namespace Elicit

/-- One attempt of a run: what is sought, the attempt's number from 1, and how many are allowed. -/
structure Attempt where
  target : String
  number : Nat
  limit : Nat
  deriving DecidableEq, Repr

namespace Attempt

inductive Failure where
  /-- The response held nothing but blanks. -/
  | empty
  /-- The response held no document: why, with and without an excerpt of it. -/
  | unparsed (reason stages : String)
  /-- There was no response. -/
  | generator (message : String)
  | rejected (errors : List String) (document : Json)

inductive Failure.Kind where
  | empty
  | unparsed
  | generator
  | rejected
  deriving DecidableEq, Repr

def Failure.kind : Failure → Failure.Kind
  | .empty => .empty
  | .unparsed .. => .unparsed
  | .generator _ => .generator
  | .rejected .. => .rejected

def Failure.message : Failure → String
  | .empty => Extraction.Failure.message .empty
  | .unparsed reason _ => "Parse failure: " ++ reason
  | .generator message => "Generator call failed: " ++ message
  | .rejected errors _ => "Document rejected by validator: " ++ String.intercalate "; " errors

def Failure.ofExtraction : Extraction.Failure → Failure
  | .empty => .empty
  | .unparsed u => .unparsed u.reason u.stages

/-- What is kept of a failed attempt. -/
structure Record where
  number : Nat
  failure : Failure
  raw : Option String

end Attempt

end Elicit

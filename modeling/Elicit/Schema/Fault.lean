import Elicit.Schema.Message
import Elicit.Uri.Resolution

/-! What can be wrong with a schema itself. -/
namespace Elicit.Schema

inductive Fault where
  /-- It breaks a rule that schemas follow. -/
  | malformed (v : Violation)
  /-- It declares a dialect that is not known. -/
  | unknownDialect (name : String)
  /-- It refers to something by what is no reference here. -/
  | badReference (reference : String) (cause : Uri.Unresolved)
  /-- It refers to a resource that is not at hand, and that nothing may fetch. -/
  | missingResource (uri : Uri)
  /-- It comes to refer to a resource that is not at hand when all have been fetched. -/
  | unknownResource (uri : Uri)
  /-- It refers to a place that a resource does not have. -/
  | danglingPointer (pointer : String)
  /-- It refers to an item by what is no position. -/
  | badPosition (step pointer : String)
  /-- It refers to a place by octets that are no text. -/
  | badPointer (pointer : String)
  | danglingAnchor (name : String)
  /-- It refers to an anchor by what cannot name one. -/
  | badAnchor (name : String)

def whyMissing (uri : Uri) : String :=
  let scheme := String.ofList (uri.scheme.getD [])
  if scheme = "http" ∨ scheme = "https" then "error sending request for url (" ++ uri.text ++ ")"
  else if scheme = "file" then "No such file or directory (os error 2)"
  else "Unknown scheme " ++ scheme

/-- A resource that is not at hand, in words. -/
def missingText (uri : Uri) (cause : String) : String :=
  "Resource '" ++ uri.text ++ "' is not present in a registry and retrieving it failed: " ++ cause

def Fault.message : Fault → String
  | .malformed v => v.text
  | .unknownDialect name => "Unknown specification: " ++ name
  | .badReference reference cause => cause.message reference
  | .missingResource uri => missingText uri (whyMissing uri)
  | .unknownResource uri => missingText uri
    "Retrieving external resources is not supported once the registry is populated"
  | .danglingPointer p => "Pointer '" ++ p ++ "' does not exist"
  | .badPosition step p => "Failed to parse array index '" ++ step ++ "' in pointer '" ++ p ++ "'"
  | .badPointer p =>
    "Invalid percent encoding in pointer '" ++ p ++
      "': the decoded bytes do not represent valid UTF-8"
  | .danglingAnchor name => "Anchor '" ++ name ++ "' does not exist"
  | .badAnchor name => "Anchor '" ++ name ++ "' is invalid"

/-- Resolves a reference against a base. -/
def resolveReference (base : Uri) (reference : String) : Except Fault Uri :=
  match base.resolve reference with
  | .ok uri => .ok uri
  | .error cause => .error (.badReference reference cause)

/-- The dialect of a value that stands within one. -/
def dialectWithin (d : Dialect) (v : Json) : Except Fault Dialect :=
  match d.within v with
  | .ok e => .ok e
  | .error name => .error (.unknownDialect name)

end Elicit.Schema

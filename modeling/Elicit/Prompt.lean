import Elicit.Attempt
import Elicit.Json.Printer

/-! The prompts sent to the generator. -/
namespace Elicit.Prompt

/-- What a schema is introduced with. -/
def schemaRequest : String :=
  "\n\nRespond with a single JSON document that conforms to the following schema. " ++
    "Do not include any text outside the JSON document.\n\nSchema:\n"

/-- The first prompt: the request, and the schema if there is one. -/
def initial (request : String) (schema : Option String) : String :=
  match schema with
  | none => request
  | some s => request ++ schemaRequest ++ s

/-- What every corrective prompt ends with. -/
def closing : String :=
  "\nPlease respond with a single valid JSON document only, without commentary."

/-- What went wrong, told to the generator; at most `limit` characters of a document are quoted. -/
def describe (limit : Nat) : Attempt.Failure → String
  | .empty => "Your previous response was empty.\n"
  | .unparsed _ stages =>
    "Your previous response could not be parsed as JSON.\n\nParse error: " ++ stages ++ "\n"
  | .generator message =>
    "The previous request failed before a response was produced.\n\nError: " ++ message ++ "\n"
  | .rejected errors document =>
    "Your previous JSON document did not pass validation.\n\nErrors:\n" ++
      String.join (errors.map fun e => "  - " ++ e ++ "\n") ++
      "\nYour submission:\n" ++ Text.excerpt limit document.pretty ++ "\n"

/-- The beginning of the response, unless that is blank or the document is quoted already. -/
def quote (limit : Nat) (failure : Attempt.Failure) (raw : Option String) : String :=
  match failure, raw with
  | .rejected .., _ => ""
  | _, none => ""
  | _, some response =>
    let shown := Text.excerpt limit response
    if Text.isBlankText shown then ""
    else "\nYour response (first " ++ toString limit ++ " chars):\n" ++ shown ++ "\n"

/-- What a corrective prompt adds to the initial one. -/
def correction (failure : Attempt.Failure) (raw : Option String) (number attempts limit : Nat) :
    String :=
  "Attempt " ++ toString number ++ "/" ++ toString attempts ++ ": " ++ describe limit failure ++
    quote limit failure raw ++ closing

/-- The prompt after a failed attempt. It depends on no earlier failure. -/
def corrective (initial : String) (failure : Attempt.Failure) (raw : Option String)
    (number attempts limit : Nat) : String :=
  initial ++ "\n\n" ++ correction failure raw number attempts limit

end Elicit.Prompt

import Elicit.Console.Surroundings
import Elicit.Json.Fault

/-! Why the command line program gives no document, and its exit codes. Setting up what the program
needs to run at all does not fail here. -/
namespace Elicit.Console

inductive Input where
  | prompt
  | schema
  deriving DecidableEq, Repr

def Input.name : Input → String
  | .prompt => "prompt"
  | .schema => "schema"

inductive InputFault where
  | unreadable (input : Input) (path : String) (fault : ReadFault)
  | noPrompt
  | noSchema
  | notJson (fault : Json.Fault)
  | other (message : String)

def InputFault.message : InputFault → String
  | .unreadable input path fault =>
    "cannot read " ++ input.name ++ " file " ++ path ++ ": " ++ fault.message
  | .noPrompt => "a prompt is required"
  | .noSchema => "--json-schema requires --schema or --schema-file"
  | .notJson fault => "schema is not valid JSON: " ++ fault.message
  | .other message => message

inductive Failure where
  | noGenerator (cause : NoGenerator)
  | command (failure : Command.Failure)
  | input (fault : InputFault)
  | run (error : RunError)
  | unwritable (message : String)

namespace Failure

def message : Failure → String
  | .noGenerator cause => "Generator executable not found: " ++ cause.message
  | .command failure => failure.message
  | .input fault => "Invalid input: " ++ fault.message
  | .run error => error.message
  | .unwritable message => "Failed to serialize document: " ++ message

/-- The exit code: 2 for what can be mended on the command line, 3 for a blank response, 4 for
attempts that are used up, 5 for a lack of memory, 1 for all else. -/
def exitCode : Failure → Nat
  | .input _ => 2
  | .run error =>
    match error.kind with
    | .invalid => 2
    | .emptyResponse => 3
    | .exhausted => 4
    | .outOfMemory => 5
    | .misfit => 1
  | _ => 1

end Failure

end Elicit.Console

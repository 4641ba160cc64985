import Elicit.Attempt
import Elicit.Metrics
import Elicit.Schema.Validator

/-! Why a run gives no document. -/
namespace Elicit

inductive InvalidSettings where
  | blankPrompt (target : String)
  | noGenerator (target : String)
  | badSchema (fault : Schema.Fault)
  | other (message : String)

def InvalidSettings.message : InvalidSettings → String
  | .blankPrompt target => "base prompt for '" ++ target ++ "' is empty"
  | .noGenerator target => "no generator configured for '" ++ target ++ "'"
  | .badSchema fault => "Schema error: " ++ fault.message
  | .other message => message

/-- What is left of a run whose every attempt failed. -/
structure Exhaustion where
  target : String
  attempts : Nat
  raw : Option String
  history : List Attempt.Record
  metrics : Metrics

inductive MemoryUse where
  | retainingResponse
  | buildingPrompt
  deriving DecidableEq, Repr

def MemoryUse.text : MemoryUse → String
  | .retainingResponse => "retaining the raw response"
  | .buildingPrompt => "building the corrective prompt"

inductive RunError where
  | invalid (cause : InvalidSettings)
  /-- The last response was blank. -/
  | emptyResponse (e : Exhaustion)
  /-- The last attempt failed in another way. -/
  | exhausted (e : Exhaustion) (limit : Nat) (last : Attempt.Failure)
  | outOfMemory (use : MemoryUse) (attempts : Nat)
  /-- The document does not have the shape that was asked for. -/
  | misfit (message rawText : String) (attempts : Nat)

namespace RunError

inductive Kind where
  | invalid
  | emptyResponse
  | exhausted
  | outOfMemory
  | misfit
  deriving DecidableEq, Repr

def kind : RunError → Kind
  | .invalid _ => .invalid
  | .emptyResponse _ => .emptyResponse
  | .exhausted .. => .exhausted
  | .outOfMemory .. => .outOfMemory
  | .misfit .. => .misfit

def message : RunError → String
  | .invalid cause => "Invalid configuration: " ++ cause.message
  | .emptyResponse e =>
    "Generator returned an empty response for '" ++ e.target ++ "' after " ++
      toString e.attempts ++ " attempts"
  | .exhausted e limit last =>
    "Construction of '" ++ e.target ++ "' failed after " ++ toString e.attempts ++
      " attempts (max: " ++ toString limit ++ "): " ++ last.message
  | .outOfMemory use attempts =>
    "Allocation failed while " ++ use.text ++ " at attempt " ++ toString attempts
  | .misfit message _ attempts =>
    "Deserialization to target type failed at attempt " ++ toString attempts ++ ": " ++ message

def attempts : RunError → Nat
  | .invalid _ => 0
  | .emptyResponse e => e.attempts
  | .exhausted e _ _ => e.attempts
  | .outOfMemory _ attempts => attempts
  | .misfit _ _ attempts => attempts

/-- The last response, where it is kept. -/
def raw : RunError → Option String
  | .emptyResponse e => e.raw
  | .exhausted e _ _ => e.raw
  | _ => none

/-- The failed attempts, where they are kept. -/
def history : RunError → List Attempt.Record
  | .emptyResponse e => e.history
  | .exhausted e _ _ => e.history
  | _ => []

end RunError

end Elicit

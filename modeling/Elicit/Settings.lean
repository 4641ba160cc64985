import Elicit.Observer
import Elicit.Prompt
import Elicit.RetryDelay
import Elicit.RunError
import Elicit.Shape

/-! The settings of a run, over a state that the generator and the acceptance check share. -/
namespace Elicit

/-- A generator answers a prompt with a response, or with a message why there is none. -/
abbrev Generator (σ : Type) := String → σ → Except String String × σ

/-- An acceptance check lists what is wrong with a document. -/
abbrev Acceptance (σ : Type) := Json → σ → List String × σ

structure Settings (σ : Type) where
  /-- What is sought, for messages. -/
  target : String
  /-- What the generator is asked for. -/
  request : String
  /-- The description of the document that the prompt includes. -/
  schema : Option String
  generator : Option (Generator σ)
  /-- Attempts after the first. -/
  maxRetries : Nat
  delay : RetryDelay
  errorCallback : Option ErrorCallback
  observer : Option Observer
  acceptance : Option (Acceptance σ)
  /-- Characters of a response that a corrective prompt quotes. -/
  quoteLimit : Nat

namespace Settings

variable {σ : Type}

def initial (target request : String) : Settings σ where
  target := target
  request := request
  schema := none
  generator := none
  maxRetries := 2
  delay := .none
  errorCallback := none
  observer := none
  acceptance := none
  quoteLimit := 500

def default : Settings σ := initial "document" ""

/-- The greatest number that counts attempts. -/
def maxCount : Nat := 18446744073709551615

/-- Attempts that are allowed: one more than the retries. -/
def maxAttempts (s : Settings σ) : Nat := min (s.maxRetries + 1) maxCount

def reportsErrors (s : Settings σ) : Bool := s.errorCallback.isSome

def initialPrompt (s : Settings σ) : String := Prompt.initial s.request s.schema

/-- The generator, if the settings allow a run. -/
def check (s : Settings σ) : Except InvalidSettings (Generator σ) :=
  if Text.isBlankText s.request then .error (.blankPrompt s.target)
  else match s.generator with
    | none => .error (.noGenerator s.target)
    | some g => .ok g

def acceptanceOf (k : Validator) : Acceptance σ := fun v st => (k.errors v, st)

inductive Change (σ : Type) where
  | schema (description : String)
  | jsonSchema (source : Json)
  | maxRetries (n : Nat)
  | delay (d : Duration)
  | backoff (base max : Duration)
  | generator (g : Generator σ)
  /-- A generator that other settings may hold too. -/
  | sharedGenerator (g : Generator σ)
  | errorCallback (f : ErrorCallback := .silent)
  | observer (o : Observer)
  | acceptance (k : Acceptance σ)
  | quoteLimit (n : Nat)

/-- Makes a change. A JSON schema gives both the description and the acceptance check, and has to
be one. -/
def change (s : Settings σ) : Change σ → Except RunError (Settings σ)
  | .schema description => .ok { s with schema := some description }
  | .jsonSchema source =>
    match Validator.read source with
    | .ok k => .ok { s with schema := some source.pretty, acceptance := some (acceptanceOf k) }
    | .error fault => .error (.invalid (.badSchema fault))
  | .maxRetries n => .ok { s with maxRetries := n }
  | .delay d => .ok { s with delay := .fixed d }
  | .backoff base max => .ok { s with delay := .exponential base max }
  | .generator g => .ok { s with generator := some g }
  | .sharedGenerator g => .ok { s with generator := some g }
  | .errorCallback f => .ok { s with errorCallback := some f }
  | .observer o => .ok { s with observer := some o }
  | .acceptance k => .ok { s with acceptance := some k }
  | .quoteLimit n => .ok { s with quoteLimit := n }

def forShape (shape : Shape) (target request : String) : Except RunError (Settings σ) :=
  (initial target request).change (.jsonSchema shape.schema)

def diagnosticText (s : Settings σ) : String :=
  Text.record "ConstructConfig"
    [("target_name", Text.quoted s.target),
      ("base_prompt", Text.quoted s.request),
      ("schema", Text.optional (s.schema.map Text.quoted)),
      ("generator", Text.truth s.generator.isSome),
      ("max_retries", toString s.maxRetries),
      ("retry_delay", s.delay.text),
      ("on_error", Text.truth s.errorCallback.isSome),
      ("hooks", Text.truth s.observer.isSome),
      ("validator", Text.truth s.acceptance.isSome),
      ("preview_limit", toString s.quoteLimit)] false

end Settings

end Elicit

import Elicit.Settings

/-! Runs: attempts, each with the latest failure told to the generator, until a document is
accepted or no attempt is left. -/
namespace Elicit

/-- What happens in a run, in order. -/
inductive Event where
  /-- An observer does something. -/
  | observed (n : Notice)
  /-- The generator is called. -/
  | prompted (prompt : String)
  /-- The acceptance check is called. -/
  | checked (document : Json)
  /-- The error callback is called. -/
  | reported (target : String) (attempt : Nat) (message : String)
  /-- The error callback does something. -/
  | responded (n : Notice)
  /-- The run itself writes to the log. -/
  | logged (e : Log.Entry)
  | waited (d : Duration)

structure Elicited where
  document : Json
  attempts : Nat
  stage : Stage
  metrics : Metrics

/-- All there is to a run: what happened, its result, and the state it leaves. -/
structure Run (σ : Type) where
  trace : List Event
  result : Except RunError Elicited
  state : σ

namespace Run

variable {σ : Type}

/-- What becomes of one attempt: the documents checked, the outcome, the response if there was
one, and the state. -/
structure Trial (σ : Type) where
  checked : List Json
  outcome : Except Attempt.Failure Extraction
  response : Option String
  state : σ

/-- Has a document checked, if there is a check. -/
def judge (acceptance : Option (Acceptance σ)) (x : Extraction) (response : String) (st : σ) :
    Trial σ :=
  match acceptance with
  | none => ⟨[], .ok x, some response, st⟩
  | some accepts =>
    match accepts x.document st with
    | ([], st') => ⟨[x.document], .ok x, some response, st'⟩
    | (errors, st') =>
      ⟨[x.document], .error (.rejected errors x.document), some response, st'⟩

/-- Calls the generator and looks for a document that is accepted. -/
def trial (generate : Generator σ) (acceptance : Option (Acceptance σ)) (prompt : String)
    (st : σ) : Trial σ :=
  match generate prompt st with
  | (.error message, st') => ⟨[], .error (.generator message), none, st'⟩
  | (.ok response, st') =>
    match extract response with
    | .error failure => ⟨[], .error (.ofExtraction failure), some response, st'⟩
    | .ok x => judge acceptance x response st'

/-- What observers do at a moment. -/
def notify (s : Settings σ) (m : Moment) : List Event :=
  match s.observer with
  | none => []
  | some o => (o m).map .observed

/-- Tells the error callback of a failure, about which it may do something. -/
def report (s : Settings σ) (attempt : Nat) (message : String) : List Event :=
  match s.errorCallback with
  | none => []
  | some f => .reported s.target attempt message :: (f s.target attempt message).map .responded

def attempt (s : Settings σ) (number : Nat) : Attempt := ⟨s.target, number, s.maxAttempts⟩

/-- What happens up to the generator's answer. -/
def opening (s : Settings σ) (number : Nat) (prompt : String) : List Event :=
  notify s (.started (attempt s number)) ++
    [.logged ⟨.debug, "Invoking generator",
      [("target_name", .text s.target), ("attempt", .count number),
        ("max_attempts", .count s.maxAttempts)]⟩,
    .prompted prompt]

/-- What happens after an accepted document. -/
def closing (s : Settings σ) (number : Nat) (stage : Stage) : List Event :=
  notify s (.succeeded (attempt s number)) ++
    [.logged ⟨.debug, "Document constructed",
      [("target_name", .text s.target), ("attempt", .count number), ("stage", .text stage.text)]⟩]

/-- What happens after a failure that is followed by another attempt. -/
def setback (s : Settings σ) (number : Nat) (message : String) : List Event :=
  let wait := s.delay.beforeRetry number
  notify s (.retrying (attempt s number) message) ++ report s number message ++
    [.logged ⟨.warn, "Attempt failed, retrying",
      [("target_name", .text s.target), ("attempt", .count number),
        ("max_attempts", .count s.maxAttempts), ("error", .text message)]⟩] ++
    if wait.isZero then [] else [.waited wait]

/-- What happens after the last failure. -/
def surrender (s : Settings σ) (number : Nat) (message : String) : List Event :=
  notify s (.exhausted s.target number message) ++ report s number message ++
    [.logged ⟨.error, "Construction failed, attempts exhausted",
      [("target_name", .text s.target), ("attempts", .count number), ("error", .text message)]⟩]

def finalError (s : Settings σ) (failure : Attempt.Failure) (e : Exhaustion) : RunError :=
  match failure with
  | .empty => .emptyResponse e
  | last => .exhausted e s.maxAttempts last

/-- What a run carries from one attempt to the next: the attempt's number, its prompt, the counts
so far and the failed attempts so far, latest first. -/
structure Progress where
  number : Nat
  prompt : String
  metrics : Metrics
  history : List Attempt.Record

def Progress.count (p : Progress) (response : Option String) : Metrics :=
  let sent := p.metrics.addPrompt p.prompt
  { (match response with
      | none => sent
      | some r => sent.addResponse r) with attempts := p.number }

def Progress.next (p : Progress) (s : Settings σ) (failure : Attempt.Failure)
    (response : Option String) : Progress where
  number := p.number + 1
  prompt := Prompt.corrective s.initialPrompt failure response p.number s.maxAttempts s.quoteLimit
  metrics := p.count response
  history := ⟨p.number, failure, response⟩ :: p.history

/-- The current attempt and, while some remain, those after it. -/
def attempts (s : Settings σ) (generate : Generator σ) (remaining : Nat) (p : Progress) (st : σ) :
    Run σ :=
  let t := trial generate s.acceptance p.prompt st
  let happened := opening s p.number p.prompt ++ t.checked.map .checked
  match t.outcome with
  | .ok x =>
    ⟨happened ++ closing s p.number x.stage,
      .ok ⟨x.document, p.number, x.stage, p.count t.response⟩, t.state⟩
  | .error failure =>
    match remaining with
    | 0 =>
      let history := (⟨p.number, failure, t.response⟩ :: p.history).reverse
      ⟨happened ++ surrender s p.number failure.message,
        .error (finalError s failure
          ⟨s.target, p.number, t.response, history, p.count t.response⟩), t.state⟩
    | remaining + 1 =>
      let rest := attempts s generate remaining (p.next s failure t.response) t.state
      ⟨happened ++ setback s p.number failure.message ++ rest.trace, rest.result, rest.state⟩

def Progress.start (s : Settings σ) : Progress := ⟨1, s.initialPrompt, .zero, []⟩

end Run

def elicit {σ : Type} (s : Settings σ) (st : σ) : Run σ :=
  match s.check with
  | .error cause => ⟨[], .error (.invalid cause), st⟩
  | .ok generate => Run.attempts s generate (s.maxAttempts - 1) (Run.Progress.start s) st

def Elicited.fit (x : Elicited) (shape : Shape) : Except RunError (Json × Metrics) :=
  match shape.read x.document with
  | .ok v => .ok (v, x.metrics)
  | .error m => .error (.misfit m.message x.document.compact x.attempts)

def Run.fit {σ : Type} (r : Run σ) (shape : Shape) : Except RunError (Json × Metrics) := do
  (← r.result).fit shape

end Elicit

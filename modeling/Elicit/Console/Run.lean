import Elicit.Console.Failure
import Elicit.Console.Reading
import Elicit.Run

/-! The command line program: from its options to settings, a run, and what it writes. -/
namespace Elicit.Console

/-- A text that is given as it is, or else as a file. -/
def readInput (w : Surroundings) (input : Input) (text path : Option String) :
    Except Failure (Option String) :=
  match text, path with
  | some t, _ => .ok (some t)
  | none, none => .ok none
  | none, some p =>
    match w.read p with
    | .ok t => .ok (some t)
    | .error fault => .error (.input (.unreadable input p fault))

def amend {σ : Type} (s : Settings σ) (c : Settings.Change σ) : Except Failure (Settings σ) :=
  match s.change c with
  | .ok s' => .ok s'
  | .error e => .error (.run e)

def Options.delayChange {σ : Type} (o : Options) : Settings.Change σ :=
  match o.backoff with
  | .fixed => .delay (.ofMillis o.delayMs)
  | .exponential => .backoff (.ofMillis o.delayMs) (.ofMillis o.maxDelayMs)

def Options.settings {σ : Type} (w : Surroundings) (o : Options) (generate : Generator σ) :
    Except Failure (Settings σ) := do
  let some prompt ← readInput w .prompt o.prompt o.promptFile
    | .error (.input .noPrompt)
  let schema ← readInput w .schema o.schema o.schemaFile
  let plain : Settings σ := { Settings.initial o.target prompt with
    generator := some generate
    maxRetries := o.maxRetries
    observer := some .logger }
  let delayed ← amend plain o.delayChange
  match schema, o.jsonSchema with
  | none, false => return delayed
  | none, true => .error (.input .noSchema)
  | some text, false => amend delayed (.schema text)
  | some text, true =>
    match Json.read text.toList with
    | .error fault => .error (.input (.notJson fault))
    | .ok source => amend delayed (.jsonSchema source)

def Options.render (o : Options) (document : Json) : String :=
  if o.pretty then document.pretty else document.compact

/-- The document that the options ask for, as text, and the run behind it if there was one. -/
structure Session (σ : Type) where
  run : Option (Run σ)
  result : Except Failure String

/-- Carries out what the options ask for, from a state of the machine that the generator command
runs on. -/
def Options.run {σ : Type} (w : Surroundings) (machine : Command.Machine σ) (o : Options) (st : σ) :
    Session σ :=
  match w.findGenerator o.command with
  | .error cause => ⟨none, .error (.noGenerator cause)⟩
  | .ok (program, arguments) =>
    let command := { Command.plain program arguments with timeout := .ofSecs o.timeoutSecs }
    match o.settings w (command.generator machine) with
    | .error failure => ⟨none, .error failure⟩
    | .ok s =>
      let r := elicit s st
      match r.result with
      | .error e => ⟨some r, .error (.run e)⟩
      | .ok x => ⟨some r, .ok (o.render x.document)⟩

structure Report where
  code : Nat
  output : String
  errors : String
  deriving DecidableEq, Repr

def versionText : String := "construct 0.1.0\n"

def ArgumentError.report (e : ArgumentError) : Report :=
  match e with
  | .version => ⟨e.exitCode, versionText, ""⟩
  | e => ⟨e.exitCode, "", e.message⟩

def Session.report {σ : Type} (s : Session σ) : Report :=
  match s.result with
  | .ok text => ⟨0, text ++ "\n", ""⟩
  | .error failure => ⟨failure.exitCode, "", "Error: " ++ failure.message ++ "\n"⟩

/-- The whole program, on the words of its command line. -/
def program {σ : Type} (w : Surroundings) (machine : Command.Machine σ) (line : List String)
    (st : σ) : Report :=
  match Options.read w.environment line with
  | .error e => e.report
  | .ok o => (o.run w machine st).report

end Elicit.Console

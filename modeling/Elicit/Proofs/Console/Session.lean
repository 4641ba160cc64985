import Elicit.Console.Run
import Elicit.Proofs.Command.Course

/-! Sessions of the command line program, and the executions of the generator command in them. -/
namespace Elicit.Console

open Command (Machine Execution recorded)

variable {σ : Type}

/-- The wait between attempts that the options ask for. -/
def Options.delay (o : Options) : RetryDelay :=
  match o.backoff with
  | .fixed => .fixed (.ofMillis o.delayMs)
  | .exponential => .exponential (.ofMillis o.delayMs) (.ofMillis o.maxDelayMs)

/-- The check of documents that the options ask for, if they do and give a schema for it. -/
def Options.check? (w : Surroundings) (o : Options) : Option Validator := do
  guard o.jsonSchema
  let text ← (← (readInput w .schema o.schema o.schemaFile).toOption)
  let source ← (Json.read text.toList).toOption
  (Validator.read source).toOption

/-- What the settings of a session are made of, apart from the generator. -/
structure Plan where
  target : String
  request : String
  schema : Option String
  maxRetries : Nat
  delay : RetryDelay
  check : Option Validator

/-- The settings with a generator. -/
def Plan.settings (p : Plan) (generate : Generator σ) : Settings σ :=
  { (Settings.initial p.target p.request : Settings σ) with
    schema := p.schema
    generator := some generate
    maxRetries := p.maxRetries
    delay := p.delay
    observer := some .logger
    acceptance := p.check.map Settings.acceptanceOf }

/-- The program cannot ask the generator: there is none, or something is wrong with the input. -/
inductive Failure.IsPreliminary : Failure → Prop
  | noGenerator (cause : NoGenerator) : IsPreliminary (.noGenerator cause)
  | input (fault : InputFault) : IsPreliminary (.input fault)
  | invalid (cause : InvalidSettings) : IsPreliminary (.run (.invalid cause))

theorem isPreliminary_of_readInput {w : Surroundings} {input : Input} {text path : Option String}
    {failure : Failure} (h : readInput w input text path = .error failure) :
    failure.IsPreliminary := by
  unfold readInput at h
  split at h
  · cases h
  · cases h
  · split at h
    · cases h
    · cases h
      exact .input _

theorem amend_delayChange (s : Settings σ) (o : Options) :
    amend s o.delayChange = .ok { s with delay := o.delay } := by
  unfold amend Options.delayChange Options.delay
  cases o.backoff <;> rfl

/-- Whether there are settings, and which, does not depend on the generator. -/
theorem settings_cases (w : Surroundings) (o : Options) :
    (∃ p : Plan, p.maxRetries = o.maxRetries ∧ p.check = o.check? w ∧
      ∀ {σ : Type} (generate : Generator σ), o.settings w generate = .ok (p.settings generate)) ∨
    ∃ failure : Failure, failure.IsPreliminary ∧
      ∀ {σ : Type} (generate : Generator σ), o.settings w generate = .error failure := by
  -- the cases are those of the input; the generator is only put into the settings
  unfold Options.settings Options.check?
  cases hprompt : readInput w .prompt o.prompt o.promptFile with
  | error failure => exact .inr ⟨failure, isPreliminary_of_readInput hprompt, fun _ => rfl⟩
  | ok prompt? =>
  cases prompt? with
  | none => exact .inr ⟨_, .input .noPrompt, fun _ => rfl⟩
  | some prompt =>
  cases hschema : readInput w .schema o.schema o.schemaFile with
  | error failure => exact .inr ⟨failure, isPreliminary_of_readInput hschema, fun _ => rfl⟩
  | ok schema =>
  dsimp only [bind, Except.bind]
  simp only [amend_delayChange]
  cases schema with
  | none =>
    cases o.jsonSchema with
    | false =>
      exact .inl ⟨⟨o.target, prompt, none, o.maxRetries, o.delay, none⟩, rfl, rfl, fun _ => rfl⟩
    | true => exact .inr ⟨_, .input .noSchema, fun _ => rfl⟩
  | some text =>
    cases o.jsonSchema with
    | false =>
      exact .inl ⟨⟨o.target, prompt, some text, o.maxRetries, o.delay, none⟩, rfl, rfl,
        fun _ => rfl⟩
    | true =>
      dsimp only
      cases hsource : Json.read text.toList with
      | error fault => exact .inr ⟨_, .input (.notJson fault), fun _ => rfl⟩
      | ok source =>
        unfold amend Settings.change
        dsimp only
        cases hk : Validator.read source with
        | error fault => exact .inr ⟨_, .invalid (.badSchema fault), fun _ => rfl⟩
        | ok k =>
          refine .inl ⟨⟨o.target, prompt, some source.pretty, o.maxRetries, o.delay, some k⟩, rfl,
            ?_, fun _ => rfl⟩
          simp [guard, Except.toOption, hsource, hk]

/-- The command that the options make of a program and its arguments. -/
def Options.commandAt (o : Options) (program : String) (arguments : List String) : Command :=
  { Command.plain program arguments with timeout := .ofSecs o.timeoutSecs }

/-- The most attempts that the options allow. -/
def Options.maxAttempts (o : Options) : Nat := min (o.maxRetries + 1) Settings.maxCount

namespace Session

/-- A session, with another view of the state. -/
def map {τ : Type} (view : τ → σ) (s : Session τ) : Session σ where
  run := s.run.map (Run.map view)
  result := s.result

/-- The prompts that the generator is given. -/
def prompts (s : Session σ) : List String := s.run.elim [] fun r => Run.prompts r.trace

/-- What a session without a run gives. -/
def failed (failure : Failure) : Session σ := ⟨none, .error failure⟩

/-- What a session with a run gives. -/
def finished (o : Options) (r : Run σ) : Session σ where
  run := some r
  result :=
    match r.result with
    | .error e => .error (.run e)
    | .ok x => .ok (o.render x.document)

theorem finished_eq (o : Options) (r : Run σ) : finished o r =
    match r.result with
    | .error e => ⟨some r, .error (.run e)⟩
    | .ok x => ⟨some r, .ok (o.render x.document)⟩ := by
  unfold finished
  cases r.result <;> rfl

end Session

/-- Whether a session has a run, and under which settings, does not depend on the machine. -/
theorem run_cases (w : Surroundings) (o : Options) :
    (∃ failure : Failure, failure.IsPreliminary ∧
      ∀ {σ : Type} (machine : Machine σ) (st : σ), o.run w machine st = .failed failure) ∨
    ∃ program arguments, ∃ p : Plan, w.findGenerator o.command = .ok (program, arguments) ∧
      p.maxRetries = o.maxRetries ∧ p.check = o.check? w ∧
      ∀ {σ : Type} (machine : Machine σ) (st : σ), o.run w machine st = .finished o
        (elicit (p.settings ((o.commandAt program arguments).generator machine)) st) := by
  unfold Options.run
  cases hcommand : w.findGenerator o.command with
  | error cause => exact .inl ⟨_, .noGenerator cause, fun _ _ => rfl⟩
  | ok found =>
    obtain ⟨program, arguments⟩ := found
    rcases settings_cases w o with ⟨p, hretries, hcheck, hsettings⟩ | ⟨failure, hpre, hsettings⟩
    · refine .inr ⟨program, arguments, p, rfl, hretries, hcheck, fun machine st => ?_⟩
      dsimp only
      rw [hsettings]
      exact (Session.finished_eq o _).symm
    · refine .inl ⟨failure, hpre, fun machine st => ?_⟩
      dsimp only
      rw [hsettings]
      rfl

/-- The record of what is executed makes no difference to a session. -/
theorem map_run_recorded (w : Surroundings) (machine : Machine σ) (o : Options)
    (st : σ × List Execution) :
    (o.run w (recorded machine) st).map Prod.fst = o.run w machine st.1 := by
  rcases run_cases w o with ⟨failure, -, hrun⟩ | ⟨program, arguments, p, -, -, -, hrun⟩
  · rw [hrun, hrun]
    rfl
  · rw [hrun, hrun]
    have helicit := Run.map_elicit_over Prod.fst
      (s := p.settings ((o.commandAt program arguments).generator machine)) rfl
      Command.trial_recorded st
    exact congrArg (Session.finished o) helicit

/-- The executions of the generator command in a session, in order. -/
def Options.executions (w : Surroundings) (machine : Machine σ) (o : Options) (st : σ) :
    List Execution :=
  (o.run w (recorded machine) (st, [])).run.elim [] fun r => r.state.2

/-- What comes of the executions is shown: the document as text, or the failure of the last one,
with every record in the history. -/
inductive Shows (o : Options) :
    Except (List Attempt.Record) Extraction → Except Failure String → Prop
  | document (x : Extraction) : Shows o (.ok x) (.ok (o.render x.document))
  | empty {rs r e} (hr : rs.getLast? = some r) (hempty : r.failure = .empty)
    (he : e.history = rs) : Shows o (.error rs) (.error (.run (.emptyResponse e)))
  | exhausted {rs r e} (hr : rs.getLast? = some r) (hempty : r.failure ≠ .empty)
    (he : e.history = rs) :
    Shows o (.error rs) (.error (.run (.exhausted e o.maxAttempts r.failure)))

/-- How a session proceeds: its executions, the prompts that they answer, and its result. -/
inductive Proceeds (w : Surroundings) (o : Options) :
    List Execution → List String → Except Failure String → Prop
  | unprepared {failure} (h : failure.IsPreliminary) : Proceeds w o [] [] (.error failure)
  | ran {program arguments es prompts outcome result}
    (hcommand : w.findGenerator o.command = .ok (program, arguments))
    (hes : es.map (·.invocation) = prompts.map (o.commandAt program arguments).invocation)
    (hcourse : Command.Course (o.check? w) o.maxAttempts 1 es outcome)
    (hshows : Shows o outcome result) : Proceeds w o es prompts result

/-- A run proceeds as its executions take their course. -/
theorem proceeds_finished {w : Surroundings} {o : Options} {program : String}
    {arguments : List String} {s : Settings (σ × List Execution)} {st : σ}
    {r : Run (σ × List Execution)} {es : List Execution}
    {outcome : Except (List Attempt.Record) Extraction}
    (hcommand : w.findGenerator o.command = .ok (program, arguments))
    (hattempts : s.maxAttempts = o.maxAttempts)
    (h : Command.Recounts (o.commandAt program arguments) (o.check? w) s (.start s) (st, []) r es
      outcome) :
    Proceeds w o r.state.2 (Run.prompts r.trace) (Session.finished o r).result := by
  obtain ⟨happended, hinvocations, hcourse, hconcludes⟩ := h
  rw [hattempts] at hcourse
  obtain rfl : r.state.2 = es := happended
  refine .ran hcommand hinvocations hcourse ?_
  unfold Session.finished
  dsimp only
  generalize r.result = result at hconcludes
  cases hconcludes with
  | @found x y hdocument =>
    dsimp only
    rw [hdocument]
    exact .document x
  | @failed rs last e hlast he =>
    dsimp only
    by_cases hempty : last.failure = .empty
    · rw [hempty]
      exact .empty hlast hempty he
    · have hfinal : Run.finalError s last.failure e =
          .exhausted e o.maxAttempts last.failure := by
        rw [← hattempts]
        cases hfailure : last.failure with
        | empty => exact absurd hfailure hempty
        | _ => rfl
      rw [hfinal]
      exact .exhausted hlast hempty he

theorem proceeds (w : Surroundings) (machine : Machine σ) (o : Options) (st : σ) :
    let session := o.run w machine st
    Proceeds w o (o.executions w machine st) session.prompts session.result := by
  intro session
  have hmap : (o.run w (recorded machine) (st, [])).map Prod.fst = session :=
    map_run_recorded w machine o (st, [])
  unfold Options.executions
  rw [← hmap]
  rcases run_cases w o with ⟨failure, hpre, hrun⟩ |
    ⟨program, arguments, p, hcommand, hretries, hcheck, hrun⟩
  · rw [hrun]
    exact .unprepared hpre
  · rw [hrun]
    let s := p.settings ((o.commandAt program arguments).generator (recorded machine))
    change Proceeds w o (elicit s (st, [])).state.2 (Run.prompts (elicit s (st, [])).trace)
      (Session.finished o (elicit s (st, []))).result
    cases hallowed : s.check with
    | error cause =>
      rw [elicit, hallowed]
      exact .unprepared (.invalid cause)
    | ok generate =>
      obtain rfl := Option.some.inj (Run.check_eq_ok_iff.mp hallowed).2
      have hattempts : s.maxAttempts = o.maxAttempts := by
        rw [Options.maxAttempts, ← hretries]
        rfl
      have hacceptance : s.acceptance = (o.check? w).map Settings.acceptanceOf := by
        rw [← hcheck]
        rfl
      have hmax := Run.one_le_maxAttempts s
      obtain ⟨es, outcome, hrecounts⟩ := Command.recounts_attempts machine
        (o.commandAt program arguments) hacceptance (s.maxAttempts - 1) (.start s) (st, [])
        (show 1 + (s.maxAttempts - 1) = s.maxAttempts by omega)
      rw [elicit, hallowed]
      exact proceeds_finished hcommand hattempts hrecounts

end Elicit.Console

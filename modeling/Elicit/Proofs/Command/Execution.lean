import Elicit.Command.Outcome
import Elicit.Proofs.Extraction.Reference
import Elicit.Proofs.Run.Course
import Elicit.Proofs.Run.Simulation

/-! Executions of a command that answers the prompts of a run: a machine that keeps a record of
them, and what the run makes of each. -/
namespace Elicit.Command

/-- An execution: what was started, and what became of it. -/
structure Execution where
  invocation : Invocation
  outcome : Outcome

/-- The machine with a record of what has been executed on it. -/
def recorded {σ : Type} (machine : Machine σ) : Machine (σ × List Execution) := fun i st =>
  let (outcome, after) := machine i st.1
  (outcome, (after, st.2 ++ [⟨i, outcome⟩]))

namespace Execution

/-- What the program wrote, if it ended with code 0 in the time that it was given. -/
def output (e : Execution) : Except Failure Output := e.outcome.output e.invocation.timeout

/-- The response, if there is one. -/
def response? (e : Execution) : Option String := e.output.toOption.map (·.response)

/-- The response holds a document, and the check, if there is one, finds nothing wrong with it. -/
inductive Yields (check : Option Validator) (e : Execution) : Extraction → Prop
  | intro {o x} (ho : e.output = .ok o) (hx : extract o.response = .ok x)
    (hc : ∀ v, check = some v → v.errors x.document = []) : Yields check e x

/-- Why the execution gives no document that is accepted. -/
inductive Fails (check : Option Validator) (e : Execution) : Attempt.Failure → Prop
  | command {f} (ho : e.output = .error f) : Fails check e (.generator f.message)
  | blank {o} (ho : e.output = .ok o) (hb : Text.isBlankText o.response) : Fails check e .empty
  | unparsed {o u} (ho : e.output = .ok o) (hx : extract o.response = .error (.unparsed u)) :
    Fails check e (.unparsed u.reason u.stages)
  | rejected {o x v} (ho : e.output = .ok o) (hx : extract o.response = .ok x)
    (hv : check = some v) (hne : v.errors x.document ≠ []) :
    Fails check e (.rejected (v.errors x.document) x.document)

theorem Yields.not_fails {check : Option Validator} {e : Execution} {x : Extraction}
    {failure : Attempt.Failure} (h : e.Yields check x) : ¬ e.Fails check failure := by
  obtain ⟨ho, hx, hc⟩ := h
  intro hf
  cases hf with
  | command hf =>
    rw [ho] at hf
    cases hf
  | blank hf hb =>
    obtain rfl := Except.ok.inj (ho.symm.trans hf)
    rw [Extraction.extract_eq_empty_iff.mpr hb] at hx
    cases hx
  | unparsed hf hu =>
    obtain rfl := Except.ok.inj (ho.symm.trans hf)
    rw [hu] at hx
    cases hx
  | rejected hf hx' hv hne =>
    obtain rfl := Except.ok.inj (ho.symm.trans hf)
    obtain rfl := Except.ok.inj (hx.symm.trans hx')
    exact hne (hc _ hv)

end Execution

variable {σ : Type} {machine : Machine σ} {c : Command} {check : Option Validator}

/-- The execution of a command for a prompt. -/
def execution (machine : Machine σ) (c : Command) (prompt : String) (st : σ) : Execution :=
  ⟨c.invocation prompt, (machine (c.invocation prompt) st).1⟩

theorem generator_eq (machine : Machine σ) (c : Command) (prompt : String) (st : σ) :
    c.generator machine prompt st =
      (((execution machine c prompt st).output.map (·.response)).mapError (·.message),
        (machine (c.invocation prompt) st).2) := by
  have hrun : c.run machine prompt st = ((execution machine c prompt st).output,
      (machine (c.invocation prompt) st).2) := rfl
  unfold generator
  rw [hrun]
  cases (execution machine c prompt st).output <;> rfl

/-- The execution is the same with a record as without, and is added to it. -/
theorem generator_recorded (prompt : String) (st : σ × List Execution) :
    c.generator (recorded machine) prompt st =
      (((execution machine c prompt st.1).output.map (·.response)).mapError (·.message),
        ((machine (c.invocation prompt) st.1).2, st.2 ++ [execution machine c prompt st.1])) :=
  generator_eq (recorded machine) c prompt st

theorem generator_recorded_of_error {prompt : String} {st : σ × List Execution} {message : String}
    {after : σ × List Execution}
    (h : c.generator (recorded machine) prompt st = (.error message, after)) :
    ∃ f, (execution machine c prompt st.1).output = .error f ∧ message = f.message ∧
      after.2 = st.2 ++ [execution machine c prompt st.1] := by
  rw [generator_recorded] at h
  obtain ⟨hresponse, rfl⟩ := Prod.mk.inj h
  cases ho : (execution machine c prompt st.1).output with
  | error f =>
    rw [ho] at hresponse
    cases hresponse
    exact ⟨f, rfl, rfl, rfl⟩
  | ok o =>
    rw [ho] at hresponse
    cases hresponse

theorem generator_recorded_of_ok {prompt : String} {st : σ × List Execution} {response : String}
    {after : σ × List Execution}
    (h : c.generator (recorded machine) prompt st = (.ok response, after)) :
    ∃ o, (execution machine c prompt st.1).output = .ok o ∧ response = o.response ∧
      after.2 = st.2 ++ [execution machine c prompt st.1] := by
  rw [generator_recorded] at h
  obtain ⟨hresponse, rfl⟩ := Prod.mk.inj h
  cases ho : (execution machine c prompt st.1).output with
  | error f =>
    rw [ho] at hresponse
    cases hresponse
  | ok o =>
    rw [ho] at hresponse
    cases hresponse
    exact ⟨o, rfl, rfl, rfl⟩

section

variable {s : Settings (σ × List Execution)}
  (hs : s.acceptance = check.map Settings.acceptanceOf) {prompt : String}
  {st after : σ × List Execution} {response : Option String}

include hs

/-- A call that is accepted is an execution that gives the document. -/
theorem yields_of_accepts {response : String} {x : Extraction}
    (h : Run.Accepts s (c.generator (recorded machine)) ⟨prompt, st⟩ response x after) :
    (execution machine c prompt st.1).Yields check x ∧
      after.2 = st.2 ++ [execution machine c prompt st.1] := by
  cases h with
  | unchecked hg hx ha =>
    obtain ⟨o, ho, rfl, hafter⟩ := generator_recorded_of_ok hg
    refine ⟨.intro ho hx ?_, hafter⟩
    rintro v rfl
    rw [ha] at hs
    cases hs
  | checked hg hx ha hc =>
    obtain ⟨o, ho, rfl, hafter⟩ := generator_recorded_of_ok hg
    rw [ha] at hs
    obtain ⟨v, rfl, rfl⟩ := Option.map_eq_some_iff.mp hs.symm
    obtain ⟨herrors, rfl⟩ := Prod.mk.inj hc
    exact ⟨.intro ho hx (by rintro _ ⟨⟩; exact herrors), hafter⟩

/-- A call that fails is an execution that fails. -/
theorem fails_of_fails {failure : Attempt.Failure}
    (h : Run.Fails s (c.generator (recorded machine)) ⟨prompt, st⟩ failure response after) :
    (execution machine c prompt st.1).Fails check failure ∧
      response = (execution machine c prompt st.1).response? ∧
      after.2 = st.2 ++ [execution machine c prompt st.1] := by
  cases h with
  | generator hg =>
    obtain ⟨f, ho, rfl, hafter⟩ := generator_recorded_of_error hg
    exact ⟨.command ho, by rw [Execution.response?, ho]; rfl, hafter⟩
  | @extraction response failure _ hg hx =>
    obtain ⟨o, ho, rfl, hafter⟩ := generator_recorded_of_ok hg
    refine ⟨?_, by rw [Execution.response?, ho]; rfl, hafter⟩
    cases failure with
    | empty => exact .blank ho (Extraction.extract_eq_empty_iff.mp hx)
    | unparsed u => exact .unparsed ho hx
  | rejected hg hx ha hc =>
    obtain ⟨o, ho, rfl, hafter⟩ := generator_recorded_of_ok hg
    rw [ha] at hs
    obtain ⟨v, rfl, rfl⟩ := Option.map_eq_some_iff.mp hs.symm
    obtain ⟨herrors, rfl⟩ := Prod.mk.inj hc
    refine ⟨?_, by rw [Execution.response?, ho]; rfl, hafter⟩
    rw [← herrors]
    exact .rejected ho hx rfl (by rw [herrors]; exact List.cons_ne_nil _ _)

end

/-- The record makes no difference to an attempt. -/
theorem trial_recorded (prompt : String) (st : σ × List Execution) :
    (Run.trial (c.generator (recorded machine)) (check.map Settings.acceptanceOf) prompt st).map
      Prod.fst =
    Run.trial (c.generator machine) (check.map Settings.acceptanceOf) prompt st.1 := by
  unfold Run.trial
  rw [generator_recorded, generator_eq]
  cases ((execution machine c prompt st.1).output.map (·.response)).mapError (·.message) with
  | error message => rfl
  | ok response =>
    dsimp only
    cases extract response with
    | error failure => rfl
    | ok x =>
      cases check with
      | none => rfl
      | some v =>
        simp only [Option.map_some, Run.judge, Settings.acceptanceOf]
        cases v.errors x.document <;> rfl

end Elicit.Command

import Elicit.Proofs.Console.Session

/-! What the exit code of a session tells of the executions of the generator command. -/
namespace Elicit.Console

open Command (Course Execution Machine recorded)

variable {σ : Type} {w : Surroundings} {o : Options} {es : List Execution} {prompts : List String}

theorem Proceeds.document {text : String} (h : Proceeds w o es prompts (.ok text)) :
    ∃ x, Course (o.check? w) o.maxAttempts 1 es (.ok x) ∧ text = o.render x.document := by
  cases h with
  | ran _ _ hcourse hshows =>
    cases hshows with
    | document x => exact ⟨x, hcourse, rfl⟩

theorem Proceeds.course {result : Except Failure String} (h : Proceeds w o es prompts result) :
    es = [] ∨ ∃ outcome, Course (o.check? w) o.maxAttempts 1 es outcome := by
  cases h with
  | unprepared => exact .inl rfl
  | ran _ _ hcourse => exact .inr ⟨_, hcourse⟩

theorem Failure.IsPreliminary.exitCode {failure : Failure} (h : failure.IsPreliminary) :
    failure.exitCode = 1 ∨ failure.exitCode = 2 := by
  cases h with
  | noGenerator => exact .inl rfl
  | input => exact .inr rfl
  | invalid => exact .inr rfl

end Elicit.Console

import Elicit.Proofs.Command.Execution

/-! The executions of a run, one for each attempt: all but the last fail, and the last decides. -/
namespace Elicit.Command

/-- What comes of the executions of a run from its attempt `k` on: the document of the last one, or
the records of all if the last one that is allowed fails as well. -/
inductive Course (check : Option Validator) (limit : Nat) :
    Nat → List Execution → Except (List Attempt.Record) Extraction → Prop
  | accepted {k e x} (hk : k ≤ limit) (h : e.Yields check x) : Course check limit k [e] (.ok x)
  | surrendered {k e failure} (hk : k = limit) (h : e.Fails check failure) :
    Course check limit k [e] (.error [⟨k, failure, e.response?⟩])
  | retried {k e failure es outcome} (hk : k < limit) (h : e.Fails check failure)
    (rest : Course check limit (k + 1) es outcome) :
    Course check limit k (e :: es) (outcome.mapError (⟨k, failure, e.response?⟩ :: ·))

namespace Course

variable {check : Option Validator} {limit k : Nat} {es : List Execution}
  {outcome : Except (List Attempt.Record) Extraction}

theorem ne_nil (h : Course check limit k es outcome) : es ≠ [] := by
  cases h <;> exact List.cons_ne_nil _ _

theorem length_le (h : Course check limit k es outcome) : k + es.length ≤ limit + 1 := by
  induction h with
  | accepted hk h => simpa using hk
  | surrendered hk h => simpa using hk.le
  | retried hk h rest ih =>
    rw [List.length_cons]
    omega

end Course

variable {σ : Type} {check : Option Validator}

/-- The result is the document, or else the failure in the last record, with every record in the
history after those that were there before. -/
inductive Concludes (s : Settings σ) (before : List Attempt.Record) :
    Except (List Attempt.Record) Extraction → Except RunError Elicited → Prop
  | found {x y} (h : y.document = x.document) : Concludes s before (.ok x) (.ok y)
  | failed {rs r e} (hr : rs.getLast? = some r) (he : e.history = before ++ rs) :
    Concludes s before (.error rs) (.error (Run.finalError s r.failure e))

theorem Concludes.cons {s : Settings σ} {before : List Attempt.Record} {r : Attempt.Record}
    {outcome : Except (List Attempt.Record) Extraction} {result : Except RunError Elicited}
    (h : Concludes s (before ++ [r]) outcome result) :
    Concludes s before (outcome.mapError (r :: ·)) result := by
  cases h with
  | found h => exact .found h
  | @failed rs last e hr he =>
    refine .failed (?_ : (r :: rs).getLast? = some last) ?_
    · rw [List.getLast?_cons, hr]
      rfl
    · rw [he, List.append_assoc]
      rfl

/-- What a run adds to the record of executions. -/
structure Recounts (c : Command) (check : Option Validator) (s : Settings (σ × List Execution))
    (p : Run.Progress) (st : σ × List Execution) (run : Run (σ × List Execution))
    (es : List Execution) (outcome : Except (List Attempt.Record) Extraction) : Prop where
  appended : run.state.2 = st.2 ++ es
  invocations : es.map (·.invocation) = (Run.prompts run.trace).map c.invocation
  course : Course check s.maxAttempts p.number es outcome
  concludes : Concludes s p.history.reverse outcome run.result

/-- The attempts that remain are executions that take their course. -/
theorem recounts_attempts (machine : Machine σ) (c : Command)
    {s : Settings (σ × List Execution)} (hs : s.acceptance = check.map Settings.acceptanceOf)
    (remaining : Nat) (p : Run.Progress) (st : σ × List Execution)
    (hp : p.number + remaining = s.maxAttempts) :
    ∃ es outcome, Recounts c check s p st
      (Run.attempts s (c.generator (recorded machine)) remaining p st) es outcome := by
  rw [← Run.attemptsWithin_ample]
  revert hp
  refine Run.attemptsWithin_induct .ample (P := fun remaining p st run =>
    p.number + remaining = s.maxAttempts → ∃ es outcome, Recounts c check s p st run es outcome)
    ?accepted ?refused ?surrendered ?retried remaining p st
  case accepted =>
    intro remaining p st response x after h hp
    obtain ⟨hyields, hafter⟩ := yields_of_accepts hs h
    refine ⟨[execution machine c p.prompt st.1], .ok x, hafter, ?_, .accepted (by omega) hyields,
      .found rfl⟩
    rw [Run.prompts_accepted]
    rfl
  case refused =>
    intro remaining p st failure response after use r h hm
    cases hm
  case surrendered =>
    intro p st failure response after h hp
    obtain ⟨hfails, rfl, hafter⟩ := fails_of_fails hs h
    refine ⟨[execution machine c p.prompt st.1], _, hafter, ?_, .surrendered hp hfails,
      .failed (r := ⟨p.number, failure, _⟩) rfl List.reverse_cons⟩
    rw [Run.prompts_surrendered]
    rfl
  case retried =>
    intro remaining p st failure response after rest h ih hp
    obtain ⟨hfails, rfl, hafter⟩ := fails_of_fails hs h
    -- the record grows at its end only, so the rest adds to it what follows this execution
    obtain ⟨es, outcome, happended, hinvocations, hcourse, hconcludes⟩ :=
      ih (by simp only [Run.Progress.next]; omega)
    refine ⟨execution machine c p.prompt st.1 :: es, _, ?_, ?_,
      .retried (by omega) hfails hcourse, ?_⟩
    · rw [happended, hafter]
      simp
    · rw [Run.prompts_retried, List.map_cons, List.map_cons, hinvocations]
      rfl
    · rw [Run.Progress.next, List.reverse_cons] at hconcludes
      exact hconcludes.cons

end Elicit.Command

import Elicit.Run

/-! What a call of the generator comes to, and what a run makes of it. -/
namespace Elicit

/-- Whether the generator is called. -/
def Event.isPrompt : Event → Bool
  | .prompted _ => true
  | _ => false

namespace Run

variable {σ : Type}

theorem one_le_maxAttempts (s : Settings σ) : 1 ≤ s.maxAttempts := by
  simp only [Settings.maxAttempts, Settings.maxCount]
  omega

/-- Settings allow a run when the request is not blank and there is a generator. -/
theorem check_eq_ok_iff {s : Settings σ} {generate : Generator σ} :
    s.check = .ok generate ↔ ¬ Text.isBlankText s.request ∧ s.generator = some generate := by
  unfold Settings.check
  by_cases hb : Text.isBlankText s.request
  · simp [hb]
  · cases hg : s.generator <;> simp [hb]

/-- A call of the generator: its prompt, and the state before it. -/
structure Call (σ : Type) where
  prompt : String
  state : σ

/-- The response holds a document to which nothing is objected; the state after that. -/
inductive Accepts (s : Settings σ) (generate : Generator σ) (c : Call σ) :
    String → Extraction → σ → Prop
  | unchecked {response x after} (hg : generate c.prompt c.state = (.ok response, after))
    (hx : extract response = .ok x) (ha : s.acceptance = none) :
    Accepts s generate c response x after
  | checked {response x accepts after after'}
    (hg : generate c.prompt c.state = (.ok response, after)) (hx : extract response = .ok x)
    (ha : s.acceptance = some accepts) (hc : accepts x.document after = ([], after')) :
    Accepts s generate c response x after'

/-- Why the call gives no document that is accepted, its response if there is one, and the state
after it. -/
inductive Fails (s : Settings σ) (generate : Generator σ) (c : Call σ) :
    Attempt.Failure → Option String → σ → Prop
  | generator {message after} (hg : generate c.prompt c.state = (.error message, after)) :
    Fails s generate c (.generator message) none after
  | extraction {response failure after}
    (hg : generate c.prompt c.state = (.ok response, after))
    (hx : extract response = .error failure) :
    Fails s generate c (.ofExtraction failure) (some response) after
  | rejected {response x accepts error errors after after'}
    (hg : generate c.prompt c.state = (.ok response, after)) (hx : extract response = .ok x)
    (ha : s.acceptance = some accepts)
    (hc : accepts x.document after = (error :: errors, after')) :
    Fails s generate c (.rejected (error :: errors) x.document) (some response) after'

/-- The document found in the response to a call, if there is a response and it holds one. -/
def Call.document? (generate : Generator σ) (c : Call σ) : Option Json :=
  match (generate c.prompt c.state).1 with
  | .error _ => none
  | .ok response =>
    match extract response with
    | .error _ => none
    | .ok x => some x.document

/-- The documents that are checked after a call: the one that is found, if there is a check. -/
def Call.checked (s : Settings σ) (generate : Generator σ) (c : Call σ) : List Json :=
  if s.acceptance.isSome then (c.document? generate).toList else []

/-- The call after the failure of the `k`-th one. -/
def nextCall (s : Settings σ) (k : Nat) (failure : Attempt.Failure) (response : Option String)
    (after : σ) : Call σ :=
  ⟨Prompt.corrective (Prompt.initial s.request s.schema) failure response k
    (min (s.maxRetries + 1) Settings.maxCount) s.quoteLimit, after⟩

/-- Either a document is accepted or the call fails. -/
theorem accepts_or_fails (s : Settings σ) (generate : Generator σ) (c : Call σ) :
    (∃ response x after, Accepts s generate c response x after) ∨
      ∃ failure response after, Fails s generate c failure response after := by
  rcases hg : generate c.prompt c.state with ⟨message | response, after⟩
  · exact .inr ⟨_, _, _, .generator hg⟩
  cases hx : extract response with
  | error failure => exact .inr ⟨_, _, _, .extraction hg hx⟩
  | ok x =>
    cases ha : s.acceptance with
    | none => exact .inl ⟨_, _, _, .unchecked hg hx ha⟩
    | some accepts =>
      rcases hc : accepts x.document after with ⟨- | ⟨error, errors⟩, after'⟩
      · exact .inl ⟨_, _, _, .checked hg hx ha hc⟩
      · exact .inr ⟨_, _, _, .rejected hg hx ha hc⟩

theorem Accepts.trial_eq {s : Settings σ} {generate : Generator σ} {c : Call σ}
    {response : String} {x : Extraction} {after : σ} (h : Accepts s generate c response x after) :
    trial generate s.acceptance c.prompt c.state =
      ⟨c.checked s generate, .ok x, some response, after⟩ := by
  cases h with
  | unchecked hg hx ha => simp [trial, judge, Call.checked, hg, hx, ha]
  | checked hg hx ha hc => simp [trial, judge, Call.checked, Call.document?, hg, hx, ha, hc]

theorem Fails.trial_eq {s : Settings σ} {generate : Generator σ} {c : Call σ}
    {failure : Attempt.Failure} {response : Option String} {after : σ}
    (h : Fails s generate c failure response after) :
    trial generate s.acceptance c.prompt c.state =
      ⟨c.checked s generate, .error failure, response, after⟩ := by
  cases h with
  | generator hg => simp [trial, Call.checked, Call.document?, hg]
  | extraction hg hx => simp [trial, Call.checked, Call.document?, hg, hx]
  | rejected hg hx ha hc => simp [trial, judge, Call.checked, Call.document?, hg, hx, ha, hc]

theorem Accepts.not_fails {s : Settings σ} {generate : Generator σ} {c : Call σ}
    {response : String} {x : Extraction} {after : σ} (h : Accepts s generate c response x after)
    {failure : Attempt.Failure} {response' : Option String} {after' : σ} :
    ¬ Fails s generate c failure response' after' := by
  intro hf
  cases h.trial_eq.symm.trans hf.trial_eq

/-- What happens in an attempt up to what becomes of it. -/
def begun (s : Settings σ) (generate : Generator σ) (number : Nat) (c : Call σ) : List Event :=
  opening s number c.prompt ++ (c.checked s generate).map .checked

/-- An accepted document ends the run. -/
theorem attempts_of_accepts {s : Settings σ} {generate : Generator σ} {p : Progress} {st after : σ}
    {response : String} {x : Extraction}
    (h : Accepts s generate ⟨p.prompt, st⟩ response x after) (remaining : Nat) :
    attempts s generate remaining p st =
      ⟨begun s generate p.number ⟨p.prompt, st⟩ ++ closing s p.number x.stage,
        .ok ⟨x.document, p.number, x.stage, p.count (some response)⟩, after⟩ := by
  unfold attempts
  simp only [h.trial_eq, begun]

/-- So does the failure of the last attempt. -/
theorem attempts_of_fails_last {s : Settings σ} {generate : Generator σ} {p : Progress}
    {st after : σ} {failure : Attempt.Failure} {response : Option String}
    (h : Fails s generate ⟨p.prompt, st⟩ failure response after) :
    attempts s generate 0 p st =
      ⟨begun s generate p.number ⟨p.prompt, st⟩ ++ surrender s p.number failure.message,
        .error (finalError s failure ⟨s.target, p.number, response,
          (⟨p.number, failure, response⟩ :: p.history).reverse, p.count response⟩), after⟩ := by
  unfold attempts
  simp only [h.trial_eq, begun]

/-- After any other failure the run goes on with the next attempt. -/
theorem attempts_of_fails {s : Settings σ} {generate : Generator σ} {p : Progress} {st after : σ}
    {failure : Attempt.Failure} {response : Option String}
    (h : Fails s generate ⟨p.prompt, st⟩ failure response after) (remaining : Nat) :
    attempts s generate (remaining + 1) p st =
      { attempts s generate remaining (p.next s failure response) after with
        trace := begun s generate p.number ⟨p.prompt, st⟩ ++
          (setback s p.number failure.message ++
            (attempts s generate remaining (p.next s failure response) after).trace) } := by
  rw [attempts]
  simp only [h.trial_eq, begun, List.append_assoc]

/-- Answers every call but the first. -/
def busyOnce : Generator Nat := fun _ calls =>
  (if calls = 0 then .error "busy" else .ok "[1]", calls + 1)

/-- Answers with blanks only. -/
def mute : Generator Nat := fun _ calls => (.ok " ", calls + 1)

/-- Settings under which everything that can be seen is seen. -/
def watched (request : String) (generate : Generator σ) : Settings σ :=
  { Settings.initial "list" request with
    generator := some generate, observer := some .recorder, errorCallback := some .silent }

end Run

end Elicit

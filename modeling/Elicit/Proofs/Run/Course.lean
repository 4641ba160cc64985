import Elicit.Memory
import Elicit.Proofs.Run.Call
import Mathlib.Tactic.SplitIfs

/-! The course of a run within its memory: what each attempt comes to, as one induction, and the
calls that the prompts of a trace amount to. -/
namespace Elicit

namespace Event

/-- Whether the generator or the acceptance check is called. -/
def isCall : Event → Bool
  | .prompted _ | .checked _ => true
  | _ => false

/-- The prompt of an event that is a call of the generator. -/
def prompt? : Event → Option String
  | .prompted prompt => some prompt
  | _ => none

end Event

namespace Run

variable {σ : Type} {s : Settings σ} {generate : Generator σ}

/-- The calls of the generator and of the acceptance check. -/
def asked (trace : List Event) : List Event := trace.filter Event.isCall

/-- The prompts that the generator is given. -/
def prompts (trace : List Event) : List String := trace.filterMap Event.prompt?

/-- The calls of a generator that is given the prompts one after another. -/
def calls (s : Settings σ) (generate : Generator σ) : σ → List String → List (Call σ)
  | _, [] => []
  | st, prompt :: rest =>
    ⟨prompt, st⟩ :: calls s generate (trial generate s.acceptance prompt st).state rest

theorem Fails.unique {c : Call σ} {failure failure' : Attempt.Failure}
    {response response' : Option String} {after after' : σ}
    (h : Fails s generate c failure response after)
    (h' : Fails s generate c failure' response' after') :
    failure = failure' ∧ response = response' ∧ after = after' := by
  have he := h.trial_eq.symm.trans h'.trial_eq
  simp only [Trial.mk.injEq, Except.error.injEq, true_and] at he
  exact he

theorem memory_of_refusal? {memory : Memory} {number remaining : Nat}
    {response : Option String} {ur : MemoryUse × Refusal}
    (h : refusal? memory number remaining response = some ur) :
    memory ur.1 number = some ur.2 := by
  obtain ⟨use, -, hu⟩ := Option.bind_eq_some_iff.mp h
  obtain ⟨r, hr, rfl⟩ := Option.map_eq_some_iff.mp hu
  exact hr

theorem filterMap_notify {α : Type} {f : Event → Option α} (hf : ∀ n, f (.observed n) = none)
    (m : Moment) : (notify s m).filterMap f = [] := by
  unfold notify
  cases s.observer with
  | none => rfl
  | some o => simp [hf]

theorem filterMap_report {α : Type} {f : Event → Option α}
    (hf : ∀ target k message, f (.reported target k message) = none)
    (hr : ∀ n, f (.responded n) = none) (k : Nat) (message : String) :
    (report s k message).filterMap f = [] := by
  unfold report
  cases s.errorCallback with
  | none => rfl
  | some callback => simp [hf, hr]

theorem asked_append (a b : List Event) : asked (a ++ b) = asked a ++ asked b :=
  List.filter_append a b

theorem asked_notify (m : Moment) : asked (notify s m) = [] := by
  unfold notify asked
  cases s.observer with
  | none => rfl
  | some o => simp [Event.isCall]

theorem asked_report (k : Nat) (message : String) : asked (report s k message) = [] := by
  unfold report asked
  cases s.errorCallback with
  | none => rfl
  | some callback => simp [Event.isCall]

theorem asked_begun (k : Nat) (c : Call σ) : asked (begun s generate k c) =
    .prompted c.prompt :: (c.checked s generate).map .checked := by
  have hchecked : asked ((c.checked s generate).map .checked) =
      (c.checked s generate).map .checked :=
    List.filter_eq_self.mpr (by simp [Event.isCall])
  rw [begun, asked_append, hchecked, opening, asked_append, asked_notify]
  rfl

theorem asked_closing (k : Nat) (stage : Stage) : asked (closing s k stage) = [] := by
  rw [closing, asked_append, asked_notify]
  rfl

theorem asked_setback (k : Nat) (message : String) : asked (setback s k message) = [] := by
  unfold setback
  dsimp only
  rw [asked_append, asked_append, asked_append, asked_notify, asked_report]
  split_ifs <;> rfl

theorem asked_surrender (k : Nat) (message : String) : asked (surrender s k message) = [] := by
  rw [surrender, asked_append, asked_append, asked_notify, asked_report]
  rfl

theorem prompts_eq (trace : List Event) :
    prompts trace = (asked trace).filterMap Event.prompt? := by
  rw [prompts, asked, List.filterMap_filter]
  congr 1
  funext e
  cases e <;> rfl

theorem prompts_append (a b : List Event) : prompts (a ++ b) = prompts a ++ prompts b :=
  List.filterMap_append

theorem prompts_begun (k : Nat) (c : Call σ) : prompts (begun s generate k c) = [c.prompt] := by
  have hchecked : ((c.checked s generate).map Event.checked).filterMap Event.prompt? = [] := by
    simp [Event.prompt?]
  rw [prompts_eq, asked_begun, List.filterMap_cons, hchecked]
  rfl

theorem prompts_closing (k : Nat) (stage : Stage) : prompts (closing s k stage) = [] := by
  rw [prompts_eq, asked_closing]
  rfl

theorem prompts_setback (k : Nat) (message : String) : prompts (setback s k message) = [] := by
  rw [prompts_eq, asked_setback]
  rfl

theorem prompts_surrender (k : Nat) (message : String) : prompts (surrender s k message) = [] := by
  rw [prompts_eq, asked_surrender]
  rfl

/-- An attempt sends its own prompt, however it goes on. -/
theorem prompts_accepted (k : Nat) (c : Call σ) (stage : Stage) :
    prompts (begun s generate k c ++ closing s k stage) = [c.prompt] := by
  rw [prompts_append, prompts_begun, prompts_closing, List.append_nil]

theorem prompts_refused (k : Nat) (c : Call σ) (use : MemoryUse) (r : Refusal) :
    prompts (begun s generate k c ++ breakdown use k r) = [c.prompt] := by
  rw [prompts_append, prompts_begun]
  rfl

theorem prompts_surrendered (k : Nat) (c : Call σ) (message : String) :
    prompts (begun s generate k c ++ surrender s k message) = [c.prompt] := by
  rw [prompts_append, prompts_begun, prompts_surrender, List.append_nil]

theorem prompts_retried (k : Nat) (c : Call σ) (message : String) (rest : List Event) :
    prompts (begun s generate k c ++ setback s k message ++ rest) = c.prompt :: prompts rest := by
  rw [prompts_append, prompts_append, prompts_begun, prompts_setback, List.append_nil,
    List.singleton_append]

/-- There is a prompt for every call of the generator. -/
theorem countP_isPrompt (trace : List Event) :
    trace.countP Event.isPrompt = (prompts trace).length := by
  induction trace with
  | nil => rfl
  | cons e trace ih =>
    rw [List.countP_cons, ih]
    cases e <;> rfl

section

variable {memory : Memory} {remaining : Nat} {p : Progress} {st after : σ}
  {failure : Attempt.Failure} {response : Option String}

theorem attemptsWithin_of_accepts {response : String} {x : Extraction}
    (h : Accepts s generate ⟨p.prompt, st⟩ response x after) :
    attemptsWithin memory s generate remaining p st =
      ⟨begun s generate p.number ⟨p.prompt, st⟩ ++ closing s p.number x.stage,
        .ok ⟨x.document, p.number, x.stage, p.count (some response)⟩, after⟩ := by
  unfold attemptsWithin
  simp only [h.trial_eq, begun]

theorem attemptsWithin_of_refused {use : MemoryUse} {r : Refusal}
    (h : Fails s generate ⟨p.prompt, st⟩ failure response after)
    (hr : refusal? memory p.number remaining response = some (use, r)) :
    attemptsWithin memory s generate remaining p st =
      ⟨begun s generate p.number ⟨p.prompt, st⟩ ++ breakdown use p.number r,
        .error (.outOfMemory use p.number), after⟩ := by
  unfold attemptsWithin
  simp only [h.trial_eq, hr, begun]

theorem attemptsWithin_of_fails_last (h : Fails s generate ⟨p.prompt, st⟩ failure response after)
    (hr : refusal? memory p.number 0 response = none) :
    attemptsWithin memory s generate 0 p st =
      ⟨begun s generate p.number ⟨p.prompt, st⟩ ++ surrender s p.number failure.message,
        .error (finalError s failure ⟨s.target, p.number, response,
          (⟨p.number, failure, response⟩ :: p.history).reverse, p.count response⟩), after⟩ := by
  unfold attemptsWithin
  simp only [h.trial_eq, hr, begun]

theorem attemptsWithin_of_fails (h : Fails s generate ⟨p.prompt, st⟩ failure response after)
    (hr : refusal? memory p.number (remaining + 1) response = none) :
    attemptsWithin memory s generate (remaining + 1) p st =
      let rest := attemptsWithin memory s generate remaining (p.next s failure response) after
      ⟨begun s generate p.number ⟨p.prompt, st⟩ ++ setback s p.number failure.message ++
        rest.trace, rest.result, rest.state⟩ := by
  rw [attemptsWithin]
  simp only [h.trial_eq, hr, begun]

end

/-- What holds of an attempt that is accepted, of one that memory ends, of the last one, and of one
that is followed by others when it holds of those, holds of all attempts. -/
theorem attemptsWithin_induct (memory : Memory) {P : Nat → Progress → σ → Run σ → Prop}
    (accepted : ∀ {remaining p st response x after},
      Accepts s generate ⟨p.prompt, st⟩ response x after →
      P remaining p st ⟨begun s generate p.number ⟨p.prompt, st⟩ ++ closing s p.number x.stage,
        .ok ⟨x.document, p.number, x.stage, p.count (some response)⟩, after⟩)
    (refused : ∀ {remaining p st failure response after use r},
      Fails s generate ⟨p.prompt, st⟩ failure response after → memory use p.number = some r →
      P remaining p st ⟨begun s generate p.number ⟨p.prompt, st⟩ ++ breakdown use p.number r,
        .error (.outOfMemory use p.number), after⟩)
    (surrendered : ∀ {p st failure response after},
      Fails s generate ⟨p.prompt, st⟩ failure response after →
      P 0 p st ⟨begun s generate p.number ⟨p.prompt, st⟩ ++ surrender s p.number failure.message,
        .error (finalError s failure ⟨s.target, p.number, response,
          (⟨p.number, failure, response⟩ :: p.history).reverse, p.count response⟩), after⟩)
    (retried : ∀ {remaining p st failure response after} (rest : Run σ),
      Fails s generate ⟨p.prompt, st⟩ failure response after →
      P remaining (p.next s failure response) after rest →
      P (remaining + 1) p st ⟨begun s generate p.number ⟨p.prompt, st⟩ ++
        setback s p.number failure.message ++ rest.trace, rest.result, rest.state⟩)
    (remaining : Nat) (p : Progress) (st : σ) :
    P remaining p st (attemptsWithin memory s generate remaining p st) := by
  induction remaining generalizing p st with
  | zero =>
    rcases accepts_or_fails s generate ⟨p.prompt, st⟩ with
      ⟨response, x, after, h⟩ | ⟨failure, response, after, h⟩
    · rw [attemptsWithin_of_accepts h]
      exact accepted h
    · cases hr : refusal? memory p.number 0 response with
      | none =>
        rw [attemptsWithin_of_fails_last h hr]
        exact surrendered h
      | some ur =>
        rw [attemptsWithin_of_refused h hr]
        exact refused h (memory_of_refusal? hr)
  | succ remaining ih =>
    rcases accepts_or_fails s generate ⟨p.prompt, st⟩ with
      ⟨response, x, after, h⟩ | ⟨failure, response, after, h⟩
    · rw [attemptsWithin_of_accepts h]
      exact accepted h
    · cases hr : refusal? memory p.number (remaining + 1) response with
      | none =>
        rw [attemptsWithin_of_fails h hr]
        exact retried _ h (ih _ _)
      | some ur =>
        rw [attemptsWithin_of_refused h hr]
        exact refused h (memory_of_refusal? hr)

end Run

end Elicit

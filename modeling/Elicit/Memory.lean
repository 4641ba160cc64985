import Elicit.Run

/-! Runs for which memory may not suffice. What a failed attempt needs is reserved before anyone is
told of the failure; a refusal ends the run, and no one but the log is told of it. -/
namespace Elicit

inductive Refusal where
  | beyondCapacity
  | unavailable
  deriving DecidableEq, Repr

def Refusal.text : Refusal → String
  | .beyondCapacity =>
    "memory allocation failed because the computed capacity exceeded the collection's maximum"
  | .unavailable => "memory allocation failed because the memory allocator returned an error"

/-- Whether memory is refused, by what it is needed for and the attempt's number. -/
abbrev Memory := MemoryUse → Nat → Option Refusal

def Memory.ample : Memory := fun _ _ => none

namespace Run

variable {σ : Type}

/-- What memory is needed for after a failure: the next prompt, or else a copy of the response if
there is one. -/
def needed (remaining : Nat) (response : Option String) : Option MemoryUse :=
  match remaining with
  | 0 => response.map fun _ => .retainingResponse
  | _ + 1 => some .buildingPrompt

/-- The refusal that ends an attempt, and what memory was needed for. -/
def refusal? (memory : Memory) (number remaining : Nat) (response : Option String) :
    Option (MemoryUse × Refusal) :=
  (needed remaining response).bind fun use => (memory use number).map fun r => (use, r)

def breakdown (use : MemoryUse) (number : Nat) (r : Refusal) : List Event :=
  [.logged ⟨.error, "Allocation failed, aborting construction",
    [("stage", .text use.text), ("attempts", .count number), ("error", .text r.text)]⟩]

/-- The current attempt and, while some remain, those after it, as far as memory suffices. -/
def attemptsWithin (memory : Memory) (s : Settings σ) (generate : Generator σ) (remaining : Nat)
    (p : Progress) (st : σ) : Run σ :=
  let t := trial generate s.acceptance p.prompt st
  let happened := opening s p.number p.prompt ++ t.checked.map .checked
  match t.outcome with
  | .ok x =>
    ⟨happened ++ closing s p.number x.stage,
      .ok ⟨x.document, p.number, x.stage, p.count t.response⟩, t.state⟩
  | .error failure =>
    match refusal? memory p.number remaining t.response with
    | some (use, r) =>
      ⟨happened ++ breakdown use p.number r, .error (.outOfMemory use p.number), t.state⟩
    | none =>
      match remaining with
      | 0 =>
        let history := (⟨p.number, failure, t.response⟩ :: p.history).reverse
        ⟨happened ++ surrender s p.number failure.message,
          .error (finalError s failure
            ⟨s.target, p.number, t.response, history, p.count t.response⟩), t.state⟩
      | remaining + 1 =>
        let rest := attemptsWithin memory s generate remaining (p.next s failure t.response) t.state
        ⟨happened ++ setback s p.number failure.message ++ rest.trace, rest.result, rest.state⟩

theorem refusal?_ample (number remaining : Nat) (response : Option String) :
    refusal? .ample number remaining response = none := by
  cases h : needed remaining response <;> simp [refusal?, h, Memory.ample]

/-- Where memory is ample, the attempts are those of a run that takes no account of it. -/
theorem attemptsWithin_ample (s : Settings σ) (generate : Generator σ) (remaining : Nat)
    (p : Progress) (st : σ) :
    attemptsWithin .ample s generate remaining p st = attempts s generate remaining p st := by
  induction remaining generalizing p st with
  | zero =>
    unfold attemptsWithin attempts
    dsimp only
    cases (trial generate s.acceptance p.prompt st).outcome with
    | ok x => rfl
    | error failure =>
      dsimp only
      rw [refusal?_ample]
  | succ remaining ih =>
    unfold attemptsWithin attempts
    dsimp only
    cases (trial generate s.acceptance p.prompt st).outcome with
    | ok x => rfl
    | error failure =>
      dsimp only
      rw [refusal?_ample]
      dsimp only
      rw [ih]

end Run

/-- Runs under settings from a state, as far as memory suffices. -/
def elicitWithin {σ : Type} (memory : Memory) (s : Settings σ) (st : σ) : Run σ :=
  match s.check with
  | .error cause => ⟨[], .error (.invalid cause), st⟩
  | .ok generate =>
    Run.attemptsWithin memory s generate (s.maxAttempts - 1) (Run.Progress.start s) st

theorem elicitWithin_ample {σ : Type} (s : Settings σ) (st : σ) :
    elicitWithin .ample s st = elicit s st := by
  unfold elicitWithin elicit
  cases s.check with
  | error cause => rfl
  | ok generate => exact Run.attemptsWithin_ample s generate _ _ st

end Elicit

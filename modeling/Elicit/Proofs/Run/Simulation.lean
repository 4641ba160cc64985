import Elicit.Proofs.Run.Call
import Mathlib.Tactic.SplitIfs

/-! Runs over one state that come down to runs over another. -/
namespace Elicit

variable {σ τ : Type}

/-- The settings with a generator and an acceptance check over another state. -/
def Settings.over (s : Settings σ) (generator : Option (Generator τ))
    (acceptance : Option (Acceptance τ)) : Settings τ :=
  { s with generator, acceptance }

namespace Run

/-- What becomes of an attempt, with another view of the state. -/
def Trial.map (view : τ → σ) (t : Trial τ) : Trial σ := { t with state := view t.state }

/-- A run, with another view of the state. -/
def map (view : τ → σ) (r : Run τ) : Run σ := { r with state := view r.state }

variable {s : Settings σ} {generate : Generator σ} {view : τ → σ} {generate' : Generator τ}
  {acceptance' : Option (Acceptance τ)}

/-- Runs agree if single attempts do. -/
theorem map_attempts_over (h : ∀ prompt st, (trial generate' acceptance' prompt st).map view =
    trial generate s.acceptance prompt (view st)) (remaining : Nat) (p : Progress) (st : τ) :
    (attempts (s.over (some generate') acceptance') generate' remaining p st).map view =
      attempts s generate remaining p (view st) := by
  induction remaining generalizing p st with
  | zero =>
    unfold attempts
    rw [← h]
    dsimp only [Settings.over, Trial.map]
    cases (trial generate' acceptance' p.prompt st).outcome <;> rfl
  | succ remaining ih =>
    unfold attempts
    rw [← h]
    dsimp only [Settings.over, Trial.map]
    cases (trial generate' acceptance' p.prompt st).outcome with
    | ok x => rfl
    | error failure =>
      dsimp only
      rw [← ih]
      rfl

theorem check_over (hs : s.generator = some generate) :
    (s.over (some generate') acceptance').check = s.check.map fun _ => generate' := by
  unfold Settings.check Settings.over
  dsimp only
  rw [hs]
  split_ifs <;> rfl

theorem map_elicit_over (view : τ → σ) (hs : s.generator = some generate)
    (h : ∀ prompt st, (trial generate' acceptance' prompt st).map view =
      trial generate s.acceptance prompt (view st)) (st : τ) :
    (elicit (s.over (some generate') acceptance') st).map view = elicit s (view st) := by
  unfold elicit
  rw [check_over hs]
  cases hc : s.check with
  | error cause => rfl
  | ok g =>
    obtain rfl : generate = g := Option.some.inj (hs.symm.trans (check_eq_ok_iff.mp hc).2)
    exact map_attempts_over h _ _ _

end Run

end Elicit

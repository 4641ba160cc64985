import Elicit.Proofs.Run.Account
import Mathlib.Algebra.Order.Floor.Div

/-! What the counts of a run amount to: each call of the generator is counted once, with what was
sent in it and what came back. -/
namespace Elicit

/-- The tokens of texts, four characters to a token and rounded up for each text on its own. -/
def tokens (texts : List String) : Nat := (texts.map fun text => text.length ⌈/⌉ 4).sum

theorem tokens_singleton (text : String) : tokens [text] = estimateTokens text :=
  List.sum_singleton

theorem tokens_append (a b : List String) : tokens (a ++ b) = tokens a + tokens b := by
  rw [tokens, List.map_append, List.sum_append]
  rfl

theorem tokens_le_length (texts : List String) : tokens texts ≤ (texts.map String.length).sum := by
  refine List.sum_le_sum fun text _ => ?_
  rw [ceilDiv_le_iff_le_mul (by decide)]
  omega

namespace Run

variable {σ : Type} {s : Settings σ} {generate : Generator σ}

/-- What the generator answers to a call, if it does not fail. -/
def Call.response? (generate : Generator σ) (c : Call σ) : Option String :=
  (generate c.prompt c.state).1.toOption

/-- The number of attempts and the counts that come with a result, unless the run was not allowed
or broke off. -/
def counts? : Except RunError Elicited → Option (Nat × Metrics)
  | .ok x => some (x.attempts, x.metrics)
  | .error (.emptyResponse e) => some (e.attempts, e.metrics)
  | .error (.exhausted e _ _) => some (e.attempts, e.metrics)
  | .error _ => none

/-- The counts once further calls have been made. -/
def tally (generate : Generator σ) (m : Metrics) (cs : List (Call σ)) : Metrics where
  attempts := m.attempts + cs.length
  inputTokens := m.inputTokens + tokens (cs.map Call.prompt)
  outputTokens := m.outputTokens + tokens (cs.filterMap (Call.response? generate))

theorem tally_append (m : Metrics) (a b : List (Call σ)) :
    tally generate m (a ++ b) = tally generate (tally generate m a) b := by
  simp only [tally, List.length_append, List.map_append, List.filterMap_append, tokens_append,
    Nat.add_assoc]

theorem tally_zero (cs : List (Call σ)) : tally generate .zero cs =
    ⟨cs.length, tokens (cs.map Call.prompt), tokens (cs.filterMap (Call.response? generate))⟩ := by
  simp only [tally, Metrics.zero, Nat.zero_add]

theorem map_prompt_calls (st : σ) (ps : List String) :
    (calls s generate st ps).map Call.prompt = ps := by
  induction ps generalizing st with
  | nil => rfl
  | cons prompt rest ih => rw [calls, List.map_cons, ih]

/-- An attempt adds its own call to the counts. -/
theorem count_eq_tally {p : Progress} {c : Call σ} (hp : p.number = p.metrics.attempts + 1)
    (hc : c.prompt = p.prompt) :
    p.count (c.response? generate) = tally generate p.metrics [c] := by
  rw [tally, List.map_singleton, tokens_singleton, hc, List.filterMap_cons, List.filterMap_nil]
  cases c.response? generate with
  | none =>
    rw [Progress.count, hp]
    rfl
  | some response =>
    dsimp only
    rw [Progress.count, hp, tokens_singleton]
    rfl

theorem Accepts.response?_eq {c : Call σ} {response : String} {x : Extraction} {after : σ}
    (h : Accepts s generate c response x after) : c.response? generate = some response := by
  cases h with
  | unchecked hg => exact congrArg (·.1.toOption) hg
  | checked hg => exact congrArg (·.1.toOption) hg

theorem Fails.response?_eq {c : Call σ} {failure : Attempt.Failure} {response : Option String}
    {after : σ} (h : Fails s generate c failure response after) : c.response? generate = response :=
  h.raw_eq.1.symm

/-- The counts that come with a result are those before the attempts that remain, and each call of
these attempts besides. -/
theorem counts?_attemptsWithin (memory : Memory) (remaining : Nat) (p : Progress) (st : σ)
    (hp : p.number = p.metrics.attempts + 1) :
    let run := attemptsWithin memory s generate remaining p st
    ∀ n m, counts? run.result = some (n, m) → n = m.attempts ∧
      m = tally generate p.metrics (calls s generate st (prompts run.trace)) := by
  refine attemptsWithin_induct memory (P := fun _ p st run => p.number = p.metrics.attempts + 1 →
    ∀ n m, counts? run.result = some (n, m) → n = m.attempts ∧
      m = tally generate p.metrics (calls s generate st (prompts run.trace)))
    ?accepted ?refused ?surrendered ?retried remaining p st hp
  case accepted =>
    intro remaining p st response x after h hp n m hm
    obtain ⟨rfl, rfl⟩ : p.number = n ∧ p.count (some response) = m := by simpa [counts?] using hm
    rw [prompts_accepted]
    exact ⟨rfl, by rw [← h.response?_eq]; exact count_eq_tally hp rfl⟩
  case refused =>
    intro remaining p st failure response after use r _ _ _ n m hm
    cases hm
  case surrendered =>
    intro p st failure response after h hp n m hm
    obtain ⟨rfl, rfl⟩ : p.number = n ∧ p.count response = m := by
      rw [finalError_eq h] at hm
      split_ifs at hm <;> simpa [counts?] using hm
    rw [prompts_surrendered]
    exact ⟨rfl, by rw [← h.response?_eq]; exact count_eq_tally hp rfl⟩
  case retried =>
    intro remaining p st failure response after rest h ih hp n m hm
    obtain ⟨hn, hm⟩ := ih rfl n m hm
    have hcount : p.count response = tally generate p.metrics [⟨p.prompt, st⟩] := by
      rw [← h.response?_eq]
      exact count_eq_tally hp rfl
    refine ⟨hn, hm.trans ?_⟩
    rw [prompts_retried, calls, h.trial_eq, ← List.singleton_append, tally_append, ← hcount]
    rfl

theorem counts?_elicitWithin (memory : Memory) (s : Settings σ) (st : σ)
    (h : s.check = .ok generate) {n : Nat} {m : Metrics}
    (hm : counts? (elicitWithin memory s st).result = some (n, m)) :
    n = m.attempts ∧
      m = tally generate .zero (calls s generate st (prompts (elicitWithin memory s st).trace)) := by
  have hrun : elicitWithin memory s st =
      attemptsWithin memory s generate (s.maxAttempts - 1) (Progress.start s) st := by
    rw [elicitWithin, h]
  rw [hrun] at hm ⊢
  exact counts?_attemptsWithin memory _ (Progress.start s) st rfl n m hm

/-- The sums of a run stay countable where its prompts have no more characters than can be counted,
and its responses have not either. -/
theorem tokens_le_maxCount (memory : Memory) (s : Settings σ) (st : σ)
    (h : s.check = .ok generate) {n : Nat} {m : Metrics}
    (hm : counts? (elicitWithin memory s st).result = some (n, m)) :
    let cs := calls s generate st (prompts (elicitWithin memory s st).trace)
    ((cs.map fun c => c.prompt.length).sum ≤ Settings.maxCount →
      m.inputTokens ≤ Settings.maxCount) ∧
    (((cs.filterMap (Call.response? generate)).map String.length).sum ≤ Settings.maxCount →
      m.outputTokens ≤ Settings.maxCount) := by
  intro cs
  obtain ⟨-, htally⟩ := counts?_elicitWithin memory s st h hm
  rw [tally_zero] at htally
  rw [htally]
  constructor
  · intro hprompts
    have hinput := tokens_le_length (cs.map Call.prompt)
    rw [List.map_map] at hinput
    exact hinput.trans hprompts
  · intro hresponses
    exact (tokens_le_length _).trans hresponses

/-- Whatever a run ends with after its attempts, its counts are of all its calls of the generator,
each counted once: every prompt that is sent, and every response that comes back, whether or not a
document is found in it and accepted. -/
theorem metrics_count_calls (memory : Memory) (s : Settings σ) (st : σ)
    (h : s.check = .ok generate) :
    let run := elicitWithin memory s st
    let cs := calls s generate st (prompts run.trace)
    cs.map Call.prompt = prompts run.trace ∧
    ∀ n m, counts? run.result = some (n, m) → cs.length = n ∧ m.attempts = n ∧
      m.inputTokens = tokens (cs.map Call.prompt) ∧
      m.outputTokens = tokens (cs.filterMap (Call.response? generate)) := by
  refine ⟨map_prompt_calls _ _, fun n m hm => ?_⟩
  obtain ⟨rfl, htally⟩ := counts?_elicitWithin memory s st h hm
  rw [tally_zero] at htally
  obtain ⟨hattempts, hinput, houtput⟩ := (Metrics.mk.injEq ..).mp htally
  exact ⟨hattempts.symm, rfl, hinput, houtput⟩

/-- Of two calls, one that fails and one that is answered, the second alone adds to the output. -/
theorem metrics_count_calls_busyOnce :
    let s := watched "A list, please." busyOnce
    let again := Prompt.corrective s.initialPrompt (.generator "busy") none 1 3 500
    ∃ m, counts? (elicitWithin .ample s 0).result = some (2, m) ∧ m.attempts = 2 ∧
      m.inputTokens = 4 + estimateTokens again ∧ m.outputTokens = 1 := by
  intro s again
  have hs : s.check = .ok busyOnce := check_eq_ok_iff.mpr ⟨by decide, rfl⟩
  have hlist : extract "[1]" = .ok ⟨.array [.number (.integer 1)], .scanned⟩ := by cbv
  have hrun : elicitWithin .ample s 0 = attempts s busyOnce 2 (Progress.start s) 0 := by
    rw [elicitWithin_ample, elicit, hs]
    rfl
  have hps : prompts (elicitWithin .ample s 0).trace = [s.initialPrompt, again] := by
    rw [hrun, attempts_of_fails (.generator rfl), attempts_of_accepts (.unchecked rfl hlist rfl)]
    simp only [prompts_append, prompts_begun, prompts_setback, prompts_closing]
    rfl
  obtain ⟨m, hm⟩ : ∃ m, counts? (elicitWithin .ample s 0).result = some (2, m) := by
    rw [hrun, attempts_of_fails (.generator rfl), attempts_of_accepts (.unchecked rfl hlist rfl)]
    exact ⟨_, rfl⟩
  obtain ⟨hprompts, hcounts⟩ := metrics_count_calls .ample s 0 hs
  obtain ⟨-, hattempts, hinput, houtput⟩ := hcounts 2 m hm
  have hfirst : estimateTokens s.initialPrompt = 4 := by decide
  refine ⟨m, hm, hattempts, ?_, ?_⟩
  · rw [hinput, hprompts, hps, ← List.singleton_append, tokens_append, tokens_singleton,
      tokens_singleton, hfirst]
  · rw [houtput, hps]
    decide

end Run

end Elicit

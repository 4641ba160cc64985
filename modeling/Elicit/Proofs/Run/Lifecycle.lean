import Elicit.Proofs.Run.Call
import Mathlib.Tactic.SplitIfs

/-! The protocol that the observer, the generator, the check and the error callback see in a
run. -/
namespace Elicit

/-- Whether an event reaches anyone other than the log. -/
def Event.isVisible : Event → Bool
  | .logged _ | .waited _ | .responded _ => false
  | _ => true

/-- Whether an observer notes a moment of the kind. -/
def Event.notes (k : Moment.Kind) : Event → Bool
  | .observed (.noted m) => m.kind == k
  | _ => false

/-- Whether the error callback is called. -/
def Event.isReport : Event → Bool
  | .reported .. => true
  | _ => false

namespace Run

variable {σ : Type}

/-- The events of a trace that reach anyone other than the log. -/
def visible (trace : List Event) : List Event := trace.filter Event.isVisible

/-- A moment, as a recorder notes it. -/
def noted (m : Moment) : Event := .observed (.noted m)

/-- The start of an attempt as it is seen: the moment, the one call of the generator, and the
check of the document, if one is found and there is a check. -/
def seen (s : Settings σ) (generate : Generator σ) (limit k : Nat) (c : Call σ) : List Event :=
  noted (.started ⟨s.target, k, limit⟩) :: .prompted c.prompt ::
    (c.checked s generate).map .checked

/-- What is seen of a run from its attempt `k` on, the call of which is given, where there may be
`limit` attempts. -/
inductive Lifecycle (s : Settings σ) (generate : Generator σ) (limit : Nat) :
    Nat → Call σ → List Event → Prop
  | success {k c response x after} (h : Accepts s generate c response x after) :
    Lifecycle s generate limit k c
      (seen s generate limit k c ++ [noted (.succeeded ⟨s.target, k, limit⟩)])
  | retry {k c failure response after rest} (hk : k < limit)
    (h : Fails s generate c failure response after)
    (hrest : Lifecycle s generate limit (k + 1) (nextCall s k failure response after) rest) :
    Lifecycle s generate limit k c (seen s generate limit k c ++
      [noted (.retrying ⟨s.target, k, limit⟩ failure.message),
        .reported s.target k failure.message] ++ rest)
  | surrender {c failure response after} (h : Fails s generate c failure response after) :
    Lifecycle s generate limit limit c (seen s generate limit limit c ++
      [noted (.exhausted s.target limit failure.message),
        .reported s.target limit failure.message])

theorem countP_seen {s : Settings σ} {generate : Generator σ} {limit k : Nat} {c : Call σ}
    {p : Event → Bool} (hp : ∀ document, p (.checked document) = false) :
    (seen s generate limit k c).countP p =
      (if p (noted (.started ⟨s.target, k, limit⟩)) then 1 else 0) +
        if p (.prompted c.prompt) then 1 else 0 := by
  have hchecked : ((c.checked s generate).map Event.checked).countP p = 0 := by
    simp [List.countP_eq_zero, hp]
  rw [seen, List.countP_cons, List.countP_cons, hchecked]
  omega

/-- How often each party is called from attempt `k` on: once in every attempt; after each failure
there is a report, and a retry unless it is the last. -/
theorem Lifecycle.counts {s : Settings σ} {generate : Generator σ} {limit k : Nat} {c : Call σ}
    {trace : List Event} (h : Lifecycle s generate limit k c trace) (hk : k ≤ limit) :
    ∃ retries, k + retries ≤ limit ∧
      trace.countP (Event.notes .retrying) = retries ∧
      trace.countP (Event.notes .started) = retries + 1 ∧
      trace.countP Event.isPrompt = retries + 1 ∧
      (trace.countP (Event.notes .succeeded) = 1 ∧ trace.countP (Event.notes .exhausted) = 0 ∧
          trace.countP Event.isReport = retries ∨
        trace.countP (Event.notes .succeeded) = 0 ∧ trace.countP (Event.notes .exhausted) = 1 ∧
          trace.countP Event.isReport = retries + 1 ∧ k + retries = limit) := by
  have hnotes : ∀ kind document, Event.notes kind (.checked document) = false :=
    fun _ _ => rfl
  have hprompt : ∀ document, Event.isPrompt (.checked document) = false := fun _ => rfl
  have hreport : ∀ document, Event.isReport (.checked document) = false := fun _ => rfl
  induction h with
  | success =>
    refine ⟨0, hk, ?_⟩
    simp only [List.countP_append, countP_seen (hnotes _), countP_seen hprompt,
      countP_seen hreport]
    exact ⟨rfl, rfl, rfl, .inl ⟨rfl, rfl, rfl⟩⟩
  | @retry k c failure _ _ _ hk' _ _ ih =>
    obtain ⟨retries, hle, hr, hst, hp, hend⟩ := ih hk'
    refine ⟨retries + 1, by omega, ?_⟩
    have hpair : ∀ p : Event → Bool, [noted (.retrying ⟨s.target, k, limit⟩ failure.message),
        .reported s.target k failure.message].countP p =
          (if p (.reported s.target k failure.message) then 1 else 0) +
            if p (noted (.retrying ⟨s.target, k, limit⟩ failure.message)) then 1 else 0 := by
      intro p
      rw [List.countP_cons, List.countP_singleton]
    simp only [List.countP_append, countP_seen (hnotes _), countP_seen hprompt,
      countP_seen hreport, hpair, hr, hst, hp]
    rcases hend with ⟨h1, h2, h3⟩ | ⟨h1, h2, h3, h4⟩
    · simp only [h1, h2, h3]
      exact ⟨Nat.add_comm 1 _, Nat.add_comm 1 _, Nat.add_comm 1 _,
        .inl ⟨rfl, rfl, Nat.add_comm 1 _⟩⟩
    · simp only [h1, h2, h3]
      exact ⟨Nat.add_comm 1 _, Nat.add_comm 1 _, Nat.add_comm 1 _,
        .inr ⟨rfl, rfl, Nat.add_comm 1 _, by omega⟩⟩
  | surrender =>
    refine ⟨0, hk, ?_⟩
    simp only [List.countP_append, countP_seen (hnotes _), countP_seen hprompt,
      countP_seen hreport]
    exact ⟨rfl, rfl, rfl, .inr ⟨rfl, rfl, rfl, rfl⟩⟩

theorem visible_append (a b : List Event) : visible (a ++ b) = visible a ++ visible b :=
  List.filter_append a b

theorem visible_report {s : Settings σ} (h : s.reportsErrors = true) (k : Nat)
    (message : String) : visible (report s k message) = [.reported s.target k message] := by
  obtain ⟨callback, hcallback⟩ := Option.isSome_iff_exists.mp h
  have hresponded : visible ((callback s.target k message).map .responded) = [] :=
    List.filter_eq_nil_iff.mpr (by simp [Event.isVisible])
  rw [report, hcallback]
  exact congrArg (Event.reported s.target k message :: ·) hresponded

section

variable {s : Settings σ} (ho : s.observer = some .recorder) (hr : s.reportsErrors = true)

include ho

theorem visible_begun (generate : Generator σ) (k : Nat) (c : Call σ) :
    visible (begun s generate k c) = seen s generate s.maxAttempts k c := by
  have hchecked : visible ((c.checked s generate).map .checked) =
      (c.checked s generate).map .checked :=
    List.filter_eq_self.mpr (by simp [Event.isVisible])
  rw [begun, visible_append, hchecked, opening, notify, ho]
  rfl

theorem visible_closing (k : Nat) (stage : Stage) :
    visible (closing s k stage) = [noted (.succeeded ⟨s.target, k, s.maxAttempts⟩)] := by
  rw [closing, notify, ho]
  rfl

include hr

theorem visible_setback (k : Nat) (message : String) : visible (setback s k message) =
    [noted (.retrying ⟨s.target, k, s.maxAttempts⟩ message), .reported s.target k message] := by
  unfold setback
  dsimp only
  rw [visible_append, visible_append, visible_append, visible_report hr, notify, ho]
  split_ifs <;> rfl

theorem visible_surrender (k : Nat) (message : String) : visible (surrender s k message) =
    [noted (.exhausted s.target k message), .reported s.target k message] := by
  rw [surrender, visible_append, visible_append, visible_report hr, notify, ho]
  rfl

/-- The attempts that remain keep to the protocol. -/
theorem lifecycle_attempts {generate : Generator σ} {remaining : Nat} {p : Progress} {st : σ}
    (hp : p.number + remaining = s.maxAttempts) :
    Lifecycle s generate s.maxAttempts p.number ⟨p.prompt, st⟩
      (visible (attempts s generate remaining p st).trace) := by
  induction remaining generalizing p st with
  | zero =>
    rcases accepts_or_fails s generate ⟨p.prompt, st⟩ with ⟨_, x, _, h⟩ | ⟨failure, _, _, h⟩
    · rw [attempts_of_accepts h, visible_append, visible_begun ho, visible_closing ho]
      exact .success h
    · rw [attempts_of_fails_last h, visible_append, visible_begun ho, visible_surrender ho hr,
        show p.number = s.maxAttempts from hp]
      exact .surrender h
  | succ remaining ih =>
    rcases accepts_or_fails s generate ⟨p.prompt, st⟩ with
      ⟨_, x, _, h⟩ | ⟨failure, response, after, h⟩
    · rw [attempts_of_accepts h, visible_append, visible_begun ho, visible_closing ho]
      exact .success h
    · rw [attempts_of_fails h, visible_append, visible_append, visible_begun ho,
        visible_setback ho hr, ← List.append_assoc]
      have hnext : (p.next s failure response).number + remaining = s.maxAttempts := by
        simp only [Progress.next]
        omega
      exact .retry (by omega) h (ih hnext)

end

/-- Settings that do not allow a run leave no trace. What is seen of any other run, by one who
notes every moment, keeps to the protocol from the first attempt on; it comes to some number of
attempts, at most one more than the retries as far as attempts can be counted. -/
theorem elicit_lifecycle (s : Settings σ) (st : σ) (ho : s.observer = some .recorder)
    (hr : s.errorCallback.isSome) :
    (Text.isBlankText s.request ∨ s.generator = none →
      (elicit s st).trace = [] ∧ (elicit s st).state = st) ∧
    ∀ generate, ¬ Text.isBlankText s.request → s.generator = some generate →
      let trace := visible (elicit s st).trace
      let limit := min (s.maxRetries + 1) Settings.maxCount
      Lifecycle s generate limit 1 ⟨Prompt.initial s.request s.schema, st⟩ trace ∧
      ∃ n, 1 ≤ n ∧ n ≤ limit ∧
        trace.countP (Event.notes .started) = n ∧
        trace.countP Event.isPrompt = n ∧
        trace.countP (Event.notes .retrying) = n - 1 ∧
        (trace.countP (Event.notes .succeeded) = 1 ∧ trace.countP (Event.notes .exhausted) = 0 ∧
            trace.countP Event.isReport = n - 1 ∨
          trace.countP (Event.notes .succeeded) = 0 ∧ trace.countP (Event.notes .exhausted) = 1 ∧
            trace.countP Event.isReport = n ∧ n = limit) := by
  constructor
  · intro h
    cases hcheck : s.check with
    | error cause =>
      rw [elicit, hcheck]
      exact ⟨rfl, rfl⟩
    | ok generate =>
      obtain ⟨hb, hg⟩ := check_eq_ok_iff.mp hcheck
      rcases h with h | h
      · exact absurd h hb
      · rw [hg] at h
        cases h
  · intro generate hb hg
    have hcheck := check_eq_ok_iff.mpr ⟨hb, hg⟩
    have hmax := one_le_maxAttempts s
    have hrun : Lifecycle s generate s.maxAttempts 1 ⟨Prompt.initial s.request s.schema, st⟩
        (visible (elicit s st).trace) := by
      rw [elicit, hcheck]
      exact lifecycle_attempts ho hr (p := Progress.start s)
        (show 1 + (s.maxAttempts - 1) = s.maxAttempts by omega)
    obtain ⟨retries, hle, hretry, hstart, hprompt, hend⟩ := hrun.counts hmax
    rw [Nat.add_comm 1 retries] at hle hend
    exact ⟨hrun, retries + 1, Nat.le_add_left 1 retries, hle, hstart, hprompt, hretry, hend⟩

/-- A generator that is busy once is asked twice, but only once where nothing may be retried. -/
theorem elicit_lifecycle_busyOnce :
    let s := watched "A list, please." busyOnce
    let strict := { s with maxRetries := 0 }
    let patient := { s with maxRetries := 18446744073709551615 }
    Lifecycle s busyOnce 3 1 ⟨"A list, please.", 0⟩ (visible (elicit s 0).trace) ∧
    (visible (elicit s 0).trace).countP Event.isPrompt = 2 ∧
    Lifecycle strict busyOnce 1 1 ⟨"A list, please.", 0⟩ (visible (elicit strict 0).trace) ∧
    (visible (elicit strict 0).trace).countP Event.isPrompt = 1 ∧
    Lifecycle patient busyOnce 18446744073709551615 1 ⟨"A list, please.", 0⟩
      (visible (elicit patient 0).trace) ∧
    (elicit { s with request := " " } 0).trace = [] := by
  intro s strict patient
  have hb : ¬ Text.isBlankText s.request := by decide
  have hblank : Text.isBlankText " " := by decide
  obtain ⟨hrun, -⟩ := (elicit_lifecycle s 0 rfl rfl).2 _ hb rfl
  obtain ⟨honce, n, hpos, hle, -, hcount, -⟩ := (elicit_lifecycle strict 0 rfl rfl).2 _ hb rfl
  obtain ⟨hmany, -⟩ := (elicit_lifecycle patient 0 rfl rfl).2 _ hb rfl
  obtain ⟨hnone, -⟩ := (elicit_lifecycle { s with request := " " } 0 rfl rfl).1 (.inl hblank)
  have hone : n = 1 := Nat.le_antisymm hle hpos
  exact ⟨hrun, by decide +kernel, honce, hcount.trans hone, hmany, hnone⟩

end Run

end Elicit

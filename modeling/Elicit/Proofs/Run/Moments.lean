import Elicit.Proofs.Run.Course
import Elicit.Proofs.Run.Lifecycle

/-! The moments of a run. What the calls of the generator come to determines them, and whatever
observes the run is told of them, in order, and of nothing else. -/
namespace Elicit

namespace Event

def notice? : Event → Option Notice
  | .observed n => some n
  | _ => none

/-- The moment that is noted, if the event is that. -/
def moment? : Event → Option Moment
  | .observed (.noted m) => some m
  | _ => none

end Event

namespace Run

variable {σ : Type} {memory : Memory} {s : Settings σ} {generate : Generator σ}

/-- What an observer does at a moment, where no observer does nothing. -/
def notices (s : Settings σ) (m : Moment) : List Notice := s.observer.getD .silent m

/-- The moments of a run from its attempt `k` on, of `limit` that are allowed. Where memory is
refused after a failure there is no moment for that. -/
inductive Moments (memory : Memory) (s : Settings σ) (generate : Generator σ) (limit : Nat) :
    Nat → Call σ → List Moment → Prop
  | accepted {k c response x after} (h : Accepts s generate c response x after) :
    Moments memory s generate limit k c
      [.started ⟨s.target, k, limit⟩, .succeeded ⟨s.target, k, limit⟩]
  | refused {k c failure response after use r} (h : Fails s generate c failure response after)
    (hr : refusal? memory k (limit - k) response = some (use, r)) :
    Moments memory s generate limit k c [.started ⟨s.target, k, limit⟩]
  | surrendered {c failure response after} (h : Fails s generate c failure response after)
    (hr : refusal? memory limit 0 response = none) :
    Moments memory s generate limit limit c
      [.started ⟨s.target, limit, limit⟩, .exhausted s.target limit failure.message]
  | retried {k c failure response after rest} (hk : k < limit)
    (h : Fails s generate c failure response after)
    (hr : refusal? memory k (limit - k) response = none)
    (hrest : Moments memory s generate limit (k + 1) (nextCall s k failure response after) rest) :
    Moments memory s generate limit k c
      (.started ⟨s.target, k, limit⟩ :: .retrying ⟨s.target, k, limit⟩ failure.message :: rest)

theorem exists_moments (memory : Memory) {remaining limit k : Nat} (hk : k + remaining = limit)
    (c : Call σ) : ∃ ms, Moments memory s generate limit k c ms := by
  induction remaining generalizing k c with
  | zero =>
    obtain rfl : k = limit := hk
    rcases accepts_or_fails s generate c with ⟨response, x, after, h⟩ | ⟨failure, response, after, h⟩
    · exact ⟨_, .accepted h⟩
    · cases hr : refusal? memory k 0 response with
      | none => exact ⟨_, .surrendered h hr⟩
      | some ur => exact ⟨_, .refused h (by rw [Nat.sub_self]; exact hr)⟩
  | succ remaining ih =>
    rcases accepts_or_fails s generate c with ⟨response, x, after, h⟩ | ⟨failure, response, after, h⟩
    · exact ⟨_, .accepted h⟩
    · cases hr : refusal? memory k (limit - k) response with
      | none =>
        have hnext : k + 1 + remaining = limit := by omega
        obtain ⟨rest, hrest⟩ := ih hnext (nextCall s k failure response after)
        exact ⟨_, .retried (by omega) h hr hrest⟩
      | some ur => exact ⟨_, .refused h hr⟩

/-- Where memory is ample, the moments are those that the protocol of a run has. -/
theorem Lifecycle.moments {limit k : Nat} {c : Call σ} {trace : List Event}
    (h : Lifecycle s generate limit k c trace) :
    Moments .ample s generate limit k c (trace.filterMap Event.moment?) := by
  have hseen : ∀ k c, (seen s generate limit k c).filterMap Event.moment? =
      [.started ⟨s.target, k, limit⟩] := by
    intro k c
    simp [seen, noted, Event.moment?]
  induction h with
  | success h =>
    rw [List.filterMap_append, hseen]
    exact .accepted h
  | retry hk h _ ih =>
    rw [List.filterMap_append, List.filterMap_append, hseen]
    exact .retried hk h (refusal?_ample _ _ _) ih
  | surrender h =>
    rw [List.filterMap_append, hseen]
    exact .surrendered h (refusal?_ample _ _ _)

theorem filterMap_notice_notify (m : Moment) :
    (notify s m).filterMap Event.notice? = notices s m := by
  unfold notify notices
  cases s.observer with
  | none => rfl
  | some o => simp [List.filterMap_map, Function.comp_def, Event.notice?]

theorem filterMap_notice_begun (k : Nat) (c : Call σ) :
    (begun s generate k c).filterMap Event.notice? =
      notices s (.started ⟨s.target, k, s.maxAttempts⟩) := by
  rw [begun, opening, List.filterMap_append, List.filterMap_append, filterMap_notice_notify]
  simp [Event.notice?, attempt]

theorem filterMap_notice_closing (k : Nat) (stage : Stage) :
    (closing s k stage).filterMap Event.notice? =
      notices s (.succeeded ⟨s.target, k, s.maxAttempts⟩) := by
  rw [closing, List.filterMap_append, filterMap_notice_notify]
  exact List.append_nil _

theorem filterMap_notice_setback (k : Nat) (message : String) :
    (setback s k message).filterMap Event.notice? =
      notices s (.retrying ⟨s.target, k, s.maxAttempts⟩ message) := by
  have hwait : ∀ d : Duration, List.filterMap Event.notice? (if d.isZero then [] else [.waited d]) =
      [] := by
    intro d
    split_ifs <;> rfl
  unfold setback
  dsimp only
  rw [List.filterMap_append, List.filterMap_append, List.filterMap_append, hwait,
    filterMap_notice_notify, filterMap_report (fun _ _ _ => rfl) fun _ => rfl]
  simp [Event.notice?, attempt]

theorem filterMap_notice_surrender (k : Nat) (message : String) :
    (surrender s k message).filterMap Event.notice? =
      notices s (.exhausted s.target k message) := by
  rw [surrender, List.filterMap_append, List.filterMap_append, filterMap_notice_notify,
    filterMap_report (fun _ _ _ => rfl) fun _ => rfl]
  simp [Event.notice?]

/-- An observer does, in the attempts that remain, what it does at their moments. -/
theorem Moments.attemptsWithin_notices {p : Progress} {st : σ} {remaining : Nat}
    {ms : List Moment} (h : Moments memory s generate s.maxAttempts p.number ⟨p.prompt, st⟩ ms)
    (hp : p.number + remaining = s.maxAttempts) :
    (attemptsWithin memory s generate remaining p st).trace.filterMap Event.notice? =
      ms.flatMap (notices s) := by
  generalize hk : p.number = k at h
  generalize hc : (⟨p.prompt, st⟩ : Call σ) = c at h
  induction h generalizing p st remaining with
  | accepted h =>
    subst hk hc
    rw [attemptsWithin_of_accepts h, List.filterMap_append, filterMap_notice_begun,
      filterMap_notice_closing]
    simp
  | refused h hr =>
    subst hk hc
    rw [← hp, Nat.add_sub_cancel_left] at hr
    rw [attemptsWithin_of_refused h hr, List.filterMap_append, filterMap_notice_begun]
    simp [breakdown, Event.notice?]
  | surrendered h hr =>
    subst hc
    obtain rfl : remaining = 0 := by omega
    rw [← hk] at hr
    rw [attemptsWithin_of_fails_last h hr, List.filterMap_append, filterMap_notice_begun,
      filterMap_notice_surrender, hk]
    simp
  | @retried k c failure response after rest hlt h hr _ ih =>
    subst hk hc
    obtain ⟨remaining, rfl⟩ : ∃ n, remaining = n + 1 := ⟨remaining - 1, by omega⟩
    rw [← hp, Nat.add_sub_cancel_left] at hr
    have hnext : (p.next s failure response).number + remaining = s.maxAttempts := by
      simp only [Progress.next]
      omega
    have hrest : (attemptsWithin memory s generate remaining (p.next s failure response)
        after).trace.filterMap Event.notice? = rest.flatMap (notices s) := ih hnext rfl rfl
    rw [attemptsWithin_of_fails h hr]
    dsimp only
    rw [List.filterMap_append, List.filterMap_append, filterMap_notice_begun,
      filterMap_notice_setback, hrest]
    simp

/-- So it is for a whole run. -/
theorem Moments.elicitWithin_notices {st : σ} {ms : List Moment} (hs : s.check = .ok generate)
    (h : Moments memory s generate s.maxAttempts 1 ⟨s.initialPrompt, st⟩ ms) :
    (elicitWithin memory s st).trace.filterMap Event.notice? = ms.flatMap (notices s) := by
  have hmax := one_le_maxAttempts s
  rw [elicitWithin, hs]
  exact Moments.attemptsWithin_notices (p := Progress.start s) h
    (show 1 + (s.maxAttempts - 1) = s.maxAttempts by omega)

end Run

end Elicit

import Elicit.Proofs.Run.Moments
import Elicit.Proofs.Run.Outcome

/-! What a run says of its failed attempts. Observers, the error callback, the log and the history
that is left in the error are told separately, and tell the same. -/
namespace Elicit

/-- What is told of a failed attempt. -/
structure Telling where
  target : String
  attempt : Nat
  message : String
  deriving DecidableEq, Repr

/-- What a record tells of an attempt at a target. -/
def Attempt.Record.telling (target : String) (r : Attempt.Record) : Telling :=
  ⟨target, r.number, r.failure.message⟩

/-- What an observer is told of a failed attempt at a moment. -/
def Moment.telling? : Moment → Option Telling
  | .retrying a error => some ⟨a.target, a.number, error⟩
  | .exhausted target attempts error => some ⟨target, attempts, error⟩
  | _ => none

/-- What an entry tells of a failed attempt, going by the names of its fields. -/
def Log.Entry.telling? (e : Log.Entry) : Option Telling :=
  match e.fields.lookup "target_name",
    (e.fields.lookup "attempt").or (e.fields.lookup "attempts"), e.fields.lookup "error" with
  | some (.text target), some (.count attempt), some (.text message) =>
    some ⟨target, attempt, message⟩
  | _, _, _ => none

namespace Event

def report? : Event → Option Telling
  | .reported target attempt message => some ⟨target, attempt, message⟩
  | _ => none

/-- What the run's own log tells of a failed attempt, by a warning or an error. -/
def alarm? : Event → Option Telling
  | .logged e => if e.level = .warn ∨ e.level = .error then e.telling? else none
  | _ => none

end Event

namespace Run

variable {σ : Type} {s : Settings σ} {generate : Generator σ}

/-- Observers, the error callback and the log are told of the failed attempts of the records, each
of them once and in order, and of no others. -/
structure Told (s : Settings σ) (trace : List Event) (records : List Attempt.Record) : Prop where
  hooks : ∃ moments : List Moment,
    trace.filterMap Event.notice? = moments.flatMap (notices s) ∧
    moments.filterMap Moment.telling? = records.map (·.telling s.target)
  callback : trace.filterMap Event.report? =
    if s.reportsErrors then records.map (·.telling s.target) else []
  log : trace.filterMap Event.alarm? = records.map (·.telling s.target)

theorem Told.append {a b : List Event} {before after : List Attempt.Record}
    (ha : Told s a before) (hb : Told s b after) : Told s (a ++ b) (before ++ after) := by
  constructor
  case hooks =>
    obtain ⟨first, hfirst, htold⟩ := ha.hooks
    obtain ⟨second, hsecond, htold'⟩ := hb.hooks
    refine ⟨first ++ second, ?_, ?_⟩
    · rw [List.filterMap_append, List.flatMap_append, hfirst, hsecond]
    · rw [List.filterMap_append, List.map_append, htold, htold']
  case callback =>
    rw [List.filterMap_append, ha.callback, hb.callback]
    split_ifs
    · rw [List.map_append]
    · rfl
  case log =>
    rw [List.filterMap_append, List.map_append, ha.log, hb.log]

theorem Told.of_quiet {trace : List Event}
    (h : ∀ e ∈ trace, e.notice? = none ∧ e.report? = none ∧ e.alarm? = none) :
    Told s trace [] := by
  constructor
  case hooks => exact ⟨[], List.filterMap_eq_nil_iff.mpr fun e he => (h e he).1, rfl⟩
  case callback =>
    rw [List.filterMap_eq_nil_iff.mpr fun e he => (h e he).2.1]
    split_ifs <;> rfl
  case log => exact List.filterMap_eq_nil_iff.mpr fun e he => (h e he).2.2

theorem filterMap_report_report (k : Nat) (message : String) :
    (report s k message).filterMap Event.report? =
      if s.reportsErrors then [⟨s.target, k, message⟩] else [] := by
  unfold report Settings.reportsErrors
  cases s.errorCallback with
  | none => rfl
  | some callback => simp [Event.report?]

theorem told_notify {m : Moment} (h : m.telling? = none) : Told s (notify s m) [] := by
  constructor
  case hooks =>
    refine ⟨[m], ?_, ?_⟩
    · rw [filterMap_notice_notify, List.flatMap_singleton]
    · rw [List.filterMap_cons_none h]
      rfl
  case callback =>
    rw [filterMap_notify fun _ => rfl]
    split_ifs <;> rfl
  case log =>
    rw [filterMap_notify fun _ => rfl]
    rfl

/-- A failure is told to observers, to the error callback and to the log. -/
theorem told_failure {m : Moment} {e : Log.Entry} {r : Attempt.Record}
    (hm : m.telling? = some (r.telling s.target))
    (he : Event.alarm? (.logged e) = some (r.telling s.target)) :
    Told s (notify s m ++ report s r.number r.failure.message ++ [.logged e]) [r] := by
  constructor
  case hooks =>
    refine ⟨[m], ?_, ?_⟩
    · rw [List.filterMap_append, List.filterMap_append, filterMap_notice_notify,
        filterMap_report (fun _ _ _ => rfl) fun _ => rfl]
      simp [Event.notice?]
    · rw [List.filterMap_cons_some hm]
      rfl
  case callback =>
    rw [List.filterMap_append, List.filterMap_append, filterMap_notify fun _ => rfl,
      filterMap_report_report]
    split_ifs <;> rfl
  case log =>
    rw [List.filterMap_append, List.filterMap_append, filterMap_notify fun _ => rfl,
      filterMap_report (fun _ _ _ => rfl) fun _ => rfl, List.filterMap_cons_some he]
    rfl

theorem told_begun (k : Nat) (c : Call σ) : Told s (begun s generate k c) [] := by
  refine ((told_notify rfl).append (.of_quiet ?_)).append (.of_quiet ?_)
  · simp [Event.notice?, Event.report?, Event.alarm?]
  · simp [Event.notice?, Event.report?, Event.alarm?]

theorem told_closing (k : Nat) (stage : Stage) : Told s (closing s k stage) [] :=
  (told_notify rfl).append (.of_quiet (by simp [Event.notice?, Event.report?, Event.alarm?]))

theorem told_setback (r : Attempt.Record) :
    Told s (setback s r.number r.failure.message) [r] := by
  have hwait : ∀ d : Duration, Told s (if d.isZero then [] else [.waited d]) [] := by
    intro d
    split_ifs <;> exact .of_quiet (by simp [Event.notice?, Event.report?, Event.alarm?])
  exact (told_failure rfl rfl).append (hwait _)

theorem told_surrender (r : Attempt.Record) :
    Told s (surrender s r.number r.failure.message) [r] :=
  told_failure rfl rfl

/-- A refusal of memory is no failure to give a document; the log has it, without a target. -/
theorem told_breakdown (use : MemoryUse) (k : Nat) (r : Refusal) :
    Told s (breakdown use k r) [] := by
  refine .of_quiet ?_
  simp only [breakdown, List.mem_singleton, forall_eq]
  exact ⟨rfl, rfl, rfl⟩

theorem getElem?_calls_singleton {st : σ} {prompt : String} {k : Nat} {c : Call σ}
    (h : (calls s generate st [prompt])[k]? = some c) : k = 0 ∧ ⟨prompt, st⟩ = c := by
  cases k with
  | zero => simpa [calls] using h
  | succ k => simp [calls] at h

/-- What the records have to do with a run whose first attempt has the number `first`, where
`earlier` are the records before it. -/
structure Account (s : Settings σ) (generate : Generator σ) (first : Nat) (st : σ)
    (earlier : List Attempt.Record) (run : Run σ) (records : List Attempt.Record) : Prop
    extends Told s run.trace records where
  /-- The `k`-th record is that of the `k`-th call of the generator. -/
  record : ∀ k r, records[k]? = some r → r.number = first + k ∧ ∃ c after,
    (calls s generate st (prompts run.trace))[k]? = some c ∧
    Fails s generate c r.failure r.raw after
  /-- No call that failed is left out, except the last one where memory did not suffice. -/
  complete : ∀ k c failure response after,
    (calls s generate st (prompts run.trace))[k]? = some c →
    Fails s generate c failure response after →
    (∀ use, run.result ≠ .error (.outOfMemory use (first + k))) →
    records[k]? = some ⟨first + k, failure, response⟩
  /-- The error of a run whose attempts have all failed keeps the records, and what is said of the
  last attempt is from the last record. -/
  error : ∀ e, run.result = .error e → e.kind = .emptyResponse ∨ e.kind = .exhausted →
    (prompts run.trace).length = records.length ∧ e.history = earlier ++ records ∧
    e.attempts = (earlier ++ records).length ∧
    ∃ last, records.getLast? = some last ∧ e.raw = last.raw ∧
      ∀ x limit failure, e = .exhausted x limit failure → failure = last.failure

theorem account_accepted {first : Nat} {st after : σ} {earlier : List Attempt.Record}
    {prompt response : String} {x : Extraction} {m : Metrics}
    (h : Accepts s generate ⟨prompt, st⟩ response x after) :
    Account s generate first st earlier ⟨begun s generate first ⟨prompt, st⟩ ++
      closing s first x.stage, .ok ⟨x.document, first, x.stage, m⟩, after⟩ [] := by
  have hprompts : prompts (begun s generate first ⟨prompt, st⟩ ++ closing s first x.stage) =
      [prompt] := prompts_accepted _ _ _
  constructor
  case toTold => exact (told_begun _ _).append (told_closing _ _)
  case record => simp
  case complete =>
    intro k c failure response' after' hc hf _
    rw [hprompts] at hc
    obtain ⟨rfl, rfl⟩ := getElem?_calls_singleton hc
    exact absurd hf h.not_fails
  case error =>
    intro e he
    cases he

theorem account_refused {first : Nat} {st after : σ} {earlier : List Attempt.Record}
    {prompt : String} {use : MemoryUse} {r : Refusal} :
    Account s generate first st earlier ⟨begun s generate first ⟨prompt, st⟩ ++
      breakdown use first r, .error (.outOfMemory use first), after⟩ [] := by
  have hprompts : prompts (begun s generate first ⟨prompt, st⟩ ++ breakdown use first r) =
      [prompt] := prompts_refused _ _ _ _
  constructor
  case toTold => exact (told_begun _ _).append (told_breakdown _ _ _)
  case record => simp
  case complete =>
    intro k c failure response after' hc hf hresult
    rw [hprompts] at hc
    obtain ⟨rfl, rfl⟩ := getElem?_calls_singleton hc
    exact absurd rfl (hresult use)
  case error =>
    intro e he hkind
    cases he
    simp [RunError.kind] at hkind

theorem account_surrendered {p : Progress} {st after : σ} {failure : Attempt.Failure}
    {response : Option String} (hp : p.number = p.history.length + 1)
    (h : Fails s generate ⟨p.prompt, st⟩ failure response after) :
    Account s generate p.number st p.history.reverse ⟨begun s generate p.number ⟨p.prompt, st⟩ ++
      surrender s p.number failure.message, .error (finalError s failure ⟨s.target, p.number,
        response, (⟨p.number, failure, response⟩ :: p.history).reverse, p.count response⟩), after⟩
      [⟨p.number, failure, response⟩] := by
  have hprompts : prompts (begun s generate p.number ⟨p.prompt, st⟩ ++
      surrender s p.number failure.message) = [p.prompt] := prompts_surrendered _ _ _
  constructor
  case toTold => exact (told_begun _ _).append (told_surrender ⟨p.number, failure, response⟩)
  case record =>
    intro k r hr
    obtain ⟨rfl, rfl⟩ : k = 0 ∧ ⟨p.number, failure, response⟩ = r := by
      cases k with
      | zero => simpa using hr
      | succ k => simp at hr
    rw [hprompts]
    exact ⟨rfl, _, _, rfl, h⟩
  case complete =>
    intro k c failure' response' after' hc hf _
    rw [hprompts] at hc
    obtain ⟨rfl, rfl⟩ := getElem?_calls_singleton hc
    obtain ⟨rfl, rfl, -⟩ := h.unique hf
    rfl
  case error =>
    intro e he _
    rw [hprompts]
    have hlength : p.number = (p.history.reverse ++ [(⟨p.number, failure, response⟩ :
        Attempt.Record)]).length := by simpa using hp
    rw [finalError_eq h] at he
    split_ifs at he
    · cases he
      exact ⟨rfl, List.reverse_cons, hlength, _, rfl, rfl, nofun⟩
    · cases he
      refine ⟨rfl, List.reverse_cons, hlength, _, rfl, rfl, ?_⟩
      rintro x limit failure' ⟨rfl, rfl, rfl⟩
      rfl

theorem account_retried {first : Nat} {st after : σ} {earlier records : List Attempt.Record}
    {prompt : String} {failure : Attempt.Failure} {response : Option String} {rest : Run σ}
    (h : Fails s generate ⟨prompt, st⟩ failure response after)
    (hrest : Account s generate (first + 1) after (earlier ++ [⟨first, failure, response⟩]) rest
      records) :
    Account s generate first st earlier ⟨begun s generate first ⟨prompt, st⟩ ++
      setback s first failure.message ++ rest.trace, rest.result, rest.state⟩
      (⟨first, failure, response⟩ :: records) := by
  have hprompts : prompts (begun s generate first ⟨prompt, st⟩ ++
      setback s first failure.message ++ rest.trace) = prompt :: prompts rest.trace :=
    prompts_retried _ _ _ _
  have hcalls : calls s generate st (prompt :: prompts rest.trace) =
      ⟨prompt, st⟩ :: calls s generate after (prompts rest.trace) := by
    rw [calls, h.trial_eq]
  constructor
  case toTold =>
    have hbegun : Told s (begun s generate first ⟨prompt, st⟩) [] := told_begun _ _
    have hsetback : Told s (setback s first failure.message) [⟨first, failure, response⟩] :=
      told_setback ⟨first, failure, response⟩
    exact (hbegun.append hsetback).append hrest.toTold
  case record =>
    intro k r hr
    rw [hprompts, hcalls]
    cases k with
    | zero =>
      obtain rfl : ⟨first, failure, response⟩ = r := by simpa using hr
      exact ⟨rfl, _, _, rfl, h⟩
    | succ k =>
      obtain ⟨hnumber, c, after', hc, hf⟩ := hrest.record k r (by simpa using hr)
      exact ⟨by omega, c, after', hc, hf⟩
  case complete =>
    intro k c failure' response' after' hc hf hresult
    rw [hprompts, hcalls] at hc
    cases k with
    | zero =>
      obtain rfl : ⟨prompt, st⟩ = c := by simpa using hc
      obtain ⟨rfl, rfl, -⟩ := h.unique hf
      rfl
    | succ k =>
      rw [show first + (k + 1) = first + 1 + k by omega] at hresult ⊢
      exact hrest.complete k c failure' response' after' hc hf hresult
  case error =>
    intro e he hkind
    obtain ⟨hlength, hhistory, hattempts, last, hlast, hraw, hfailure⟩ := hrest.error e he hkind
    refine ⟨?_, ?_, ?_, last, ?_, hraw, hfailure⟩
    · rw [hprompts, List.length_cons, List.length_cons, hlength]
    · rw [hhistory, List.append_assoc]
      rfl
    · rw [hattempts, List.append_assoc]
      rfl
    · rw [List.getLast?_cons, hlast]
      rfl

theorem account_attemptsWithin (memory : Memory) (remaining : Nat) (p : Progress) (st : σ)
    (hp : p.number = p.history.length + 1) :
    ∃ records, Account s generate p.number st p.history.reverse
      (attemptsWithin memory s generate remaining p st) records := by
  refine attemptsWithin_induct memory (P := fun _ p st run => p.number = p.history.length + 1 →
    ∃ records, Account s generate p.number st p.history.reverse run records)
    ?accepted ?refused ?surrendered ?retried remaining p st hp
  case accepted =>
    intro remaining p st response x after h _
    exact ⟨[], account_accepted h⟩
  case refused =>
    intro remaining p st failure response after use r _ _ _
    exact ⟨[], account_refused⟩
  case surrendered =>
    intro p st failure response after h hp
    exact ⟨_, account_surrendered hp h⟩
  case retried =>
    intro remaining p st failure response after rest h ih hp
    obtain ⟨records, hrecords⟩ := ih (by simpa [Progress.next] using hp)
    have hreverse : (p.next s failure response).history.reverse =
        p.history.reverse ++ [⟨p.number, failure, response⟩] := List.reverse_cons
    rw [hreverse] at hrecords
    exact ⟨_, account_retried h hrecords⟩

/-- What is kept of a failed call is the response to it, which is absent when the call itself has
failed and blank when the failure is that it is empty. -/
theorem Fails.raw_eq {c : Call σ} {failure : Attempt.Failure} {response : Option String} {after : σ}
    (h : Fails s generate c failure response after) :
    response = (generate c.prompt c.state).1.toOption ∧
    (response = none ↔ failure.kind = .generator) ∧
    (response.any Text.isBlankText ↔ failure.kind = .empty) := by
  have hblank := h.eq_empty_iff
  cases h with
  | generator hg =>
    rw [hg]
    exact ⟨rfl, by simp [Attempt.Failure.kind], by simp [Attempt.Failure.kind]⟩
  | @extraction response failure _ hg hx =>
    rw [hg, ← hblank]
    cases failure <;>
      exact ⟨rfl, by simp [Attempt.Failure.kind, Attempt.Failure.ofExtraction],
        by simp [Attempt.Failure.kind, Attempt.Failure.ofExtraction]⟩
  | rejected hg =>
    rw [hg, ← hblank]
    exact ⟨rfl, by simp [Attempt.Failure.kind], by simp [Attempt.Failure.kind]⟩

/-- There are records of a run that every party is told of alike: one of each attempt that failed,
with its number and the response to its call. They are the history of a run that comes to nothing,
the last of them giving the response and the failure that such a run ends with. -/
theorem failures_told_alike (memory : Memory) (s : Settings σ) (st : σ)
    (h : s.check = .ok generate) :
    let run := elicitWithin memory s st
    ∃ records, Account s generate 1 st [] run records ∧
      ∀ (k : Nat) (r : Attempt.Record) (c : Call σ), records[k]? = some r →
        (calls s generate st (prompts run.trace))[k]? = some c →
        r.raw = (generate c.prompt c.state).1.toOption ∧
        (r.raw = none ↔ r.failure.kind = .generator) ∧
        (r.raw.any Text.isBlankText ↔ r.failure.kind = .empty) := by
  obtain ⟨records, hrecords⟩ : ∃ records,
      Account s generate 1 st [] (elicitWithin memory s st) records := by
    unfold elicitWithin
    rw [h]
    exact account_attemptsWithin memory _ (Progress.start s) st rfl
  refine ⟨records, hrecords, ?_⟩
  intro k r c hr hc
  obtain ⟨-, c', after, hc', hf⟩ := hrecords.record k r hr
  obtain rfl := Option.some.inj (hc.symm.trans hc')
  exact hf.raw_eq

theorem failures_told_alike_samples :
    (∃ records, Account (watched "A list, please." mute) mute 1 0 []
      (elicitWithin .ample (watched "A list, please." mute) 0) records ∧ records.length = 3) ∧
    ∃ records, Account (watched "A list, please." mute) mute 1 0 []
      (elicitWithin (fun _ k => if k = 2 then some .unavailable else none)
        (watched "A list, please." mute) 0) records ∧ records.length = 1 := by
  have hs : (watched "A list, please." mute).check = .ok mute :=
    check_eq_ok_iff.mpr ⟨by decide, rfl⟩
  have hblank : extract " " = .error .empty := by cbv
  have hfails : ∀ prompt st, Fails (watched "A list, please." mute) mute ⟨prompt, st⟩ .empty
      (some " ") (st + 1) := fun _ _ => .extraction rfl hblank
  constructor
  · obtain ⟨records, hrecords, -⟩ := failures_told_alike .ample _ 0 hs
    refine ⟨records, hrecords, ?_⟩
    obtain ⟨e, he, hthree⟩ : ∃ e, (elicitWithin .ample (watched "A list, please." mute) 0).result =
        .error (.emptyResponse e) ∧ e.attempts = 3 := by
      have hrun : elicitWithin .ample (watched "A list, please." mute) 0 =
          attempts (watched "A list, please." mute) mute 2 (Progress.start _) 0 :=
        elicitWithin_ample _ 0
      rw [hrun, attempts_of_fails (hfails _ _), attempts_of_fails (hfails _ _),
        attempts_of_fails_last (hfails _ _)]
      exact ⟨_, rfl, rfl⟩
    obtain ⟨-, -, hattempts, -⟩ := hrecords.error _ he (.inl rfl)
    exact hattempts.symm.trans hthree
  · obtain ⟨records, hrecords, -⟩ :=
      failures_told_alike (fun _ k => if k = 2 then some .unavailable else none) _ 0 hs
    refine ⟨records, hrecords, ?_⟩
    have htold : Told (watched "A list, please." mute)
        (elicitWithin (fun _ k => if k = 2 then some .unavailable else none)
          (watched "A list, please." mute) 0).trace [⟨1, .empty, some " "⟩] := by
      change Told _ (attemptsWithin _ _ mute 2 (Progress.start _) 0).trace _
      simp only [attemptsWithin, (hfails _ _).trial_eq]
      exact ((told_begun 1 ⟨_, 0⟩).append (told_setback ⟨1, .empty, some " "⟩)).append
        ((told_begun 2 ⟨_, 1⟩).append (told_breakdown .buildingPrompt 2 .unavailable))
    have hlength := congrArg List.length (hrecords.log.symm.trans htold.log)
    simpa using hlength
end Run

end Elicit

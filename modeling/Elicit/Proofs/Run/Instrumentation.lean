import Elicit.Proofs.Run.Moments
import Mathlib

/-! Whatever watches a run, and however long it waits between attempts, makes no difference to what
is asked, what is checked, and what comes of it; and observers are told of the moments of the run
and of nothing else. -/
namespace Elicit

/-- What watches a run, what the run is called in messages, and how long it waits. -/
structure Instrumentation where
  target : String
  delay : RetryDelay
  errorCallback : Option ErrorCallback
  observer : Option Observer

namespace Settings

variable {σ : Type}

/-- The settings with other instrumentation. -/
def instrument (s : Settings σ) (i : Instrumentation) : Settings σ :=
  { s with
    target := i.target
    delay := i.delay
    errorCallback := i.errorCallback
    observer := i.observer }

/-- The settings with another observer. -/
def watchedBy (s : Settings σ) (o : Observer) : Settings σ :=
  s.instrument ⟨s.target, s.delay, s.errorCallback, some o⟩

end Settings

/-- The cause with another target in it. -/
def InvalidSettings.relabel (target : String) : InvalidSettings → InvalidSettings
  | .blankPrompt _ => .blankPrompt target
  | .noGenerator _ => .noGenerator target
  | cause => cause

/-- The error with another target in it. -/
def RunError.relabel (target : String) : RunError → RunError
  | .invalid cause => .invalid (cause.relabel target)
  | .emptyResponse e => .emptyResponse { e with target }
  | .exhausted e limit last => .exhausted { e with target } limit last
  | error => error

/-- What an observer does in place of taking note of a moment; any other event is left as it is. -/
def Event.retell (o : Observer) (e : Event) : List Event :=
  match e.moment? with
  | some m => (o m).map .observed
  | none => [e]

namespace HookSet

/-- The set that has been given observers for kinds of moments, one after another. -/
def ofSlots (slots : List (Moment.Kind × Observer)) : HookSet :=
  slots.foldl (fun h slot => h.set slot.1 slot.2) .empty

theorem ofSlots_concat (slots : List (Moment.Kind × Observer)) (k : Moment.Kind) (o : Observer) :
    ofSlots (slots ++ [(k, o)]) = (ofSlots slots).set k o := by
  rw [ofSlots, List.foldl_append]
  rfl

theorem get_set (h : HookSet) (k k' : Moment.Kind) (o : Observer) :
    (h.set k o).get k' = if k' = k then some o else h.get k' := by
  cases k <;> cases k' <;> rfl

/-- Of several observers for a kind of moment the last one counts. -/
theorem get_ofSlots (slots : List (Moment.Kind × Observer)) (k : Moment.Kind) :
    (ofSlots slots).get k = slots.reverse.lookup k := by
  induction slots using List.reverseRecOn with
  | nil => cases k <;> rfl
  | append_singleton slots slot ih =>
    obtain ⟨k', o⟩ := slot
    rw [ofSlots_concat, get_set, ih, List.reverse_concat, List.lookup_cons]
    by_cases hk : k = k'
    · rw [if_pos hk, beq_iff_eq.mpr hk]
    · rw [if_neg hk, beq_eq_false_iff_ne.mpr hk]

theorem observer_ofSlots (slots : List (Moment.Kind × Observer)) :
    (ofSlots slots).observer = fun m => ((slots.reverse.lookup m.kind).getD .silent) m := by
  funext m
  rw [observer, get_ofSlots]
  cases slots.reverse.lookup m.kind <;> rfl

/-- The set with a recorder for each of the kinds. -/
def recording (kinds : List Moment.Kind) : HookSet := ofSlots (kinds.map fun k => (k, .recorder))

theorem observer_recording (kinds : List Moment.Kind) (m : Moment) :
    (recording kinds).observer m = if m.kind ∈ kinds then [.noted m] else [] := by
  have hget : (recording kinds).get m.kind = if m.kind ∈ kinds then some .recorder else none := by
    induction kinds using List.reverseRecOn with
    | nil => cases m <;> rfl
    | append_singleton kinds k ih =>
      rw [recording] at ih
      rw [recording, List.map_append, List.map_singleton, ofSlots_concat, get_set, ih]
      by_cases hk : m.kind = k
      · simp [hk]
      · simp [hk]
  rw [observer, hget]
  by_cases hk : m.kind ∈ kinds
  · rw [if_pos hk, if_pos hk]
    rfl
  · rw [if_neg hk, if_neg hk]

end HookSet

namespace Run

variable {σ : Type} {s : Settings σ} {generate : Generator σ}

/-- A relation of traces that holds of what happens in each part of an attempt under one
instrumentation and under another. -/
structure Parallel (s : Settings σ) (generate : Generator σ) (i : Instrumentation)
    (R : List Event → List Event → Prop) : Prop where
  nil : R [] []
  append : ∀ {a a' b b'}, R a a' → R b b' → R (a ++ b) (a' ++ b')
  begun : ∀ k c, R (begun s generate k c) (begun (s.instrument i) generate k c)
  closing : ∀ k stage, R (closing s k stage) (closing (s.instrument i) k stage)
  setback : ∀ k message, R (setback s k message) (setback (s.instrument i) k message)
  surrender : ∀ k message, R (surrender s k message) (surrender (s.instrument i) k message)
  breakdown : ∀ use k r, R (breakdown use k r) (breakdown use k r)

theorem Accepts.instrument {c : Call σ} {response : String} {x : Extraction} {after : σ}
    (h : Accepts s generate c response x after) (i : Instrumentation) :
    Accepts (s.instrument i) generate c response x after := by
  cases h with
  | unchecked hg hx ha => exact .unchecked hg hx ha
  | checked hg hx ha hc => exact .checked hg hx ha hc

theorem Fails.instrument {c : Call σ} {failure : Attempt.Failure} {response : Option String}
    {after : σ} (h : Fails s generate c failure response after) (i : Instrumentation) :
    Fails (s.instrument i) generate c failure response after := by
  cases h with
  | generator hg => exact .generator hg
  | extraction hg hx => exact .extraction hg hx
  | rejected hg hx ha hc => exact .rejected hg hx ha hc

theorem finalError_instrument (i : Instrumentation) (failure : Attempt.Failure) (e : Exhaustion) :
    finalError (s.instrument i) failure { e with target := i.target } =
      (finalError s failure e).relabel i.target := by
  cases failure <;> rfl

/-- The moments of a run are the same whatever observes it. -/
theorem Moments.watchedBy {memory : Memory} {limit k : Nat} {c : Call σ} {ms : List Moment}
    (h : Moments memory s generate limit k c ms) (o : Observer) :
    Moments memory (s.watchedBy o) generate limit k c ms := by
  induction h with
  | accepted h => exact .accepted (h.instrument _)
  | refused h hr => exact .refused (h.instrument _) hr
  | surrendered h hr => exact .surrendered (h.instrument _) hr
  | retried hk h hr _ ih => exact .retried hk (h.instrument _) hr ih

theorem check_instrument (s : Settings σ) (i : Instrumentation) :
    (s.instrument i).check = s.check.mapError (·.relabel i.target) := by
  unfold Settings.check Settings.instrument
  by_cases hb : Text.isBlankText s.request
  · simp only [hb, if_true]
    rfl
  · simp only [hb]
    cases s.generator <;> rfl

/-- What two runs under different instrumentation have in common: traces that are related, the
state that they leave, and the result but for what the run is called in it. -/
def Agree (R : List Event → List Event → Prop) (target : String) (run run' : Run σ) : Prop :=
  R run.trace run'.trace ∧ run'.state = run.state ∧
    run'.result = run.result.mapError (·.relabel target)

theorem attemptsWithin_instrument (memory : Memory) {i : Instrumentation}
    {R : List Event → List Event → Prop} (h : Parallel s generate i R) (remaining : Nat)
    (p : Progress) (st : σ) :
    Agree R i.target (attemptsWithin memory s generate remaining p st)
      (attemptsWithin memory (s.instrument i) generate remaining p st) := by
  induction remaining generalizing p st with
  | zero =>
    rcases accepts_or_fails s generate ⟨p.prompt, st⟩ with
      ⟨response, x, after, ha⟩ | ⟨failure, response, after, hf⟩
    · rw [attemptsWithin_of_accepts ha, attemptsWithin_of_accepts (ha.instrument i)]
      exact ⟨h.append (h.begun _ _) (h.closing _ _), rfl, rfl⟩
    · cases hr : refusal? memory p.number 0 response with
      | none =>
        rw [attemptsWithin_of_fails_last hf hr, attemptsWithin_of_fails_last (hf.instrument i) hr]
        refine ⟨h.append (h.begun _ _) (h.surrender _ _), rfl, ?_⟩
        exact congrArg Except.error (finalError_instrument i failure ⟨s.target, _, _, _, _⟩)
      | some ur =>
        rw [attemptsWithin_of_refused hf hr, attemptsWithin_of_refused (hf.instrument i) hr]
        exact ⟨h.append (h.begun _ _) (h.breakdown _ _ _), rfl, rfl⟩
  | succ remaining ih =>
    rcases accepts_or_fails s generate ⟨p.prompt, st⟩ with
      ⟨response, x, after, ha⟩ | ⟨failure, response, after, hf⟩
    · rw [attemptsWithin_of_accepts ha, attemptsWithin_of_accepts (ha.instrument i)]
      exact ⟨h.append (h.begun _ _) (h.closing _ _), rfl, rfl⟩
    · cases hr : refusal? memory p.number (remaining + 1) response with
      | none =>
        rw [attemptsWithin_of_fails hf hr, attemptsWithin_of_fails (hf.instrument i) hr]
        -- The next prompt tells the failure, not what the run is called.
        obtain ⟨htrace, hstate, hresult⟩ := ih (p.next s failure response) after
        exact ⟨h.append (h.append (h.begun _ _) (h.setback _ _)) htrace, hstate, hresult⟩
      | some ur =>
        rw [attemptsWithin_of_refused hf hr, attemptsWithin_of_refused (hf.instrument i) hr]
        exact ⟨h.append (h.begun _ _) (h.breakdown _ _ _), rfl, rfl⟩

theorem agree_elicitWithin (memory : Memory) (s : Settings σ) (st : σ) {i : Instrumentation}
    {R : List Event → List Event → Prop} (h : ∀ generate, Parallel s generate i R) :
    Agree R i.target (elicitWithin memory s st) (elicitWithin memory (s.instrument i) st) := by
  unfold elicitWithin
  rw [check_instrument]
  cases s.check with
  | error cause => exact ⟨(h fun _ st => (.error "", st)).nil, rfl, rfl⟩
  | ok generate => exact attemptsWithin_instrument memory (h generate) _ _ _

theorem parallel_asked (s : Settings σ) (generate : Generator σ) (i : Instrumentation) :
    Parallel s generate i fun a a' => asked a' = asked a where
  nil := rfl
  append ha hb := by rw [asked_append, asked_append, ha, hb]
  begun k c := by
    rw [asked_begun, asked_begun]
    rfl
  closing k stage := by rw [asked_closing, asked_closing]
  setback k message := by rw [asked_setback, asked_setback]
  surrender k message := by rw [asked_surrender, asked_surrender]
  breakdown use k r := rfl

/-- A trace with each moment that is noted retold by an observer. -/
def retold (o : Observer) (trace : List Event) : List Event := trace.flatMap (Event.retell o)

theorem retold_append (o : Observer) (a b : List Event) :
    retold o (a ++ b) = retold o a ++ retold o b :=
  List.flatMap_append

theorem retold_eq_self (o : Observer) {trace : List Event} (h : ∀ e ∈ trace, e.moment? = none) :
    retold o trace = trace := by
  induction trace with
  | nil => rfl
  | cons e trace ih =>
    obtain ⟨he, htrace⟩ := List.forall_mem_cons.mp h
    have hretell : e.retell o = [e] := by rw [Event.retell, he]
    rw [retold, List.flatMap_cons, hretell]
    exact congrArg (e :: ·) (ih htrace)

theorem retold_notify (o : Observer) (m : Moment) :
    retold o (notify (s.watchedBy .recorder) m) = notify (s.watchedBy o) m :=
  List.append_nil _

theorem retold_report (o : Observer) (k : Nat) (message : String) :
    retold o (report s k message) = report s k message := by
  unfold report
  cases s.errorCallback with
  | none => rfl
  | some callback => exact retold_eq_self o (by simp [Event.moment?])

theorem parallel_retold (s : Settings σ) (generate : Generator σ) (o : Observer) :
    Parallel (s.watchedBy .recorder) generate ⟨s.target, s.delay, s.errorCallback, some o⟩
      fun a a' => a' = retold o a where
  nil := rfl
  append ha hb := by rw [ha, hb, retold_append]
  begun k c := by
    have hchecked : retold o ((c.checked s generate).map .checked) =
        (c.checked s generate).map .checked := retold_eq_self o (by simp [Event.moment?])
    unfold begun opening
    rw [retold_append, retold_append, retold_notify]
    exact congrArg (_ ++ ·) hchecked.symm
  closing k stage := by
    rw [closing, closing, retold_append, retold_notify]
    rfl
  setback k message := by
    have hwait : ∀ d : Duration, retold o (if d.isZero then [] else [.waited d]) =
        if d.isZero then [] else [.waited d] := by
      intro d
      split_ifs <;> rfl
    unfold setback
    dsimp only
    rw [retold_append, retold_append, retold_append, retold_notify, retold_report, hwait]
    rfl
  surrender k message := by
    rw [surrender, surrender, retold_append, retold_append, retold_notify, retold_report]
    rfl
  breakdown use k r := rfl

theorem retold_recording (kinds : List Moment.Kind) (trace : List Event) :
    retold (HookSet.recording kinds).observer trace =
      trace.filter fun e => e.moment?.all (·.kind ∈ kinds) := by
  induction trace with
  | nil => rfl
  | cons e trace ih =>
    have hretell : e.retell (HookSet.recording kinds).observer =
        [e].filter fun e => e.moment?.all (·.kind ∈ kinds) := by
      cases e with
      | observed n =>
        cases n with
        | noted m =>
          simp only [Event.retell, Event.moment?, HookSet.observer_recording]
          by_cases hm : m.kind ∈ kinds <;> simp [hm]
        | logged => rfl
      | _ => rfl
    rw [← List.singleton_append, List.filter_append, ← ih, ← hretell]
    rfl

theorem flatMap_recording (kinds : List Moment.Kind) (ms : List Moment) :
    ms.flatMap (HookSet.recording kinds).observer =
      (ms.filter (·.kind ∈ kinds)).map .noted := by
  induction ms with
  | nil => rfl
  | cons m ms ih =>
    rw [List.flatMap_cons, ih, HookSet.observer_recording]
    by_cases hm : m.kind ∈ kinds <;> simp [hm]

/-- Of two runs that differ in their instrumentation only, one asks and checks what the other does,
and they give the same result but for what the run is called in it. A set of observers is told of
what happens to all of them, each moment going to the observer that was set last for its kind; so a
set of recorders notes the moments of the kinds that are set, and no others. The moments are those
that the calls of the run come to. -/
theorem elicitWithin_instrument (memory : Memory) (s : Settings σ) (st : σ) :
    (∀ i : Instrumentation,
      let run := elicitWithin memory s st
      let run' := elicitWithin memory (s.instrument i) st
      asked run'.trace = asked run.trace ∧ run'.state = run.state ∧
        run'.result = run.result.mapError (·.relabel i.target)) ∧
    (∀ slots : List (Moment.Kind × Observer),
      (elicitWithin memory (s.watchedBy (HookSet.ofSlots slots).observer) st).trace =
        retold (fun m => ((slots.reverse.lookup m.kind).getD .silent) m)
          (elicitWithin memory (s.watchedBy .recorder) st).trace) ∧
    (∀ kinds : List Moment.Kind,
      (elicitWithin memory (s.watchedBy (HookSet.recording kinds).observer) st).trace =
        (elicitWithin memory (s.watchedBy .recorder) st).trace.filter
          fun e => e.moment?.all (·.kind ∈ kinds)) ∧
    ∀ generate, ¬ Text.isBlankText s.request → s.generator = some generate →
      let limit := min (s.maxRetries + 1) Settings.maxCount
      let first : Call σ := ⟨Prompt.initial s.request s.schema, st⟩
      (∃ ms, Moments memory s generate limit 1 first ms) ∧
      ∀ ms, Moments memory s generate limit 1 first ms →
        (∀ slots : List (Moment.Kind × Observer),
          (elicitWithin memory (s.watchedBy (HookSet.ofSlots slots).observer) st).trace.filterMap
              Event.notice? =
            ms.flatMap fun m => ((slots.reverse.lookup m.kind).getD .silent) m) ∧
        ∀ kinds : List Moment.Kind,
          (elicitWithin memory (s.watchedBy (HookSet.recording kinds).observer) st).trace.filterMap
              Event.notice? =
            (ms.filter (·.kind ∈ kinds)).map .noted := by
  have hretold : ∀ o, (elicitWithin memory (s.watchedBy o) st).trace =
      retold o (elicitWithin memory (s.watchedBy .recorder) st).trace := fun o =>
    (agree_elicitWithin memory (s.watchedBy .recorder) st fun g => parallel_retold s g o).1
  refine ⟨fun i => ?_, fun slots => ?_, fun kinds => ?_, fun generate hb hg => ?_⟩
  · exact agree_elicitWithin memory s st fun generate => parallel_asked s generate i
  · rw [hretold, HookSet.observer_ofSlots]
  · rw [hretold, retold_recording]
  · have hmax := one_le_maxAttempts s
    have htold : ∀ ms, Moments memory s generate s.maxAttempts 1 ⟨s.initialPrompt, st⟩ ms → ∀ o,
        (elicitWithin memory (s.watchedBy o) st).trace.filterMap Event.notice? = ms.flatMap o :=
      fun ms hms o =>
        Moments.elicitWithin_notices (check_eq_ok_iff.mpr ⟨hb, hg⟩) (hms.watchedBy o)
    refine ⟨exists_moments memory (Nat.add_sub_cancel' hmax) _, fun ms hms => ⟨?_, ?_⟩⟩
    · intro slots
      rw [htold ms hms, HookSet.observer_ofSlots]
    · intro kinds
      rw [htold ms hms, flatMap_recording]

/-- Of the moments of a run that succeeds at the second attempt, a set of observers notes those that
its last settings tell it to. -/
theorem elicitWithin_instrument_busyOnce :
    let s := watched "A list, please." busyOnce
    let slots : List (Moment.Kind × Observer) :=
      [(.retrying, .silent), (.succeeded, .recorder), (.retrying, .recorder), (.started, .silent)]
    (elicitWithin .ample (s.watchedBy (HookSet.ofSlots slots).observer) 0).trace.filterMap
        Event.notice? =
      [.noted (.retrying ⟨"list", 1, 3⟩ "Generator call failed: busy"),
        .noted (.succeeded ⟨"list", 2, 3⟩)] ∧
    (elicitWithin .ample (s.watchedBy (HookSet.recording [.succeeded, .started]).observer)
        0).trace.filterMap Event.notice? =
      [.noted (.started ⟨"list", 1, 3⟩), .noted (.started ⟨"list", 2, 3⟩),
        .noted (.succeeded ⟨"list", 2, 3⟩)] := by
  intro s slots
  have hb : ¬ Text.isBlankText s.request := by decide
  have hx : extract "[1]" = .ok ⟨.array [.number (.integer 1)], .scanned⟩ := by cbv
  have hfails : Fails s busyOnce ⟨Prompt.initial s.request s.schema, 0⟩ (.generator "busy") none 1 :=
    .generator rfl
  have haccepts : Accepts s busyOnce (nextCall s 1 (.generator "busy") none 1) "[1]"
      ⟨.array [.number (.integer 1)], .scanned⟩ 2 := .unchecked rfl hx rfl
  have hmessage : (Attempt.Failure.generator "busy").message = "Generator call failed: busy" := by
    decide
  have hms : Moments .ample s busyOnce 3 1 ⟨Prompt.initial s.request s.schema, 0⟩
      [.started ⟨"list", 1, 3⟩, .retrying ⟨"list", 1, 3⟩ "Generator call failed: busy",
        .started ⟨"list", 2, 3⟩, .succeeded ⟨"list", 2, 3⟩] := by
    rw [← hmessage]
    exact .retried (by decide) hfails (refusal?_ample _ _ _) (.accepted haccepts)
  obtain ⟨-, htold⟩ := (elicitWithin_instrument .ample s 0).2.2.2 busyOnce hb rfl
  obtain ⟨hslots, hkinds⟩ := htold _ hms
  exact ⟨(hslots slots).trans rfl, (hkinds _).trans rfl⟩

end Run

end Elicit

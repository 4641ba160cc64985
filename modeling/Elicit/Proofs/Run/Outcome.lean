import Elicit.Proofs.Extraction.Reference
import Elicit.Proofs.Run.Course

/-! The result of a run is that of the first call with an accepted document. -/
namespace Elicit.Run

variable {σ : Type} {s : Settings σ} {generate : Generator σ} {st : σ}

/-- The `k`-th call of the generator, where all before it have failed. -/
inductive IsCall (s : Settings σ) (generate : Generator σ) (st : σ) : Nat → Call σ → Prop
  | first : IsCall s generate st 1 ⟨Prompt.initial s.request s.schema, st⟩
  | next {k c failure response after} (hc : IsCall s generate st k c)
    (hf : Fails s generate c failure response after) :
    IsCall s generate st (k + 1) (nextCall s k failure response after)

/-- A call fails as empty when its response is blank. -/
theorem Fails.eq_empty_iff {c : Call σ} {failure : Attempt.Failure} {response : Option String}
    {after : σ} (h : Fails s generate c failure response after) :
    failure = .empty ↔ response.any Text.isBlankText := by
  cases h with
  | generator => simp
  | @extraction response failure _ _ hx =>
    have hblank : extract response = .error .empty ↔ _ := Extraction.extract_eq_empty_iff
    rw [hx] at hblank
    cases failure with
    | empty => simpa [Attempt.Failure.ofExtraction] using hblank
    | unparsed u => simpa [Attempt.Failure.ofExtraction] using hblank
  | @rejected response _ _ _ _ _ _ _ hx =>
    have hblank : extract response = .error .empty ↔ _ := Extraction.extract_eq_empty_iff
    rw [hx] at hblank
    simpa using hblank

theorem finalError_eq {c : Call σ} {failure : Attempt.Failure} {response : Option String}
    {after : σ} (h : Fails s generate c failure response after) (e : Exhaustion) :
    finalError s failure e = if response.any Text.isBlankText then .emptyResponse e
      else .exhausted e s.maxAttempts failure := by
  split_ifs with hb
  · rw [h.eq_empty_iff.mpr hb, finalError]
  · have hne : failure ≠ .empty := mt h.eq_empty_iff.mp hb
    cases failure with
    | empty => exact absurd rfl hne
    | _ => rfl

/-- The generator is called once in an attempt. -/
theorem countP_isPrompt_begun (k : Nat) (c : Call σ) :
    (begun s generate k c).countP Event.isPrompt = 1 := by
  rw [countP_isPrompt, prompts_begun]
  rfl

theorem countP_isPrompt_closing (k : Nat) (stage : Stage) :
    (closing s k stage).countP Event.isPrompt = 0 := by
  rw [countP_isPrompt, prompts_closing]
  rfl

theorem countP_isPrompt_setback (k : Nat) (message : String) :
    (setback s k message).countP Event.isPrompt = 0 := by
  rw [countP_isPrompt, prompts_setback]
  rfl

theorem countP_isPrompt_surrender (k : Nat) (message : String) :
    (surrender s k message).countP Event.isPrompt = 0 := by
  rw [countP_isPrompt, prompts_surrender]
  rfl

/-- A run comes to every call that is allowed and follows failures only. -/
theorem IsCall.exists_progress {k : Nat} {c : Call σ} (h : IsCall s generate st k c)
    (hk : k ≤ s.maxAttempts) : ∃ p before, p.number = k ∧ p.prompt = c.prompt ∧
      before.countP Event.isPrompt + 1 = k ∧
      let run := attempts s generate (s.maxAttempts - 1) (Progress.start s) st
      let rest := attempts s generate (s.maxAttempts - k) p c.state
      run.trace = before ++ rest.trace ∧ run.result = rest.result := by
  induction h with
  | first => exact ⟨Progress.start s, [], rfl, rfl, rfl, rfl, rfl⟩
  | @next k c failure response after hc hf ih =>
    obtain ⟨p, before, rfl, hprompt, hbefore, htrace, hresult⟩ := ih (by omega)
    have hf' : Fails s generate ⟨p.prompt, c.state⟩ failure response after := by rwa [hprompt]
    have hrest := attempts_of_fails hf' (s.maxAttempts - (p.number + 1))
    rw [show s.maxAttempts - (p.number + 1) + 1 = s.maxAttempts - p.number by omega] at hrest
    refine ⟨p.next s failure response, before ++ begun s generate p.number ⟨p.prompt, c.state⟩ ++
      setback s p.number failure.message, rfl, rfl, ?_, ?_, ?_⟩
    · rw [List.countP_append, List.countP_append, countP_isPrompt_begun, countP_isPrompt_setback]
      omega
    · rw [htrace, hrest]
      simp [nextCall]
    · rw [hresult, hrest]
      rfl

theorem elicit_of_accepts (h : s.check = .ok generate) {k : Nat} {c : Call σ} {response : String}
    {x : Extraction} {after : σ} (hk : k ≤ s.maxAttempts) (hc : IsCall s generate st k c)
    (ha : Accepts s generate c response x after) :
    (∃ m, (elicit s st).result = .ok ⟨x.document, k, x.stage, m⟩) ∧
      (elicit s st).trace.countP Event.isPrompt = k := by
  obtain ⟨p, before, rfl, hprompt, hbefore, htrace, hresult⟩ := hc.exists_progress hk
  have ha' : Accepts s generate ⟨p.prompt, c.state⟩ response x after := by rwa [hprompt]
  rw [elicit, h]
  dsimp only at htrace hresult ⊢
  rw [htrace, hresult, attempts_of_accepts ha']
  refine ⟨⟨_, rfl⟩, ?_⟩
  rw [List.countP_append, List.countP_append, countP_isPrompt_begun, countP_isPrompt_closing]
  exact hbefore

theorem elicit_of_fails (h : s.check = .ok generate) {c : Call σ} {failure : Attempt.Failure}
    {response : Option String} {after : σ} (hc : IsCall s generate st s.maxAttempts c)
    (hf : Fails s generate c failure response after) :
    (∃ e, e.attempts = s.maxAttempts ∧
      (elicit s st).result = .error (if response.any Text.isBlankText then .emptyResponse e
        else .exhausted e s.maxAttempts failure)) ∧
      (elicit s st).trace.countP Event.isPrompt = s.maxAttempts := by
  obtain ⟨p, before, hp, hprompt, hbefore, htrace, hresult⟩ := hc.exists_progress le_rfl
  have hf' : Fails s generate ⟨p.prompt, c.state⟩ failure response after := by rwa [hprompt]
  rw [elicit, h]
  dsimp only at htrace hresult ⊢
  rw [htrace, hresult, Nat.sub_self, attempts_of_fails_last hf']
  refine ⟨⟨_, hp, by rw [finalError_eq hf]⟩, ?_⟩
  rw [List.countP_append, List.countP_append, countP_isPrompt_begun, countP_isPrompt_surrender]
  exact hbefore

/-- While no call has an accepted document there is another. -/
theorem exists_isCall {n : Nat} (h1 : 1 ≤ n)
    (h : ∀ k c response x after, k < n → IsCall s generate st k c →
      ¬ Accepts s generate c response x after) : ∃ c, IsCall s generate st n c := by
  induction n, h1 using Nat.le_induction with
  | base => exact ⟨_, .first⟩
  | succ n _ ih =>
    obtain ⟨c, hc⟩ := ih fun k c response x after hk => h k c response x after (by omega)
    rcases accepts_or_fails s generate c with ⟨response, x, after, ha⟩ | ⟨_, _, _, hf⟩
    · exact absurd ha (h n c response x after (by omega) hc)
    · exact ⟨_, .next hc hf⟩

/-- A run gives the document of the first call, among those that are allowed, that has an accepted
one. If there is none, it ends with the failure of the last call that is allowed, told apart only
by whether the response to it was blank. One call more than the retries is allowed, as far as calls
can be counted, and none is made beyond that. -/
theorem elicit_eq_first_accepted (s : Settings σ) (st : σ) (hb : ¬ Text.isBlankText s.request)
    (hg : s.generator = some generate) :
    let limit := min (s.maxRetries + 1) Settings.maxCount
    (∀ k c response x after, k ≤ limit → IsCall s generate st k c →
      Accepts s generate c response x after →
      (∃ m, (elicit s st).result = .ok ⟨x.document, k, x.stage, m⟩) ∧
      (elicit s st).trace.countP Event.isPrompt = k ∧
      ∀ j c' response' x' after', IsCall s generate st j c' →
        Accepts s generate c' response' x' after' → k ≤ j) ∧
    ((∀ k c response x after, k ≤ limit → IsCall s generate st k c →
        ¬ Accepts s generate c response x after) →
      ∃ c failure response after e, IsCall s generate st limit c ∧
        Fails s generate c failure response after ∧ e.attempts = limit ∧
        (elicit s st).result = .error (if response.any Text.isBlankText then .emptyResponse e
          else .exhausted e limit failure) ∧
        (elicit s st).trace.countP Event.isPrompt = limit) ∧
    (elicit s st).trace.countP Event.isPrompt ≤ limit ∧ limit < 18446744073709551616 := by
  have hlimit : min (s.maxRetries + 1) Settings.maxCount = s.maxAttempts := rfl
  rw [hlimit]
  dsimp only
  have h : s.check = .ok generate := check_eq_ok_iff.mpr ⟨hb, hg⟩
  have hmax := one_le_maxAttempts s
  have hnone : (∀ k c response x after, k ≤ s.maxAttempts → IsCall s generate st k c →
      ¬ Accepts s generate c response x after) → ∃ c failure response after,
        IsCall s generate st s.maxAttempts c ∧ Fails s generate c failure response after := by
    intro hno
    obtain ⟨c, hc⟩ := exists_isCall hmax fun k c response x after hk =>
      hno k c response x after (by omega)
    rcases accepts_or_fails s generate c with ⟨response, x, after, ha⟩ | ⟨_, _, _, hf⟩
    · exact absurd ha (hno _ c response x after le_rfl hc)
    · exact ⟨c, _, _, _, hc, hf⟩
  refine ⟨?_, ?_, ?_, ?_⟩
  · intro k c response x after hk hc ha
    obtain ⟨⟨m, hm⟩, hcount⟩ := elicit_of_accepts h hk hc ha
    refine ⟨⟨m, hm⟩, hcount, ?_⟩
    intro j c' response' x' after' hc' ha'
    by_contra hlt
    have hcount' := (elicit_of_accepts h (by omega) hc' ha').2
    omega
  · intro hno
    obtain ⟨c, failure, response, after, hc, hf⟩ := hnone hno
    obtain ⟨⟨e, he, hresult⟩, hcount⟩ := elicit_of_fails h hc hf
    exact ⟨c, failure, response, after, e, hc, hf, he, hresult, hcount⟩
  · by_cases hno : ∀ k c response x after, k ≤ s.maxAttempts → IsCall s generate st k c →
        ¬ Accepts s generate c response x after
    · obtain ⟨c, failure, response, after, hc, hf⟩ := hnone hno
      exact (elicit_of_fails h hc hf).2.le
    · push Not at hno
      obtain ⟨k, c, response, x, after, hk, hc, ha⟩ := hno
      rw [(elicit_of_accepts h hk hc ha).2]
      exact hk
  · exact Nat.lt_succ_of_le (Nat.min_le_right _ _)

/-- With blank responses only, a run makes all the attempts that its settings allow: three, one, or
as many as can be counted. -/
theorem elicit_eq_first_accepted_samples :
    let s (retries : Nat) := { watched "A list, please." mute with maxRetries := retries }
    (∃ c x after, IsCall (watched "A list, please." busyOnce) busyOnce 0 2 c ∧
      Accepts (watched "A list, please." busyOnce) busyOnce c "[1]" x after ∧
      ∃ m, (elicit (watched "A list, please." busyOnce) 0).result =
        .ok ⟨x.document, 2, x.stage, m⟩) ∧
    (∃ e, e.attempts = 3 ∧ (elicit (s 2) 0).result = .error (.emptyResponse e)) ∧
    (∃ e, e.attempts = 1 ∧ (elicit (s 0) 0).result = .error (.emptyResponse e)) ∧
    ∃ e, e.attempts = 18446744073709551615 ∧
      (elicit (s 18446744073709551615) 0).result = .error (.emptyResponse e) := by
  intro s
  have hb : ¬ Text.isBlankText "A list, please." := by decide
  have hempty : ∀ retries, ∃ e, e.attempts = min (retries + 1) Settings.maxCount ∧
      (elicit (s retries) 0).result = .error (.emptyResponse e) := by
    intro retries
    have hblank : extract " " = .error .empty := by cbv
    have hno : ∀ c response x after, ¬ Accepts (s retries) mute c response x after := by
      intro c response x after ha
      cases ha with
      | unchecked hg hx =>
        cases hg
        rw [hblank] at hx
        cases hx
      | checked hg hx =>
        cases hg
        rw [hblank] at hx
        cases hx
    obtain ⟨c, failure, response, after, e, hc, hf, he, hresult, -⟩ :=
      (elicit_eq_first_accepted (s retries) 0 hb rfl).2.1
        fun k c response x after _ _ => hno c response x after
    refine ⟨e, he, ?_⟩
    have hany : response.any Text.isBlankText := by
      cases hf with
      | generator hg => cases hg
      | extraction hg hx =>
        cases hg
        rfl
      | rejected hg =>
        cases hg
        rfl
    rw [hresult, if_pos hany]
  have hc : IsCall (watched "A list, please." busyOnce) busyOnce 0 2 _ :=
    .next .first (.generator rfl)
  have hx : extract "[1]" = .ok ⟨.array [.number (.integer 1)], .scanned⟩ := by cbv
  have ha : ∀ prompt, Accepts (watched "A list, please." busyOnce) busyOnce ⟨prompt, 1⟩ "[1]"
      ⟨.array [.number (.integer 1)], .scanned⟩ 2 := fun _ => .unchecked rfl hx rfl
  obtain ⟨hfirst, -⟩ := (elicit_eq_first_accepted (watched "A list, please." busyOnce) 0 hb
    rfl).1 2 _ _ _ _ (by decide) hc (ha _)
  exact ⟨⟨_, _, _, hc, ha _, hfirst⟩, hempty 2, hempty 0, hempty 18446744073709551615⟩

end Elicit.Run

import Elicit.Proofs.Run.Course
import Mathlib

/-! What a prompt may tell: the request, and the failure of the attempt right before it. -/
namespace Elicit.Run

variable {σ : Type} {s : Settings σ} {generate : Generator σ}

/-- Every prompt but the first corrects the failure of the call before it; `first` is the number of
the first attempt. -/
def Corrects (s : Settings σ) (generate : Generator σ) (first : Nat) (st : σ)
    (ps : List String) : Prop :=
  ∀ k next, ps[k + 1]? = some next → ∃ c failure response after,
    (calls s generate st ps)[k]? = some c ∧ Fails s generate c failure response after ∧
    next = Prompt.corrective (Prompt.initial s.request s.schema) failure response (first + k)
      (min (s.maxRetries + 1) Settings.maxCount) s.quoteLimit

theorem corrects_singleton (first : Nat) (st : σ) (prompt : String) :
    Corrects s generate first st [prompt] := by
  intro k next h
  simp at h

theorem Corrects.cons {first : Nat} {st after : σ} {prompt : String} {rest : List String}
    {failure : Attempt.Failure} {response : Option String}
    (hf : Fails s generate ⟨prompt, st⟩ failure response after)
    (h : Corrects s generate (first + 1) after ((nextCall s first failure response after).prompt ::
      rest)) :
    Corrects s generate first st (prompt ::
      (nextCall s first failure response after).prompt :: rest) := by
  intro k next hnext
  cases k with
  | zero =>
    obtain rfl : (nextCall s first failure response after).prompt = next := by simpa using hnext
    exact ⟨_, failure, response, after, rfl, hf, rfl⟩
  | succ k =>
    obtain ⟨c, failure', response', after', hc, hf', he⟩ := h k next (by simpa using hnext)
    refine ⟨c, failure', response', after', ?_, hf', ?_⟩
    · rw [calls, hf.trial_eq]
      exact hc
    · rw [he, Nat.add_assoc first 1 k, Nat.add_comm 1 k]

theorem Corrects.next_eq {first : Nat} {st after : σ} {ps : List String} {k : Nat} {c : Call σ}
    {failure : Attempt.Failure} {response : Option String} {next : String}
    (h : Corrects s generate first st ps) (hc : (calls s generate st ps)[k]? = some c)
    (hf : Fails s generate c failure response after) (hnext : ps[k + 1]? = some next) :
    next = Prompt.corrective (Prompt.initial s.request s.schema) failure response (first + k)
      (min (s.maxRetries + 1) Settings.maxCount) s.quoteLimit := by
  obtain ⟨c', failure', response', after', hc', hf', rfl⟩ := h k next hnext
  obtain rfl := Option.some.inj (hc.symm.trans hc')
  obtain ⟨rfl, rfl, -⟩ := hf.unique hf'
  rfl

/-- The attempts that remain send their own prompt first, and then corrective ones. -/
theorem prompts_attemptsWithin (memory : Memory) (remaining : Nat) (p : Progress) (st : σ) :
    ∃ rest, prompts (attemptsWithin memory s generate remaining p st).trace = p.prompt :: rest ∧
      Corrects s generate p.number st (p.prompt :: rest) := by
  refine attemptsWithin_induct memory
    (P := fun _ p st run => ∃ rest, prompts run.trace = p.prompt :: rest ∧
      Corrects s generate p.number st (p.prompt :: rest)) ?accepted ?refused ?surrendered ?retried
      remaining p st
  case accepted =>
    intro remaining p st response x after h
    exact ⟨[], prompts_accepted _ _ _, corrects_singleton _ _ _⟩
  case refused =>
    intro remaining p st failure response after use r h hm
    exact ⟨[], prompts_refused _ _ _ _, corrects_singleton _ _ _⟩
  case surrendered =>
    intro p st failure response after h
    exact ⟨[], prompts_surrendered _ _ _, corrects_singleton _ _ _⟩
  case retried =>
    intro remaining p st failure response after rest h ih
    obtain ⟨later, hlater, hcorrects⟩ := ih
    refine ⟨(p.next s failure response).prompt :: later, ?_, hcorrects.cons h⟩
    rw [prompts_retried, hlater]

theorem isPrefix_corrective (initial : String) (failure : Attempt.Failure)
    (response : Option String) (k attempts limit : Nat) : initial.toList <+:
      (Prompt.corrective initial failure response k attempts limit).toList := by
  unfold Prompt.corrective
  rw [String.append_assoc, String.toList_append]
  exact List.prefix_append _ _

theorem prompts_elicitWithin (memory : Memory) (s : Settings σ) (st : σ)
    (h : s.check = .ok generate) : ∃ rest,
      prompts (elicitWithin memory s st).trace = Prompt.initial s.request s.schema :: rest ∧
      Corrects s generate 1 st (Prompt.initial s.request s.schema :: rest) := by
  unfold elicitWithin
  rw [h]
  exact prompts_attemptsWithin memory _ (Progress.start s) st

/-- The prompts of a run: the request with the schema, and after it no other than the corrective
prompt for the failure of the attempt before. Hence they all begin with the first prompt, and two
runs with the same request, whatever their generators and checks and whatever came before, send the
same prompt after the same failure and response of an attempt of the same number. -/
theorem prompts_correct_latest (memory : Memory) (s : Settings σ) (st : σ)
    (hb : ¬ Text.isBlankText s.request) (hg : s.generator = some generate) :
    let ps := prompts (elicitWithin memory s st).trace
    let first := Prompt.initial s.request s.schema
    let limit := min (s.maxRetries + 1) Settings.maxCount
    ps.head? = some first ∧
    (∀ k next, ps[k + 1]? = some next → ∃ c failure response after,
      (calls s generate st ps)[k]? = some c ∧ Fails s generate c failure response after ∧
      next = Prompt.corrective first failure response (k + 1) limit s.quoteLimit) ∧
    (∀ prompt ∈ ps, first.toList <+: prompt.toList) ∧
    ∀ {τ : Type} (memory' : Memory) (s' : Settings τ) (st' : τ) (generate' : Generator τ),
      s'.generator = some generate' → s'.request = s.request → s'.schema = s.schema →
      s'.maxRetries = s.maxRetries → s'.quoteLimit = s.quoteLimit →
      let ps' := prompts (elicitWithin memory' s' st').trace
      ∀ k c c' failure response after after' next next',
        (calls s generate st ps)[k]? = some c → Fails s generate c failure response after →
        (calls s' generate' st' ps')[k]? = some c' → Fails s' generate' c' failure response after' →
        ps[k + 1]? = some next → ps'[k + 1]? = some next' → next = next' := by
  obtain ⟨rest, hps, hcorrects⟩ :=
    prompts_elicitWithin memory s st (check_eq_ok_iff.mpr ⟨hb, hg⟩)
  rw [hps]
  refine ⟨rfl, ?_, ?_, ?_⟩
  · intro k next hnext
    rw [Nat.add_comm k 1]
    exact hcorrects k next hnext
  · intro prompt hprompt
    obtain ⟨k, hk⟩ := List.getElem?_of_mem hprompt
    cases k with
    | zero =>
      obtain rfl : Prompt.initial s.request s.schema = prompt := by simpa using hk
      exact List.prefix_refl _
    | succ k =>
      obtain ⟨_, _, _, _, -, -, rfl⟩ := hcorrects k prompt hk
      exact isPrefix_corrective _ _ _ _ _ _
  · intro τ memory' s' st' generate' hg' hrequest hschema hretries hquote
    obtain ⟨rest', hps', hcorrects'⟩ := prompts_elicitWithin memory' s' st'
      (check_eq_ok_iff.mpr ⟨by rwa [hrequest], hg'⟩)
    rw [hps']
    intro ps' k c c' failure response after after' next next' hc hf hc' hf' hnext hnext'
    have hcorrective := Corrects.next_eq hcorrects hc hf hnext
    have hcorrective' := Corrects.next_eq hcorrects' hc' hf' hnext'
    rw [hcorrective, hcorrective', hrequest, hschema, hretries, hquote]

/-- Two generators that are busy at first are asked the same again. -/
theorem prompts_correct_latest_samples :
    let s := { watched "A list, please." busyOnce with schema := some "[]", maxRetries := 1 }
    let busy : Generator Nat := fun _ calls => (.error "busy", calls + 2)
    let s' := { watched "A list, please." busy with schema := some "[]", maxRetries := 1 }
    let ps := prompts (elicitWithin .ample s 0).trace
    let ps' := prompts (elicitWithin .ample s' 7).trace
    let first := "A list, please.\n\nRespond with a single JSON document that conforms to the " ++
      "following schema. Do not include any text outside the JSON document.\n\nSchema:\n[]"
    ps.head? = some first ∧ ps.length = 2 ∧ ps'.length = 2 ∧ ps[1]? = ps'[1]? ∧
    ps[1]? = some (first ++ "\n\nAttempt 1/2: The previous request failed before a response was " ++
      "produced.\n\nError: busy\n\nPlease respond with a single valid JSON document only, " ++
      "without commentary.") := by
  intro s busy s' ps ps' first
  have hb : ¬ Text.isBlankText s.request := by decide
  have hs : s.check = .ok busyOnce := check_eq_ok_iff.mpr ⟨hb, rfl⟩
  have hs' : s'.check = .ok busy := check_eq_ok_iff.mpr ⟨hb, rfl⟩
  have hfirst : Prompt.initial "A list, please." (some "[]") = first := by decide +kernel
  have hps : ps = [s.initialPrompt,
      Prompt.corrective s.initialPrompt (.generator "busy") none 1 2 500] := by
    have hlist : extract "[1]" = .ok ⟨.array [.number (.integer 1)], .scanned⟩ := by cbv
    have hrun : elicitWithin .ample s 0 = attempts s busyOnce 1 (Progress.start s) 0 := by
      rw [elicitWithin_ample, elicit, hs]
      rfl
    change prompts (elicitWithin .ample s 0).trace = _
    rw [hrun, attempts_of_fails (.generator rfl), attempts_of_accepts (.unchecked rfl hlist rfl)]
    simp only [prompts_append, prompts_begun, prompts_setback, prompts_closing]
    rfl
  have hps' : ps' = [s'.initialPrompt,
      Prompt.corrective s'.initialPrompt (.generator "busy") none 1 2 500] := by
    have hrun : elicitWithin .ample s' 7 = attempts s' busy 1 (Progress.start s') 7 := by
      rw [elicitWithin_ample, elicit, hs']
      rfl
    change prompts (elicitWithin .ample s' 7).trace = _
    rw [hrun, attempts_of_fails (.generator rfl), attempts_of_fails_last (.generator rfl)]
    simp only [prompts_append, prompts_begun, prompts_setback, prompts_surrender]
    rfl
  obtain ⟨hhead, -, -, hsame⟩ := prompts_correct_latest .ample s 0 hb rfl
  have hnext := hsame .ample s' 7 busy rfl rfl rfl rfl rfl 0 ⟨s.initialPrompt, 0⟩
    ⟨s'.initialPrompt, 7⟩ (.generator "busy") none 1 9 _ _
    (congrArg (fun ps => (calls s busyOnce 0 ps)[0]?) hps) (.generator rfl)
    (congrArg (fun ps => (calls s' busy 7 ps)[0]?) hps') (.generator rfl)
    (congrArg (·[1]?) hps) (congrArg (·[1]?) hps')
  have hagain : Prompt.corrective first (.generator "busy") none 1 2 500 = first ++
      "\n\nAttempt 1/2: The previous request failed before a response was " ++
      "produced.\n\nError: busy\n\nPlease respond with a single valid JSON document only, " ++
      "without commentary." := by decide +kernel
  refine ⟨hhead.trans (congrArg some hfirst), ?_, ?_, ?_, ?_⟩
  · rw [hps]
    rfl
  · rw [hps']
    rfl
  · rw [hps, hps']
    exact congrArg some hnext
  · rw [hps, ← hagain, ← hfirst]
    rfl

end Elicit.Run

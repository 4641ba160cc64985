import Elicit.Extraction.Basic
import Elicit.Proofs.Extraction.Pairing
import Elicit.Proofs.Extraction.Region
import Elicit.Proofs.Text.Blank
import Mathlib

/-! Extraction agrees with a reference that tries every part of the response in turn and knows
nothing of brackets. -/
namespace Elicit.Extraction

/-- The object or array that a text is read as. -/
def container? (cs : List Char) : Option Json :=
  (Json.read cs).toOption.filter Json.isContainer

/-- The object or array in the part of a text that starts first. -/
def firstContainer? (cs : List Char) : Option Json :=
  cs.tails.findSome? fun rest => rest.inits.findSome? container?

/-- What is said of a response, without the wording of a failure. -/
inductive Verdict where
  | empty
  | document (x : Extraction)
  | unparsed

/-- The verdict of an extraction. -/
def Verdict.of : Except Failure Extraction → Verdict
  | .ok x => .document x
  | .error .empty => .empty
  | .error (.unparsed _) => .unparsed

/-- The verdict on a response without blanks around it: the first value that is read between the
fences of a pair, else the first part that is read as an object or array, else the value of the
whole. -/
def reference (cs : List Char) : Verdict :=
  if cs.isEmpty then .empty else
  match (Fence.enclosed cs).findSome? fun block => (Json.read (Text.trim block)).toOption with
  | some v => .document ⟨v, .fenced⟩
  | none =>
    match firstContainer? cs with
    | some v => .document ⟨v, .scanned⟩
    | none =>
      match (Json.read cs).toOption with
      | some v => .document ⟨v, .verbatim⟩
      | none => .unparsed

theorem container?_eq_some_iff {cs : List Char} {v : Json} :
    container? cs = some v ↔ Json.read cs = .ok v ∧ v.isContainer := by
  unfold container?
  cases h : Json.read cs with
  | error e => simp [Except.toOption]
  | ok w =>
    simp only [Except.toOption, Option.filter_eq_some_iff]
    grind

theorem firstFenced_toOption (blocks : List (List Char)) : (firstFenced blocks).toOption =
    blocks.findSome? fun block => (Json.read (Text.trim block)).toOption := by
  induction blocks with
  | nil => rfl
  | cons block blocks ih =>
    rw [firstFenced, List.findSome?_cons, ← ih]
    cases Json.read (Text.trim block) with
    | ok v => rfl
    | error f => cases firstFenced blocks <;> rfl

/-- One step of a scan: the container that starts here, else what the rest of the text gives. -/
theorem scan_cons_toOption (c : Char) (cs : List Char) : (scan (c :: cs)).toOption =
    ((if Region.isOpener c then Region.balanced? (c :: cs) else none).bind
      fun region => (Json.read region).toOption).or (scan cs).toOption := by
  rw [scan]
  cases (if Region.isOpener c then Region.balanced? (c :: cs) else none) with
  | none => rfl
  | some region =>
    cases h : Json.read region with
    | ok v => simp [h, Except.toOption]
    | error f => cases scan cs <;> simp [h, Except.toOption, Except.mapError]

/-- A text that is read as a container is one region between blanks. -/
theorem exists_core {cs : List Char} {v : Json} (h : container? cs = some v) :
    ∃ front c core back, cs = front ++ c :: core ++ back ∧ (∀ b ∈ front, Json.isBlank b) ∧
      (∀ b ∈ back, Json.isBlank b) ∧ Region.isOpener c ∧ container? (c :: core) = some v ∧
      ∀ rest, Region.balanced? (c :: core ++ rest) = some (c :: core) := by
  obtain ⟨hr, hc⟩ := container?_eq_some_iff.mp h
  obtain ⟨front, c, rest, rfl, hf, ho⟩ := Json.exists_opener_of_read hr hc
  have ho' : Region.isOpener c := by simpa [Region.isOpener] using ho
  have hr' := (Json.read_blanks_append hf).mp hr
  obtain ⟨-, region, back, he, hb, hread, hbal⟩ := Region.balanced?_of_read ho' hr'
  rcases region with - | ⟨d, core⟩
  · cases hread
  obtain ⟨rfl, rfl⟩ := List.cons_eq_cons.mp he
  exact ⟨front, c, core, back, by simp, hf, hb, ho',
    container?_eq_some_iff.mpr ⟨hread, hc⟩, hbal⟩

theorem not_isOpener_of_isBlank {c : Char} (h : Json.isBlank c) : Region.isOpener c = false := by
  rcases Json.eq_of_isBlank h with rfl | rfl | rfl | rfl <;> rfl

theorem scan_blanks_append {bs : List Char} (hb : ∀ b ∈ bs, Json.isBlank b) (cs : List Char) :
    (scan (bs ++ cs)).toOption = (scan cs).toOption := by
  induction bs with
  | nil => rfl
  | cons b bs ih =>
    rw [List.cons_append, scan_cons_toOption, not_isOpener_of_isBlank (hb b (by simp))]
    exact ih fun c hc => hb c (by simp [hc])

/-- A part that is read as a container from where a scan stands is what the scan finds. -/
theorem scan_of_isPrefix {a cs : List Char} {v : Json} (ha : a <+: cs)
    (hv : container? a = some v) : (scan cs).toOption = some v := by
  obtain ⟨front, c, core, back, rfl, hf, -, ho, hcore, hbal⟩ := exists_core hv
  obtain ⟨q, rfl⟩ := ha
  have hr := (container?_eq_some_iff.mp hcore).1
  rw [List.append_assoc, List.append_assoc, scan_blanks_append hf, List.cons_append,
    scan_cons_toOption, if_pos ho, ← List.cons_append, hbal]
  simp [hr, Except.toOption]

/-- What a scan finds where it stands is read from a part of the text that starts there. -/
theorem exists_prefix_of_balanced? {c : Char} {cs region : List Char} {v : Json}
    (ho : Region.isOpener c) (hb : Region.balanced? (c :: cs) = some region)
    (hr : Json.read region = .ok v) : ∃ a, a <+: c :: cs ∧ container? a = some v := by
  have hp := Region.takeFrom_isPrefix hb
  refine ⟨region, hp, container?_eq_some_iff.mpr ⟨hr, ?_⟩⟩
  rcases region with - | ⟨d, region⟩
  · cases hr
  · obtain ⟨rfl, -⟩ := List.cons_prefix_cons.mp hp
    exact (Region.balanced?_of_read ho hr).1

theorem firstContainer?_cons (c : Char) (cs : List Char) : firstContainer? (c :: cs) =
    ((c :: cs).inits.findSome? container?).or (firstContainer? cs) := by
  simp only [firstContainer?, List.tails_cons, List.findSome?_cons]
  cases (c :: cs).inits.findSome? container? <;> rfl

/-- A scan for balanced regions finds what trying every part of the text finds. -/
theorem scan_toOption (cs : List Char) : (scan cs).toOption = firstContainer? cs := by
  induction cs with
  | nil => rfl
  | cons c cs ih =>
    rw [firstContainer?_cons]
    cases hi : (c :: cs).inits.findSome? container? with
    | some v =>
      obtain ⟨a, ha, hv⟩ := List.exists_of_findSome?_eq_some hi
      exact scan_of_isPrefix ((List.mem_inits _ _).mp ha) hv
    | none =>
      have hnone : ((if Region.isOpener c then Region.balanced? (c :: cs) else none).bind
          fun region => (Json.read region).toOption) = none := by
        by_contra hne
        obtain ⟨v, hv⟩ := Option.ne_none_iff_exists'.mp hne
        obtain ⟨region, hb, hr⟩ := Option.bind_eq_some_iff.mp hv
        split_ifs at hb with ho
        have hr' : Json.read region = .ok v := by
          cases h : Json.read region <;> simp_all [Except.toOption]
        obtain ⟨a, ha, hav⟩ := exists_prefix_of_balanced? ho hb hr'
        rw [List.findSome?_eq_none_iff.mp hi a ((List.mem_inits _ _).mpr ha)] at hav
        cases hav
      rw [scan_cons_toOption, hnone, ih]

/-- A text that has a part read as a container is not given up by the scan. -/
theorem firstContainer?_of_isInfix {part cs : List Char} {v : Json} (h : part <:+: cs)
    (hv : container? part = some v) : firstContainer? cs ≠ none := by
  rw [← scan_toOption]
  induction cs with
  | nil =>
    rw [List.infix_nil.mp h] at hv
    cases hv
  | cons c cs ih =>
    rcases List.infix_cons_iff.mp h with hp | hi
    · simp [scan_of_isPrefix hp hv]
    · rw [scan_cons_toOption]
      intro hn
      exact ih hi (Option.or_eq_none_iff.mp hn).2

/-- Trimming takes no container away. -/
theorem exists_container_trim {part cs : List Char} {v : Json} (h : part <:+: cs)
    (hv : container? part = some v) :
    ∃ core, core <:+: Text.trim cs ∧ container? core = some v := by
  obtain ⟨front, c, core, back, rfl, -, -, ho, hcore, hbal⟩ := exists_core hv
  refine ⟨c :: core, ?_, hcore⟩
  have hin : c :: core <:+: cs := List.IsInfix.trans ⟨front, back, rfl⟩ h
  have hc : Text.isBlank c = false := by
    rcases (by simpa [Region.isOpener] using ho : c = '{' ∨ c = '[') with rfl | rfl <;> rfl
  rcases Region.takeFrom_getLast? (hbal []) with hd | hd
  · exact Text.infix_trim hin rfl hd hc rfl
  · exact Text.infix_trim hin rfl hd hc rfl

/-- An object or array with no blank after it. -/
def IsComplete (cs : List Char) : Prop :=
  (container? cs).isSome ∧ ∀ c ∈ cs.getLast?, ¬ Json.isBlank c

theorem takeWhile_blanks {bs : List Char} {c : Char} (hb : ∀ b ∈ bs, Json.isBlank b)
    (hc : ¬ Json.isBlank c) (cs : List Char) : (bs ++ c :: cs).takeWhile Json.isBlank = bs := by
  rw [List.takeWhile_append_of_pos hb, List.takeWhile_cons_of_neg hc, List.append_nil]

/-- A complete container consists of blanks and the region after them. -/
theorem IsComplete.exists_region {a : List Char} (h : IsComplete a) :
    ∃ front c core, a = front ++ c :: core ∧ (∀ b ∈ front, Json.isBlank b) ∧ ¬ Json.isBlank c ∧
      ∀ rest, Region.balanced? (c :: core ++ rest) = some (c :: core) := by
  obtain ⟨v, hv⟩ := Option.isSome_iff_exists.mp h.1
  obtain ⟨front, c, core, back, rfl, hf, hb, ho, -, hbal⟩ := exists_core hv
  have hc : ¬ Json.isBlank c := by
    intro hc
    rw [not_isOpener_of_isBlank hc] at ho
    cases ho
  have hback : back = [] := by
    by_contra hne
    obtain ⟨d, hd⟩ := Option.ne_none_iff_exists'.mp (mt List.getLast?_eq_none_iff.mp hne)
    have hlast := h.2 d (by rw [List.getLast?_append, hd]; rfl)
    exact hlast (hb d (List.mem_of_getLast? hd))
  subst hback
  exact ⟨front, c, core, by simp, hf, hc, hbal⟩

/-- At most one complete container starts at a place. -/
theorem IsComplete.unique {a b rest : List Char} (ha : a <+: rest) (hb : b <+: rest)
    (hca : IsComplete a) (hcb : IsComplete b) : a = b := by
  obtain ⟨front, c, core, rfl, hf, hc, hbal⟩ := hca.exists_region
  obtain ⟨front', c', core', rfl, hf', hc', hbal'⟩ := hcb.exists_region
  obtain ⟨q, rfl⟩ := ha
  obtain ⟨q', hq⟩ := hb
  rw [List.append_assoc, List.append_assoc] at hq
  have hfront : front' = front := by
    rw [← takeWhile_blanks hf' hc' (core' ++ q'), ← takeWhile_blanks hf hc (core ++ q)]
    exact congrArg _ hq
  subst hfront
  have hsame := List.append_cancel_left hq
  have hregion : c' :: core' = c :: core :=
    Option.some.inj ((hbal' q').symm.trans (hsame ▸ hbal q))
  rw [hregion]

theorem verdict_ofTrimmed (cs : List Char) : Verdict.of (ofTrimmed cs) = reference cs := by
  unfold ofTrimmed reference
  rw [← Fence.blocks_eq_enclosed, ← firstFenced_toOption, ← scan_toOption]
  split_ifs
  · rfl
  cases firstFenced (Fence.blocks cs) with
  | ok v => rfl
  | error fenced =>
    cases scan cs with
    | ok v => rfl
    | error scanned => cases Json.read cs <;> rfl

/-- Nothing is said to be empty but a response of blanks. -/
theorem extract_eq_empty_iff {response : String} :
    extract response = .error .empty ↔ Text.isBlankText response := by
  have htrim : Text.isBlankText response ↔ Text.trim response.toList = [] := by
    rw [Text.trim_eq_nil_iff, Text.isBlankText, List.all_eq_true]
  rw [htrim, extract]
  generalize Text.trim response.toList = cs
  constructor
  · intro h
    unfold ofTrimmed at h
    split_ifs at h with he
    · exact List.isEmpty_iff.mp he
    · split at h
      · cases h
      · split at h
        · cases h
        · split at h <;> cases h
  · rintro rfl
    rfl

/-- What a scan finds is the document, unless a fenced block is read as a value. -/
theorem ofTrimmed_of_scan {cs : List Char} {v : Json} (h : (scan cs).toOption = some v) :
    ofTrimmed cs = match (firstFenced (Fence.blocks cs)).toOption with
      | some w => .ok ⟨w, .fenced⟩
      | none => .ok ⟨v, .scanned⟩ := by
  have hne : cs.isEmpty = false := by
    cases cs with
    | nil => cases h
    | cons c cs => rfl
  have hs : scan cs = .ok v := by
    cases hs : scan cs with
    | ok w => rw [hs] at h; exact congrArg _ (Option.some.inj h)
    | error f => rw [hs] at h; cases h
  simp only [ofTrimmed, hne, hs]
  cases firstFenced (Fence.blocks cs) <;> rfl

theorem read_of_verbatim {cs : List Char} {v : Json} (h : ofTrimmed cs = .ok ⟨v, .verbatim⟩) :
    Json.read cs = .ok v := by
  unfold ofTrimmed at h
  split_ifs at h
  split at h
  · cases h
  · split at h
    · cases h
    · split at h
      · cases h
        assumption
      · cases h

/-- Extraction says what the reference says. At most one complete container starts at a place, and
all parts read as containers from one place are read as the same value, so the part that the
reference takes is determined. When nothing is found, no part of the response is an object or
array; and a value that stands as the whole response is never one. -/
theorem extract_eq_reference (response : String) :
    Verdict.of (extract response) = reference (Text.trim response.toList) ∧
    (∀ rest a b, a <+: rest → b <+: rest → IsComplete a → IsComplete b → a = b) ∧
    (∀ rest a b v w, a <+: rest → b <+: rest → container? a = some v → container? b = some w →
      v = w) ∧
    (∀ u part, extract response = .error (.unparsed u) → part <:+: response.toList →
      container? part = none) ∧
    (∀ v, extract response = .ok ⟨v, .verbatim⟩ → v.isContainer = false) := by
  refine ⟨verdict_ofTrimmed _, fun rest a b ha hb hca hcb => hca.unique ha hb hcb, ?_, ?_, ?_⟩
  · intro rest a b v w ha hb hv hw
    exact Option.some.inj ((scan_of_isPrefix ha hv).symm.trans (scan_of_isPrefix hb hw))
  · intro u part hu hpart
    by_contra hne
    obtain ⟨v, hv⟩ := Option.ne_none_iff_exists'.mp hne
    obtain ⟨core, hcore, hcv⟩ := exists_container_trim hpart hv
    obtain ⟨w, hw⟩ := Option.ne_none_iff_exists'.mp (firstContainer?_of_isInfix hcore hcv)
    have he := hu.symm.trans (ofTrimmed_of_scan ((scan_toOption _).trans hw))
    split at he <;> cases he
  · intro v hv
    by_contra hc
    have hr := container?_eq_some_iff.mpr ⟨read_of_verbatim hv, by simpa using hc⟩
    have he := hv.symm.trans (ofTrimmed_of_scan (scan_of_isPrefix (List.prefix_refl _) hr))
    split at he <;> cases he

/-- A block is preferred to what stands before it, and the last fence here has no partner. -/
theorem extract_eq_reference_samples :
    Verdict.of (extract " [0]\n```json\n[1]\n```\n[2] ```") =
      .document ⟨.array [.number (.integer 1)], .fenced⟩ ∧
    (∃ u, extract "see [1" = .error (.unparsed u)) ∧ container? "[1".toList = none ∧
    extract "42" = .ok ⟨.number (.integer 42), .verbatim⟩ ∧
    (Json.number (.integer 42)).isContainer = false ∧
    IsComplete "[1]".toList ∧ "[1]".toList = ['[', '1', ']'] ∧
    ∃ v, container? "[1]".toList = some v ∧ container? "[1] ".toList = some v := by
  have hfenced : reference (Text.trim " [0]\n```json\n[1]\n```\n[2] ```".toList) =
      .document ⟨.array [.number (.integer 1)], .fenced⟩ := by cbv
  have hunparsed : ∃ u, extract "see [1" = .error (.unparsed u) := ⟨_, by cbv⟩
  have hverbatim : extract "42" = .ok ⟨.number (.integer 42), .verbatim⟩ := by cbv
  have hcomplete : IsComplete "[1]".toList := ⟨by cbv, by simp [Json.isBlank]⟩
  obtain ⟨v, hv⟩ : ∃ v, container? "[1]".toList = some v := ⟨_, by cbv⟩
  obtain ⟨w, hw⟩ : ∃ w, container? "[1] ".toList = some w := ⟨_, by cbv⟩
  have hp : "[1]".toList <+: "[1] x".toList := by decide
  have hp' : "[1] ".toList <+: "[1] x".toList := by decide
  obtain ⟨-, hunique, hsame, -, -⟩ := extract_eq_reference "[1] x"
  obtain ⟨u, hu⟩ := hunparsed
  refine ⟨(extract_eq_reference _).1.trans hfenced, ⟨u, hu⟩,
    (extract_eq_reference "see [1").2.2.2.1 u _ hu (by decide), hverbatim,
    (extract_eq_reference "42").2.2.2.2 _ hverbatim, hcomplete,
    hunique _ _ _ hp hp hcomplete hcomplete, v, hv, ?_⟩
  rw [hw, hsame _ _ _ v w hp hp' hv hw]

end Elicit.Extraction

import Elicit.Proofs.Extraction.Exact

/-! A response that begins like a document but is cut off or malformed. The scan goes on within
it, so that it may yield a part of what is broken, and it fails just when there is no such part. -/
namespace Elicit.Extraction

/-- The bracket that the text begins with is closed by its last character. -/
def Closes (cs : List Char) : Prop := Region.balanced? cs = some cs

/-- A text that begins with a bracket, which nothing closes before the end of the text, and that is
not read as a value. -/
structure Broken (cs : List Char) : Prop where
  trimmed : Text.trim cs = cs
  unfenced : ¬ ['\x60', '\x60', '\x60'] <:+: cs
  opener : ∃ c, cs.head? = some c ∧ Region.isOpener c
  unclosed : ∀ p, p <+: cs → p ≠ cs → ¬ Closes p
  unread : ∀ v, Json.read cs ≠ .ok v

theorem container?_of_no_opener {cs part : List Char} (h : ∀ c ∈ cs, ¬ Region.isOpener c)
    (hpart : part <:+: cs) : container? part = none := by
  by_contra hne
  obtain ⟨v, hv⟩ := Option.ne_none_iff_exists'.mp hne
  obtain ⟨front, c, core, back, rfl, -, -, ho, -⟩ := exists_core hv
  have hc : c ∈ cs := hpart.subset (by simp)
  exact h c hc ho

theorem firstContainer?_eq_none_iff {cs : List Char} :
    firstContainer? cs = none ↔ ∀ part, part <:+: cs → container? part = none := by
  constructor
  · intro h part hpart
    by_contra hne
    obtain ⟨v, hv⟩ := Option.ne_none_iff_exists'.mp hne
    exact firstContainer?_of_isInfix hpart hv h
  · intro h
    unfold firstContainer?
    rw [List.findSome?_eq_none_iff]
    intro rest hrest
    rw [List.findSome?_eq_none_iff]
    intro part hpart
    have hp : part <+: rest := (List.mem_inits _ _).mp hpart
    have hs : rest <:+ cs := (List.mem_tails _ _).mp hrest
    exact h part (hp.isInfix.trans hs.isInfix)

namespace Broken

variable {cs : List Char}

/-- Nothing that starts where a broken document starts is an object or array. -/
theorem container?_prefix (h : Broken cs) {p : List Char} (hp : p <+: cs) :
    container? p = none := by
  by_contra hne
  obtain ⟨v, hv⟩ := Option.ne_none_iff_exists'.mp hne
  obtain ⟨front, c, core, back, rfl, hf, -, ho, hcore, hbal⟩ := exists_core hv
  obtain ⟨d, hd, hdo⟩ := h.opener
  obtain ⟨q, rfl⟩ := hp
  have hfront : front = [] := by
    cases front with
    | nil => rfl
    | cons b front =>
      obtain rfl : b = d := by simpa using hd
      rw [not_isOpener_of_isBlank (hf b (by simp))] at hdo
      cases hdo
  subst hfront
  have hprefix : c :: core <+: [] ++ c :: core ++ back ++ q := ⟨back ++ q, by simp⟩
  have hcloses : Closes (c :: core) := by
    have hself := hbal []
    rwa [List.append_nil] at hself
  by_cases hwhole : c :: core = [] ++ c :: core ++ back ++ q
  · have hread := (container?_eq_some_iff.mp hcore).1
    rw [hwhole] at hread
    exact h.unread v hread
  · exact h.unclosed _ hprefix hwhole hcloses

theorem firstContainer?_eq_tail (h : Broken cs) : firstContainer? cs = firstContainer? cs.tail := by
  obtain ⟨c, hc, -⟩ := h.opener
  obtain ⟨rest, rfl⟩ := List.head?_eq_some_iff.mp hc
  have hnone : (c :: rest).inits.findSome? container? = none := by
    rw [List.findSome?_eq_none_iff]
    intro p hp
    exact h.container?_prefix ((List.mem_inits _ _).mp hp)
  rw [firstContainer?_cons, hnone]
  rfl

theorem firstFenced_blocks (h : Broken cs) : (firstFenced (Fence.blocks cs)).toOption = none := by
  have hnone : fenced? (String.ofList cs) = none := fenced?_eq_none (by simpa using h.unfenced)
  rwa [fenced?, String.toList_ofList, h.trimmed] at hnone

theorem ofTrimmed_of_tail (h : Broken cs) {v : Json} (hv : firstContainer? cs.tail = some v) :
    ofTrimmed cs = .ok ⟨v, .scanned⟩ := by
  rw [← h.firstContainer?_eq_tail, ← scan_toOption] at hv
  rw [ofTrimmed_of_scan hv, h.firstFenced_blocks]

theorem ofTrimmed_of_none (h : Broken cs) (hn : firstContainer? cs.tail = none) :
    ∃ u, ofTrimmed cs = .error (.unparsed u) := by
  obtain ⟨c, hc, -⟩ := h.opener
  obtain ⟨rest, rfl⟩ := List.head?_eq_some_iff.mp hc
  have hfenced := h.firstFenced_blocks
  have hscan := scan_toOption (c :: rest)
  rw [h.firstContainer?_eq_tail, hn] at hscan
  have hread := h.unread
  unfold ofTrimmed
  cases hf : firstFenced (Fence.blocks (c :: rest)) with
  | ok v => rw [hf] at hfenced; cases hfenced
  | error fenced =>
    cases hs : scan (c :: rest) with
    | ok v => rw [hs] at hscan; cases hscan
    | error scanned =>
      cases hr : Json.read (c :: rest) with
      | ok v => exact absurd hr (hread v)
      | error verbatim => exact ⟨_, rfl⟩

end Broken

/-- From a broken document the scan goes on to the brackets within it. The first object or array
that begins after the first character is extracted, however little of the document it is; only if
there is none, as when no further bracket opens, does extraction fail. -/
theorem extract_broken (response : String) (h : Broken response.toList) :
    (∀ v, firstContainer? response.toList.tail = some v →
      extract response = .ok ⟨v, .scanned⟩) ∧
    ((∃ u, extract response = .error (.unparsed u)) ↔
      ∀ part, part <:+: response.toList.tail → container? part = none) ∧
    ((∀ c ∈ response.toList.tail, ¬ Region.isOpener c) →
      ∃ u, extract response = .error (.unparsed u)) := by
  have hsome : ∀ v, firstContainer? response.toList.tail = some v →
      extract response = .ok ⟨v, .scanned⟩ := by
    intro v hv
    rw [extract, h.trimmed]
    exact h.ofTrimmed_of_tail hv
  have hnone : firstContainer? response.toList.tail = none →
      ∃ u, extract response = .error (.unparsed u) := by
    intro hn
    rw [extract, h.trimmed]
    exact h.ofTrimmed_of_none hn
  refine ⟨hsome, ?_, ?_⟩
  · rw [← firstContainer?_eq_none_iff]
    constructor
    · rintro ⟨u, hu⟩
      by_contra hne
      obtain ⟨v, hv⟩ := Option.ne_none_iff_exists'.mp hne
      rw [hsome v hv] at hu
      cases hu
    · exact hnone
  · intro ho
    apply hnone
    rw [firstContainer?_eq_none_iff]
    exact fun part hpart => container?_of_no_opener ho hpart

theorem broken_of_error {cs : List Char} {c : Char} {f : Json.Fault}
    (htrim : Text.trim cs = cs) (hfence : ¬ ['\x60', '\x60', '\x60'] <:+: cs)
    (hc : cs.head? = some c) (ho : Region.isOpener c)
    (hclosed : ∀ p ∈ cs.inits, p ≠ cs → Region.balanced? p ≠ some p)
    (hread : Json.read cs = .error f) : Broken cs where
  trimmed := htrim
  unfenced := hfence
  opener := ⟨c, hc, ho⟩
  unclosed := fun p hp hne => hclosed p ((List.mem_inits _ _).mpr hp) hne
  unread := fun v hv => by
    rw [hread] at hv
    cases hv

/-- An object that is cut off after one of its members. -/
theorem broken_cutOff : Broken "\x7b\"a\": [1]".toList :=
  broken_of_error (by decide) (by decide) rfl rfl (by decide) (by cbv)

theorem extract_broken_samples :
    (Broken "\x7b\"a\": [1]".toList ∧
      extract "\x7b\"a\": [1]" = .ok ⟨.array [.number (.integer 1)], .scanned⟩) ∧
    Broken "\x7b\"a\": 1".toList ∧ ∃ u, extract "\x7b\"a\": 1" = .error (.unparsed u) := by
  have hfirst : firstContainer? "\x7b\"a\": [1]".toList.tail =
      some (.array [.number (.integer 1)]) := by
    rw [← scan_toOption]
    cbv
  have hbroken : Broken "\x7b\"a\": 1".toList :=
    broken_of_error (by decide) (by decide) rfl rfl (by decide) (by cbv)
  have hplain : ∀ c ∈ "\x7b\"a\": 1".toList.tail, ¬ Region.isOpener c := by
    simp [Region.isOpener]
  exact ⟨⟨broken_cutOff, (extract_broken _ broken_cutOff).1 _ hfirst⟩, hbroken,
    (extract_broken _ hbroken).2.2 hplain⟩

/-- What is extracted from a broken document may be a part of it. -/
theorem extract_broken_fragment :
    ¬ ∀ response : String, Broken response.toList →
      ∃ u, extract response = .error (.unparsed u) := by
  intro h
  obtain ⟨u, hu⟩ := h _ broken_cutOff
  have hpart : extract "\x7b\"a\": [1]" = .ok ⟨.array [.number (.integer 1)], .scanned⟩ := by cbv
  cases hpart.symm.trans hu

end Elicit.Extraction

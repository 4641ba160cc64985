import Elicit.Proofs.Extraction.Fence
import Elicit.Proofs.Extraction.Reference
import Elicit.Proofs.Json.Rendering

/-! A response that is a document as a whole, and documents extracted again from their own
text. -/
namespace Elicit.Extraction

/-- The value of the first closed fenced block that is read as one. -/
def fenced? (response : String) : Option Json :=
  (firstFenced (Fence.blocks (Text.trim response.toList))).toOption

/-- What is extracted from a response that is read as the value. -/
def exact (response : String) (v : Json) : Extraction :=
  match fenced? response with
  | some w => ⟨w, .fenced⟩
  | none => ⟨v, .scanned⟩

theorem extract_of_read {response : String} {v : Json}
    (h : Json.read (Text.trim response.toList) = .ok v) (hv : v.isContainer) :
    extract response = .ok (exact response v) := by
  have hc := container?_eq_some_iff.mpr ⟨h, hv⟩
  rw [extract, ofTrimmed_of_scan (scan_of_isPrefix (List.prefix_refl _) hc), exact, fenced?]
  split <;> simp [*]

theorem exists_read_of_firstFenced {blocks : List (List Char)} {v : Json}
    (h : firstFenced blocks = .ok v) : ∃ cs, Json.read cs = .ok v := by
  have hs := firstFenced_toOption blocks
  rw [h] at hs
  obtain ⟨block, -, hb⟩ := List.exists_of_findSome?_eq_some hs.symm
  refine ⟨Text.trim block, ?_⟩
  cases hr : Json.read (Text.trim block) with
  | error f => rw [hr] at hb; cases hb
  | ok w => rw [hr] at hb; exact congrArg _ (Option.some.inj hb)

theorem exists_read_of_scan {cs : List Char} {v : Json} (h : scan cs = .ok v) :
    ∃ part, Json.read part = .ok v := by
  have hs := scan_toOption cs
  rw [h] at hs
  obtain ⟨rest, -, hr⟩ := List.exists_of_findSome?_eq_some hs.symm
  obtain ⟨part, -, hp⟩ := List.exists_of_findSome?_eq_some hr
  exact ⟨part, (container?_eq_some_iff.mp hp).1⟩

/-- Every document has been read from some text. -/
theorem exists_read_of_extract {response : String} {x : Extraction}
    (h : extract response = .ok x) : ∃ cs, Json.read cs = .ok x.document := by
  unfold extract ofTrimmed at h
  split_ifs at h
  split at h
  · cases h
    exact exists_read_of_firstFenced ‹_›
  · split at h
    · cases h
      exact exists_read_of_scan ‹_›
    · split at h
      · cases h
        exact ⟨_, ‹_›⟩
      · cases h

/-- A text between brackets is trimmed already. -/
theorem trim_brackets {c d : Char} (hc : c = '[' ∨ c = '{') (hd : d = ']' ∨ d = '}')
    (cs : List Char) : Text.trim (c :: cs ++ [d]) = c :: cs ++ [d] := by
  have hlast : (c :: cs ++ [d]).getLast? = some d := List.getLast?_concat
  have hcb : Text.isBlank c = false := by rcases hc with rfl | rfl <;> rfl
  have hdb : Text.isBlank d = false := by rcases hd with rfl | rfl <;> rfl
  exact Text.trim_eq_self rfl hlast hcb hdb

theorem trim_compactText {v : Json} (h : v.isContainer) :
    Text.trim v.compactText = v.compactText := by
  cases v with
  | array items => exact trim_brackets (.inl rfl) (.inl rfl) _
  | object members => exact trim_brackets (.inr rfl) (.inr rfl) _
  | _ => cases h

theorem trim_prettyText {v : Json} (h : v.isContainer) (level : Nat) :
    Text.trim (v.prettyText level) = v.prettyText level := by
  cases v with
  | array items =>
    rcases items with - | ⟨item, items⟩
    · exact trim_brackets (.inl rfl) (.inl rfl) []
    · rw [Json.prettyText]
      · exact trim_brackets (.inl rfl) (.inl rfl) _
      · simp
  | object members =>
    rcases members with - | ⟨member, members⟩
    · exact trim_brackets (.inr rfl) (.inr rfl) []
    · rw [Json.prettyText]
      · exact trim_brackets (.inr rfl) (.inr rfl) _
      · simp
  | _ => cases h

/-- The compact and the indented text of an extracted document are read as that document. -/
theorem read_rendering {response : String} {x : Extraction} (h : extract response = .ok x)
    (hc : x.document.isContainer) (hx : ∀ d ∈ x.document.doubles, Json.RoundTrips d)
    {rendering : String} (hr : rendering = x.document.compact ∨ rendering = x.document.pretty) :
    Json.read (Text.trim rendering.toList) = .ok x.document := by
  obtain ⟨cs, hcs⟩ := exists_read_of_extract h
  have hfit := Json.readable_of_read hcs
  rcases hr with rfl | rfl
  · rw [Json.compact, String.toList_ofList, trim_compactText hc]
    exact (Json.spells_compact hfit hx).read
  · rw [Json.pretty, String.toList_ofList, trim_prettyText hc]
    exact (Json.spells_pretty hfit hx 0).read

/-- A response without a fence has no fenced block. -/
theorem fenced?_eq_none {response : String}
    (h : ¬ ['\x60', '\x60', '\x60'] <:+: response.toList) : fenced? response = none := by
  rw [fenced?, Fence.blocks_eq_nil fun hi => h (hi.trans (Text.trim_isInfix _))]
  rfl

/-- An array of one number is extracted as itself. -/
theorem extract_singleton (cs : List Char) (n : Json.Numeral) {x : Json.Number}
    (hcs : ∀ c ∈ cs, Json.isNumeric c) (hn : Json.Reaches .start cs ⟨[], .numeral n⟩)
    (hx : n.finish = .ok x) :
    extract (String.ofList ('[' :: cs ++ [']'])) = .ok ⟨.array [.number x], .scanned⟩ := by
  have hread := Json.read_singleton (Json.spells_number hcs (Json.read_number hn hx) 1)
  have hfence : ¬ ['\x60', '\x60', '\x60'] <:+: (String.ofList ('[' :: cs ++ [']'])).toList := by
    intro hi
    have hmem := hi.subset (List.mem_cons_self (a := '\x60'))
    simp only [String.toList_ofList, List.cons_append, List.mem_cons, List.mem_append] at hmem
    rcases hmem with h | h | h | h
    · cases h
    · cases hcs _ h
    · cases h
    · cases h
  rw [extract_of_read (v := .array [.number x]) _ rfl, exact, fenced?_eq_none hfence]
  rw [String.toList_ofList, trim_brackets (.inl rfl) (.inl rfl), hread]

/-- A response that is an object or array as a whole is extracted as its value, and so are both
texts of a document that has been extracted, if its binary64 numbers are read back from them; but
the value of a fenced block within a string goes first. Without a fence there is none. -/
theorem extract_exact (response : String) :
    (∀ v, Json.read (Text.trim response.toList) = .ok v → v.isContainer →
      extract response = .ok (exact response v)) ∧
    (∀ x, extract response = .ok x → x.document.isContainer →
      (∀ d ∈ x.document.doubles, Json.RoundTrips d) →
      extract x.document.compact = .ok (exact x.document.compact x.document) ∧
      extract x.document.pretty = .ok (exact x.document.pretty x.document)) ∧
    (¬ ['\x60', '\x60', '\x60'] <:+: response.toList → ∀ v, exact response v = ⟨v, .scanned⟩) := by
  refine ⟨fun v hv hc => extract_of_read hv hc, ?_, ?_⟩
  · intro x h hc hx
    exact ⟨extract_of_read (read_rendering h hc hx (.inl rfl)) hc,
      extract_of_read (read_rendering h hc hx (.inr rfl)) hc⟩
  · intro hfence v
    rw [exact, fenced?_eq_none hfence]

theorem extract_exact_half :
    ∃ x v, v = .array [.number (.double x)] ∧ Json.RoundTrips x ∧
      Json.read (Text.trim "[0.5]".toList) = .ok v ∧ v.isContainer ∧
      extract "[0.5]" = .ok ⟨v, .scanned⟩ ∧ extract v.compact = .ok (exact v.compact v) ∧
      extract v.pretty = .ok (exact v.pretty v) := by
  have hn : Json.Reaches .start "0.5".toList ⟨[], .numeral (.fraction ⟨false, 5, -1⟩)⟩ := by cbv
  have hx : Json.Numeral.finish (.fraction ⟨false, 5, -1⟩) =
      .ok (.double ⟨false, 4503599627370496, -53⟩) := by decide +kernel
  have htext : (Binary64.mk false 4503599627370496 (-53)).text .mixed = "0.5".toList := by
    decide +kernel
  have hround : Json.RoundTrips ⟨false, 4503599627370496, -53⟩ := by
    rw [Json.RoundTrips, htext]
    exact Json.read_number hn hx
  have hread : Json.read (Text.trim "[0.5]".toList) =
      .ok (.array [.number (.double ⟨false, 4503599627370496, -53⟩)]) :=
    Json.read_singleton (Json.spells_number (by simp [Json.isNumeric]) (Json.read_number hn hx) 1)
  obtain ⟨hexact, hagain, hplain⟩ := extract_exact "[0.5]"
  have hfirst := hexact _ hread rfl
  rw [hplain (by decide)] at hfirst
  have hboth := hagain _ hfirst rfl fun d hd => by
    rw [List.mem_singleton.mp hd]
    exact hround
  dsimp only at hboth
  exact ⟨_, _, rfl, hround, hread, rfl, hfirst, hboth⟩

/-- A fenced block within a string takes the place of the document around it; and a binary64 number
may be read from its own text as its neighbour. -/
theorem extract_not_exact :
    (¬ ∀ response v, Json.read (Text.trim response.toList) = .ok v → v.isContainer →
      ∃ stage, extract response = .ok ⟨v, stage⟩) ∧
    (¬ ∀ response x, extract response = .ok x → x.document.isContainer →
      ∃ stage, extract x.document.compact = .ok ⟨x.document, stage⟩) := by
  constructor
  · intro h
    obtain ⟨stage, hstage⟩ := h "\x7b\"a\": \"```[1]```\"\x7d"
      (.object [("a", .string "```[1]```")]) (by cbv) rfl
    have hfenced : extract "\x7b\"a\": \"```[1]```\"\x7d" =
        .ok ⟨.array [.number (.integer 1)], .fenced⟩ := by cbv
    cases hfenced.symm.trans hstage
  · intro h
    have hfirst : extract "[1e-24]" =
        .ok ⟨.array [.number (.double ⟨false, 5444517870735016, -132⟩)], .scanned⟩ :=
      extract_singleton "1e-24".toList (.exponent ⟨false, 1, 0⟩ true 24)
        (by simp [Json.isNumeric]) rfl (by decide +kernel)
    have hcompact : Json.compact (.array [.number (.double ⟨false, 5444517870735016, -132⟩)]) =
        "[1.0000000000000001e-24]" := by decide +kernel
    have hagain : extract "[1.0000000000000001e-24]" =
        .ok ⟨.array [.number (.double ⟨false, 5444517870735015, -132⟩)], .scanned⟩ :=
      extract_singleton "1.0000000000000001e-24".toList
        (.exponent ⟨false, 10000000000000001, -16⟩ true 24) (by simp [Json.isNumeric]) (by cbv)
        (by decide +kernel)
    obtain ⟨stage, hstage⟩ := h _ _ hfirst rfl
    rw [hcompact, hagain] at hstage
    cases hstage

end Elicit.Extraction

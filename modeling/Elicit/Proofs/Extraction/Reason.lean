import Elicit.Extraction.Basic
import Elicit.Proofs.Extraction.Fence
import Elicit.Proofs.Extraction.Region
import Elicit.Proofs.Json.Place
import Mathlib.Algebra.Group.Action.Defs
import Mathlib.Algebra.Order.BigOperators.Group.List

/-! How much is told of a response without a document: a fault for each closed fenced block, two
more faults and the beginning of the response. -/
namespace Elicit.Extraction

theorem firstFenced_eq_error_iff {blocks : List (List Char)} {faults : List Json.Fault} :
    firstFenced blocks = .error faults ↔
      List.Forall₂ (fun block f => Json.read (Text.trim block) = .error f) blocks faults := by
  induction blocks generalizing faults with
  | nil =>
    rw [firstFenced, List.forall₂_nil_left_iff, Except.error.injEq, eq_comm]
  | cons block blocks ih =>
    rw [firstFenced]
    cases hread : Json.read (Text.trim block) with
    | ok v =>
      refine iff_of_false (fun h => by cases h) fun h => ?_
      obtain ⟨f, -, hf, -⟩ := List.forall₂_cons_left_iff.mp h
      rw [hread] at hf
      cases hf
    | error f =>
      rw [List.forall₂_cons_left_iff]
      constructor
      · intro h
        cases hrest : firstFenced blocks with
        | ok v => rw [hrest] at h; cases h
        | error fs =>
          rw [hrest] at h
          cases h
          exact ⟨f, fs, hread, ih.mp hrest, rfl⟩
      · rintro ⟨f', fs, hf, hfs, rfl⟩
        cases hread.symm.trans hf
        dsimp only
        rw [ih.mpr hfs]
        rfl

theorem exists_block_of_firstFenced {blocks : List (List Char)} {faults : List Json.Fault}
    (h : firstFenced blocks = .error faults) {f : Json.Fault} (hf : f ∈ faults) :
    ∃ block ∈ blocks, Json.read (Text.trim block) = .error f := by
  obtain ⟨hlength, hread⟩ := List.forall₂_iff_get.mp (firstFenced_eq_error_iff.mp h)
  obtain ⟨i, rfl⟩ := List.get_of_mem hf
  have hi : i.1 < blocks.length := by
    rw [hlength]
    exact i.2
  exact ⟨blocks.get ⟨i, hi⟩, List.get_mem blocks ⟨i, hi⟩, hread i hi i.2⟩

theorem exists_region_of_scan {cs : List Char} {f : Json.Fault}
    (h : scan cs = .error (some f)) : ∃ region, region <:+: cs ∧ Json.read region = .error f := by
  induction cs generalizing f with
  | nil => cases h
  | cons c cs ih =>
    rw [scan] at h
    split at h
    · obtain ⟨region, hregion, hf⟩ := ih h
      exact ⟨region, List.infix_cons hregion, hf⟩
    · rename_i region hregion
      split_ifs at hregion
      cases hread : Json.read region with
      | ok v => rw [hread] at h; cases h
      | error f' =>
        rw [hread] at h
        -- of several faults the first is kept, which is that of this region
        cases hrest : scan cs with
        | ok v => rw [hrest] at h; cases h
        | error e =>
          rw [hrest] at h
          cases h
          exact ⟨region, (Region.takeFrom_isPrefix hregion).isInfix, hread⟩

theorem scan_of_no_opener {cs : List Char} (h : ∀ c ∈ cs, ¬ Region.isOpener c) :
    scan cs = .error none := by
  induction cs with
  | nil => rfl
  | cons c cs ih =>
    rw [scan, if_neg (h c List.mem_cons_self)]
    exact ih fun d hd => h d (List.mem_cons_of_mem c hd)

/-- A response yields no document just when no stage does, and then each stage's fault is told. -/
theorem extract_eq_unparsed_iff {response : String} {u : Unparsed} :
    extract response = .error (.unparsed u) ↔
      Text.trim response.toList ≠ [] ∧
      firstFenced (Fence.blocks (Text.trim response.toList)) = .error u.fenced ∧
      scan (Text.trim response.toList) = .error u.scanned ∧
      Json.read (Text.trim response.toList) = .error u.verbatim ∧
      u.response = Text.trim response.toList := by
  unfold extract ofTrimmed
  generalize Text.trim response.toList = cs
  obtain ⟨fenced, scanned, verbatim, rest⟩ := u
  rw [Ne, ← List.isEmpty_iff]
  split_ifs with he
  · simp [he]
  cases firstFenced (Fence.blocks cs) with
  | ok v => simp
  | error faults =>
    cases scan cs with
    | ok v => simp
    | error fault =>
      cases Json.read cs with
      | ok v => simp
      | error f => simp [he, eq_comm]

theorem length_fenced_of_extract {response : String} {u : Unparsed}
    (h : extract response = .error (.unparsed u)) :
    u.fenced.length = (Fence.blocks (Text.trim response.toList)).length := by
  obtain ⟨-, hfenced, -⟩ := extract_eq_unparsed_iff.mp h
  exact (firstFenced_eq_error_iff.mp hfenced).length_eq.symm

/-- Whatever stage a fault is from, it is told in a number of bytes that depends on the digits of
a place in the response only. -/
structure Told (d : Nat) (u : Unparsed) : Prop where
  fenced : ∀ f ∈ u.fenced, f.message.utf8ByteSize ≤ 79 + 2 * d
  scanned : u.scanned.message.utf8ByteSize ≤ 79 + 2 * d
  verbatim : u.verbatim.message.utf8ByteSize ≤ 79 + 2 * d

theorem told_of_extract {response : String} {u : Unparsed} {d : Nat}
    (h : extract response = .error (.unparsed u)) (hd : response.utf8ByteSize + 1 < 10 ^ d) :
    Told d u := by
  obtain ⟨-, hfenced, hscanned, hverbatim, -⟩ := extract_eq_unparsed_iff.mp h
  have htrim := Text.trim_isInfix response.toList
  -- every text that is read is a part of the response, so no place in it has more digits
  have hpart : ∀ {part f}, part <:+: Text.trim response.toList → Json.read part = .error f →
      f.message.utf8ByteSize ≤ 79 + 2 * d := by
    intro part f hpart hread
    have hsize := Text.utf8ByteSize_le_of_isInfix (hpart.trans htrim)
    rw [String.ofList_toList] at hsize
    exact Json.utf8ByteSize_faultMessage_le hread (by omega)
  constructor
  · intro f hf
    obtain ⟨block, hblock, hread⟩ := exists_block_of_firstFenced hfenced hf
    exact hpart ((Text.trim_isInfix block).trans (Fence.isInfix_of_mem_blocks hblock)) hread
  · cases hs : u.scanned with
    | none =>
      have hnone : (ScanFault.message none).utf8ByteSize = 38 := by decide
      omega
    | some f =>
      rw [hs] at hscanned
      obtain ⟨region, hregion, hread⟩ := exists_region_of_scan hscanned
      exact hpart hregion hread
  · exact hpart (List.infix_refl _) hverbatim

theorem le_utf8ByteSize_scanFault (s : ScanFault) : 31 ≤ s.message.utf8ByteSize := by
  cases s with
  | none => decide
  | some f => exact Json.le_utf8ByteSize_faultMessage f

/-- The bytes of the stages are those of the faults, and 16 more for each fenced block. -/
theorem utf8ByteSize_stages (u : Unparsed) : u.stages.utf8ByteSize =
    (u.fenced.map fun f => f.message.utf8ByteSize + 16).sum + u.scanned.message.utf8ByteSize +
      u.verbatim.message.utf8ByteSize + 26 := by
  have hentry : ∀ (s : Stage) (m : String), (s.text ++ ": " ++ m).utf8ByteSize + 2 =
      s.text.utf8ByteSize + 4 + m.utf8ByteSize := by
    intro s m
    rw [String.utf8ByteSize_append, String.utf8ByteSize_append,
      show ": ".utf8ByteSize = 2 by decide]
    omega
  have hfenced : Stage.fenced.text.utf8ByteSize + 4 = 16 := by decide
  have hscanned : Stage.scanned.text.utf8ByteSize = 12 := by decide
  have hverbatim : Stage.verbatim.text.utf8ByteSize = 8 := by decide
  have hseparator : "; ".utf8ByteSize = 2 := by decide
  have hentries : u.fenced.map (fun f => Stage.fenced.text ++ ": " ++ f.message) ++
      [Stage.scanned.text ++ ": " ++ u.scanned.message,
        Stage.verbatim.text ++ ": " ++ u.verbatim.message] ≠ [] := by simp
  -- counted with a separator after each entry, which is one too many
  have hsum := Text.utf8ByteSize_intercalate "; " hentries
  rw [hseparator, List.map_append, List.sum_append, List.map_map] at hsum
  simp only [Function.comp_def, hentry, hfenced, hscanned, hverbatim, List.map_cons, List.map_nil,
    List.sum_cons, List.sum_nil] at hsum
  simp only [Nat.add_comm _ 16]
  unfold Unparsed.stages
  dsimp only
  omega

theorem utf8ByteSize_reason (u : Unparsed) : u.reason.utf8ByteSize =
    u.stages.utf8ByteSize + (Text.excerpt quotedLimit (String.ofList u.response)).utf8ByteSize +
      47 := by
  have hopening : "Could not extract JSON (".utf8ByteSize = 24 := by decide
  have hpreview : "). Response preview: \"".utf8ByteSize = 22 := by decide
  have hquote : "\"".utf8ByteSize = 1 := by decide
  unfold Unparsed.reason
  rw [String.utf8ByteSize_append, String.utf8ByteSize_append, String.utf8ByteSize_append,
    String.utf8ByteSize_append, hopening, hpreview, hquote]
  omega

theorem le_utf8ByteSize_stages (u : Unparsed) :
    88 + 47 * u.fenced.length ≤ u.stages.utf8ByteSize := by
  have hscanned := le_utf8ByteSize_scanFault u.scanned
  have hverbatim := Json.le_utf8ByteSize_faultMessage u.verbatim
  have hfenced : (u.fenced.map fun f => f.message.utf8ByteSize + 16).length • 47 ≤
      (u.fenced.map fun f => f.message.utf8ByteSize + 16).sum := by
    refine List.card_nsmul_le_sum _ _ fun k hk => ?_
    obtain ⟨f, -, rfl⟩ := List.mem_map.mp hk
    have hf := Json.le_utf8ByteSize_faultMessage f
    omega
  rw [List.length_map, smul_eq_mul, Nat.mul_comm] at hfenced
  rw [utf8ByteSize_stages]
  omega

theorem utf8ByteSize_stages_le {u : Unparsed} {d : Nat} (h : Told d u) :
    u.stages.utf8ByteSize ≤ 184 + 4 * d + (95 + 2 * d) * u.fenced.length := by
  have hscanned := h.scanned
  have hverbatim := h.verbatim
  have hfenced : (u.fenced.map fun f => f.message.utf8ByteSize + 16).sum ≤
      (u.fenced.map fun f => f.message.utf8ByteSize + 16).length • (95 + 2 * d) := by
    refine List.sum_le_card_nsmul _ _ fun k hk => ?_
    obtain ⟨f, hf, rfl⟩ := List.mem_map.mp hk
    have hf' := h.fenced f hf
    omega
  rw [List.length_map, smul_eq_mul, Nat.mul_comm] at hfenced
  rw [utf8ByteSize_stages]
  omega

/-- The reason is the stages with at least one and at most 200 characters of the response. -/
theorem reason_bounds {response : String} {u : Unparsed} {k : Nat}
    (h : extract response = .error (.unparsed u))
    (hk : ∀ c ∈ response.toList, Text.octetCount c ≤ k) :
    u.stages.utf8ByteSize + 47 < u.reason.utf8ByteSize ∧
      u.reason.utf8ByteSize ≤ u.stages.utf8ByteSize + 50 + 200 * k := by
  obtain ⟨hne, -, -, -, hresponse⟩ := extract_eq_unparsed_iff.mp h
  have htrim := (Text.trim_isInfix response.toList).subset
  -- only the excerpt depends on how many bytes the characters take
  have hmost : (Text.excerpt quotedLimit (String.ofList u.response)).utf8ByteSize ≤
      k * 200 + 3 := by
    refine Text.utf8ByteSize_excerpt_le (fun c hc => ?_) 200
    rw [String.toList_ofList, hresponse] at hc
    exact hk c (htrim hc)
  have hleast : 0 < (Text.excerpt quotedLimit (String.ofList u.response)).utf8ByteSize := by
    rw [Nat.pos_iff_ne_zero, Ne, String.utf8ByteSize_eq_zero_iff]
    refine Text.excerpt_ne_empty fun he => hne ?_
    rw [← hresponse, ← String.toList_ofList (l := u.response), he]
    rfl
  rw [utf8ByteSize_reason]
  omega

/-- A text with the number of closed fenced blocks, none of which is a document. -/
def refusedBlocks : Nat → List Char
  | 0 => ['!']
  | n + 1 => Fence.marker ++ '!' :: (Fence.marker ++ refusedBlocks n)

theorem mem_refusedBlocks {n : Nat} {c : Char} (h : c ∈ refusedBlocks n) :
    c = '\x60' ∨ c = '!' := by
  induction n with
  | zero => exact .inr (List.mem_singleton.mp h)
  | succ n ih =>
    simp only [refusedBlocks, List.cons_append, List.nil_append, List.mem_cons] at h
    grind

theorem blocks_refusedBlocks (n : Nat) :
    Fence.blocks (refusedBlocks n) = List.replicate n ['!'] := by
  induction n with
  | zero => exact Fence.blocks_eq_nil (by decide)
  | succ n ih =>
    -- the mark is no part of a hint, so the fence's own line is not left out
    have hbody : Fence.body ('!' :: (Fence.marker ++ refusedBlocks n)) =
        ['!'] ++ Fence.marker ++ refusedBlocks n :=
      Fence.body_of_not_hint (c := '!') List.mem_cons_self (by decide) (by decide)
    have hnothing : ¬ Fence.marker <:+: [] := by decide
    rw [List.replicate_succ, ← ih]
    exact Fence.blocks_cons hnothing (by decide) hbody (by decide) (by decide)

/-- The failure of a response that has nothing but exclamation marks where a document could be. -/
def refusal (n : Nat) : Unparsed :=
  ⟨List.replicate n ⟨.expectedValue, ⟨1, 1⟩⟩, none, ⟨.expectedValue, ⟨1, 1⟩⟩, refusedBlocks n⟩

theorem extract_refusedBlocks (n : Nat) :
    extract (String.ofList (refusedBlocks n)) = .error (.unparsed (refusal n)) := by
  have hblank : ∀ c ∈ refusedBlocks n, Text.isBlank c = false := by
    intro c hc
    rcases mem_refusedBlocks hc with rfl | rfl <;> decide
  have htrim : Text.trim (refusedBlocks n) = refusedBlocks n := by
    have h : Text.trim ([] ++ refusedBlocks n ++ []) = refusedBlocks n :=
      Text.trim_blanks (by simp) (by simp) hblank
    rwa [List.nil_append, List.append_nil] at h
  have hblock : Json.read (Text.trim ['!']) = .error ⟨.expectedValue, ⟨1, 1⟩⟩ := rfl
  rw [extract_eq_unparsed_iff, String.toList_ofList, htrim]
  refine ⟨?_, ?_, ?_, ?_, rfl⟩
  · cases n <;> exact List.cons_ne_nil _ _
  · rw [blocks_refusedBlocks, firstFenced_eq_error_iff, List.forall₂_iff_get]
    refine ⟨by simp [refusal], fun i hi hi' => ?_⟩
    simp [refusal, hblock]
  · refine scan_of_no_opener fun c hc => ?_
    rcases mem_refusedBlocks hc with rfl | rfl <;> decide
  · cases n <;> rfl

/-- A few fenced blocks of ASCII text do no harm. -/
theorem reason_lt_of_few_blocks {response : String} {u : Unparsed}
    (h : extract response = .error (.unparsed u))
    (hfew : (Fence.blocks (Text.trim response.toList)).length ≤ 4)
    (hascii : ∀ c ∈ response.toList, Text.octetCount c ≤ 1)
    (hd : response.utf8ByteSize + 1 < 10 ^ 9) : u.reason.utf8ByteSize < 1000 := by
  have hstages := utf8ByteSize_stages_le (told_of_extract h hd)
  have hreason := (reason_bounds h hascii).2
  rw [length_fenced_of_extract h] at hstages
  omega

/-- There may be any number of fenced blocks, and each of them is told of. -/
theorem reason_unbounded (bound : Nat) : ∃ response u,
    extract response = .error (.unparsed u) ∧ bound < u.stages.utf8ByteSize ∧
      bound < u.reason.utf8ByteSize := by
  have hstages := le_utf8ByteSize_stages (refusal bound)
  have hlength : (refusal bound).fenced.length = bound := List.length_replicate
  refine ⟨_, refusal bound, extract_refusedBlocks bound, ?_, ?_⟩
  · omega
  · rw [utf8ByteSize_reason]
    omega

/-- The reason is shorter than a thousand bytes if there is room for an entry of each closed fenced
block beside two more faults and an excerpt of the response. An entry takes between 47 and some
hundred bytes, whatever the block, so it depends on how many blocks there are. -/
theorem reason_lt_thousand_iff {response : String} {u : Unparsed} {d k : Nat}
    (h : extract response = .error (.unparsed u)) (hd : response.utf8ByteSize + 1 < 10 ^ d)
    (hk : ∀ c ∈ response.toList, Text.octetCount c ≤ k) :
    let n := (Fence.blocks (Text.trim response.toList)).length
    (u.reason.utf8ByteSize < 1000 ↔
      (u.fenced.map fun f => f.message.utf8ByteSize + 16).sum + u.scanned.message.utf8ByteSize +
        u.verbatim.message.utf8ByteSize +
        (Text.excerpt quotedLimit (String.ofList u.response)).utf8ByteSize < 927) ∧
    u.fenced.length = n ∧ 88 + 47 * n ≤ u.stages.utf8ByteSize ∧
    u.stages.utf8ByteSize ≤ 184 + 4 * d + (95 + 2 * d) * n ∧
    u.stages.utf8ByteSize + 47 < u.reason.utf8ByteSize ∧
    u.reason.utf8ByteSize ≤ u.stages.utf8ByteSize + 50 + 200 * k := by
  intro n
  have hn : u.fenced.length = n := length_fenced_of_extract h
  have hleast := le_utf8ByteSize_stages u
  have hmost := utf8ByteSize_stages_le (told_of_extract h hd)
  rw [hn] at hleast hmost
  refine ⟨?_, hn, hleast, hmost, reason_bounds h hk⟩
  rw [utf8ByteSize_reason, utf8ByteSize_stages]
  constructor <;> intro hlt <;> omega

/-- A response without a block keeps to a thousand bytes, one with twenty short blocks does not. -/
theorem reason_lt_thousand_iff_samples :
    extract "!" = .error (.unparsed (refusal 0)) ∧ (refusal 0).reason.utf8ByteSize < 1000 ∧
      extract (String.ofList (refusedBlocks 20)) = .error (.unparsed (refusal 20)) ∧
      ¬ (refusal 20).reason.utf8ByteSize < 1000 := by
  have hascii : ∀ n, ∀ c ∈ (String.ofList (refusedBlocks n)).toList, Text.octetCount c ≤ 1 := by
    intro n c hc
    rw [String.toList_ofList] at hc
    rcases mem_refusedBlocks hc with rfl | rfl <;> decide
  have hnone := extract_refusedBlocks 0
  have htwenty := extract_refusedBlocks 20
  have hd : (String.ofList (refusedBlocks 0)).utf8ByteSize + 1 < 10 ^ 1 := by decide
  have hd' : (String.ofList (refusedBlocks 20)).utf8ByteSize + 1 < 10 ^ 3 := by decide +kernel
  obtain ⟨-, hn, -, hstages, -, hreason⟩ := reason_lt_thousand_iff hnone hd (hascii 0)
  obtain ⟨-, hn', hstages', -, hreason', -⟩ := reason_lt_thousand_iff htwenty hd' (hascii 20)
  have hlength : (refusal 20).fenced.length = 20 := rfl
  have hlength' : (refusal 0).fenced.length = 0 := rfl
  exact ⟨hnone, by omega, htwenty, by omega⟩

end Elicit.Extraction

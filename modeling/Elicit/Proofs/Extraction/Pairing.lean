import Elicit.Proofs.Extraction.Fence
import Mathlib.Data.List.Sort

/-! Blocks by position. The fences of a text, found from left to right without overlap, are paired in
turn; a block is what stands between the two fences of a pair, without the line of the first if that
is a hint. A hint holds no backquote, so leaving its line out moves no fence. -/
namespace Elicit.Fence

/-- Where the fences of a text begin, from left to right. -/
def positions : List Char → List Nat
  | '\x60' :: '\x60' :: '\x60' :: rest => 0 :: (positions rest).map (· + 3)
  | [] => []
  | _ :: cs => (positions cs).map (· + 1)

/-- The fences that are found from left to right: three backquotes each, none in another one, and
wherever else three backquotes stand a fence has begun that is not over yet. -/
structure LeftToRight (text : List Char) (fences : List Nat) : Prop where
  marked : ∀ f ∈ fences, marker <+: text.drop f
  apart : fences.Pairwise fun f g => f + 3 ≤ g
  covered : ∀ i, marker <+: text.drop i → ∃ f ∈ fences, f ≤ i ∧ i < f + 3

theorem leftToRight_positions (text : List Char) : LeftToRight text (positions text) := by
  fun_induction positions text with
  | case1 rest ih =>
    refine ⟨?_, ?_, ?_⟩
    · intro f hf
      rcases List.mem_cons.mp hf with rfl | hf
      · exact ⟨rest, rfl⟩
      · obtain ⟨g, hg, rfl⟩ := List.mem_map.mp hf
        exact ih.marked g hg
    · rw [List.pairwise_cons, List.pairwise_map]
      constructor
      · intro g hg
        obtain ⟨f, -, rfl⟩ := List.mem_map.mp hg
        omega
      · exact ih.apart.imp fun h => by omega
    · intro i hi
      by_cases hfirst : i < 3
      · exact ⟨0, List.mem_cons_self, Nat.zero_le i, by omega⟩
      · obtain ⟨j, rfl⟩ := Nat.exists_eq_add_of_le' (Nat.le_of_not_lt hfirst)
        obtain ⟨f, hf, hle, hlt⟩ := ih.covered j hi
        have hmem : f + 3 ∈ (positions rest).map (· + 3) := List.mem_map_of_mem hf
        exact ⟨f + 3, List.mem_cons_of_mem 0 hmem, by omega, by omega⟩
  | case2 =>
    refine ⟨fun _ hf => absurd hf List.not_mem_nil, .nil, fun i hi => ?_⟩
    rw [List.drop_nil] at hi
    exact absurd (List.prefix_nil.mp hi) (by decide)
  | case3 c cs hno ih =>
    refine ⟨?_, ?_, ?_⟩
    · intro f hf
      obtain ⟨g, hg, rfl⟩ := List.mem_map.mp hf
      exact ih.marked g hg
    · rw [List.pairwise_map]
      exact ih.apart.imp fun h => by omega
    · intro i hi
      cases i with
      | zero =>
        obtain ⟨rest, hrest⟩ := hi
        cases hrest
        exact absurd rfl (hno rest rfl)
      | succ j =>
        obtain ⟨f, hf, hle, hlt⟩ := ih.covered j hi
        exact ⟨f + 1, List.mem_map_of_mem hf, by omega, by omega⟩

theorem LeftToRight.add_three_le {text : List Char} {fs : List Nat} (h : LeftToRight text fs)
    {f g : Nat} (hf : f ∈ fs) (hg : g ∈ fs) (hlt : f < g) : f + 3 ≤ g := by
  obtain ⟨i, hi, rfl⟩ := List.mem_iff_getElem.mp hf
  obtain ⟨j, hj, rfl⟩ := List.mem_iff_getElem.mp hg
  have hapart := List.pairwise_iff_getElem.mp h.apart
  rcases lt_trichotomy i j with hij | rfl | hji
  · exact hapart i j hi hj hij
  · omega
  · have hback := hapart j i hj hi hji
    omega

/-- A fence of one list is in the other, since what covers it there would be covered in turn by an
earlier fence of its own list. -/
theorem LeftToRight.subset {text : List Char} {fs gs : List Nat} (h : LeftToRight text fs)
    (h' : LeftToRight text gs) : ∀ f ∈ fs, f ∈ gs := by
  intro f
  induction f using Nat.strong_induction_on with
  | _ f ih =>
    intro hf
    obtain ⟨g, hg, hle, hlt⟩ := h'.covered f (h.marked f hf)
    rcases hle.eq_or_lt with rfl | hbefore
    · exact hg
    · obtain ⟨e, he, hle', hlt'⟩ := h.covered g (h'.marked g hg)
      have hef : e < f := by omega
      have heg : ¬ e < g := by
        intro heg
        have hapart := h'.add_three_le (ih e hef he) hg heg
        omega
      have hboth : e = g := by omega
      have hapart := h.add_three_le he hf hef
      omega

theorem LeftToRight.unique {text : List Char} {fs gs : List Nat} (h : LeftToRight text fs)
    (h' : LeftToRight text gs) : fs = gs := by
  have hlt : fs.Pairwise (· < ·) := h.apart.imp fun hfg => by omega
  have hlt' : gs.Pairwise (· < ·) := h'.apart.imp fun hfg => by omega
  exact hlt.eq_of_mem_iff hlt' fun f => ⟨h.subset h' f, h'.subset h f⟩

theorem positions_of_split?_none {cs : List Char} (h : split? cs = none) : positions cs = [] := by
  fun_induction split? cs with
  | case1 rest => cases h
  | case2 => rfl
  | case3 c cs hno ih =>
    rw [positions, ih (Option.map_eq_none_iff.mp h)]
    · rfl
    · exact hno

theorem positions_of_split? {cs before after : List Char} (h : split? cs = some (before, after)) :
    positions cs =
      before.length :: (positions after).map (· + (before.length + 3)) := by
  fun_induction split? cs generalizing before after with
  | case1 rest =>
    cases h
    rfl
  | case2 => cases h
  | case3 c cs hno ih =>
    obtain ⟨⟨b, a⟩, hs, hp⟩ := Option.map_eq_some_iff.mp h
    cases hp
    rw [positions, ih hs]
    · simp only [List.map_cons, List.map_map, List.length_cons, List.cons.injEq, true_and]
      refine List.map_congr_left fun f _ => ?_
      rw [Function.comp_apply]
      omega
    · exact hno

theorem not_infix_cons {c : Char} {cs : List Char} (hcs : ¬ marker <:+: cs)
    (hno : ∀ rest, c = '\x60' → cs = '\x60' :: '\x60' :: rest → False) :
    ¬ marker <:+: c :: cs := by
  intro hi
  rcases List.infix_cons_iff.mp hi with ⟨tail, htail⟩ | hi
  · simp only [List.cons_append, List.nil_append, List.cons.injEq] at htail
    exact hno tail htail.1.symm htail.2.symm
  · exact hcs hi

theorem not_infix_of_split?_none {cs : List Char} (h : split? cs = none) : ¬ marker <:+: cs := by
  fun_induction split? cs with
  | case1 rest => cases h
  | case2 => decide
  | case3 c cs hno ih => exact not_infix_cons (ih (Option.map_eq_none_iff.mp h)) hno

/-- Where a text is split there is no fence before, not even in part. -/
theorem split?_before {cs before after : List Char} (h : split? cs = some (before, after)) :
    ¬ marker <:+: before ∧ before.getLast? ≠ some '\x60' := by
  fun_induction split? cs generalizing before after with
  | case1 rest =>
    cases h
    decide
  | case2 => cases h
  | case3 c cs hno ih =>
    obtain ⟨⟨b, a⟩, hs, hp⟩ := Option.map_eq_some_iff.mp h
    cases hp
    obtain ⟨hb, hlast⟩ := ih hs
    have hcs : b ++ marker ++ after = cs := split?_eq_some hs
    constructor
    · refine not_infix_cons hb fun tail hc htail => hno (tail ++ marker ++ after) hc ?_
      rw [← hcs, htail]
      rfl
    · intro hl
      cases b with
      | nil =>
        cases hl
        exact hno _ rfl hcs.symm
      | cons d b =>
        rw [List.getLast?_cons_cons] at hl
        exact hlast hl

/-- How much of the text between two fences is the line of the first: the line with its end, if it
does end there and holds nothing but a hint. -/
def hintLength (between : List Char) : Nat :=
  let line := between.takeWhile (· ≠ '\n')
  if '\n' ∈ between ∧ (Text.trim line).all isHintChar then line.length + 1 else 0

theorem hintLength_line {line : List Char} (hline : ∀ c ∈ line, c ≠ '\n') (rest : List Char) :
    hintLength (line ++ '\n' :: rest) =
      if (Text.trim line).all isHintChar then line.length + 1 else 0 := by
  have hmem : '\n' ∈ line ++ '\n' :: rest := by simp
  unfold hintLength
  rw [takeWhile_line hline]
  simp only [hmem, true_and]

theorem exists_line {cs : List Char} (h : '\n' ∈ cs) :
    ∃ line rest, cs = line ++ '\n' :: rest ∧ ∀ c ∈ line, c ≠ '\n' := by
  obtain ⟨line, rest, hcs, hline⟩ := List.eq_append_cons_of_mem h
  exact ⟨line, rest, hcs, fun c hc => ne_of_mem_of_not_mem hc hline⟩

theorem hintLength_le (between : List Char) : hintLength between ≤ between.length := by
  by_cases hmem : '\n' ∈ between
  · obtain ⟨line, rest, rfl, hline⟩ := exists_line hmem
    rw [hintLength_line hline, List.length_append, List.length_cons]
    split_ifs <;> omega
  · have hzero : hintLength between = 0 := if_neg fun h => hmem h.1
    omega

theorem split?_body_of_none {opened : List Char} (h : split? opened = none) :
    split? (body opened) = none :=
  split?_eq_none fun hi => not_infix_of_split?_none h (hi.trans (body_isSuffix opened).isInfix)

/-- The closing fence is the same whether it is looked for from the opening fence on or after the
hint. -/
theorem split?_body {opened between rest : List Char} (h : split? opened = some (between, rest)) :
    split? (body opened) = some (between.drop (hintLength between), rest) := by
  have hopened : between ++ marker ++ rest = opened := split?_eq_some h
  obtain ⟨hbetween, hlast⟩ := split?_before h
  by_cases hmem : '\n' ∈ between
  · obtain ⟨line, more, rfl, hline⟩ := exists_line hmem
    have hsplit : opened = line ++ '\n' :: (more ++ marker ++ rest) := by
      rw [← hopened]
      simp
    rw [hintLength_line hline]
    split_ifs with hhint
    · have hbody : body opened = more ++ marker ++ rest := by
        rw [hsplit]
        exact body_hint hline hhint
      have hmore : ¬ marker <:+: more := fun hi =>
        hbetween (hi.trans ⟨line ++ ['\n'], [], by simp⟩)
      have hmorelast : more.getLast? ≠ some '\x60' := by
        intro hl
        rw [List.getLast?_append, List.getLast?_cons, hl] at hlast
        exact hlast rfl
      have hdrop : (line ++ '\n' :: more).drop (line.length + 1) = more := by
        rw [List.drop_append]
        simp
      rw [hbody, hdrop]
      exact split?_append hmore hmorelast
    · have hkept : body opened = opened := by
        unfold body
        rw [hsplit, takeWhile_line hline, if_neg hhint]
      rw [hkept, List.drop_zero]
      exact h
  · -- the line goes on past the closing fence, so it holds a backquote
    have hmarker : '\x60' ∈ opened.takeWhile (· ≠ '\n') := by
      have hall : ∀ c ∈ between, decide (c ≠ '\n') := by
        intro c hc
        exact decide_eq_true (ne_of_mem_of_not_mem hc hmem)
      rw [← hopened, List.append_assoc, List.takeWhile_append_of_pos hall]
      simp
    have hzero : hintLength between = 0 := if_neg fun hhint => hmem hhint.1
    rw [body_of_not_hint hmarker rfl rfl, hzero, List.drop_zero]
    exact h

theorem blocks_of_split? {cs before opened between rest : List Char}
    (hopen : split? cs = some (before, opened)) (hclose : split? opened = some (between, rest)) :
    blocks cs = between.drop (hintLength between) :: blocks rest := by
  rw [blocks]
  split
  · rename_i h
    rw [hopen] at h
    cases h
  · rename_i h
    rw [hopen] at h
    cases h
    split
    · rename_i h
      rw [split?_body hclose] at h
      cases h
    · rename_i h
      rw [split?_body hclose] at h
      cases h
      rfl

theorem blocks_of_unclosed {cs before opened : List Char}
    (hopen : split? cs = some (before, opened)) (hclose : split? opened = none) :
    blocks cs = [] := by
  rw [blocks]
  split
  · rfl
  · rename_i h
    rw [hopen] at h
    cases h
    split
    · rfl
    · rename_i h
      rw [split?_body_of_none hclose] at h
      cases h

/-- Where blocks stand between fences: the block between the fences of a pair begins after the hint
and ends where the closing fence begins. A last fence without a partner bounds no block. -/
structure Pairing (text : List Char) (fences : List Nat) (spans : List (Nat × Nat)) : Prop where
  length_eq : spans.length = fences.length / 2
  between : ∀ k span, spans[k]? = some span → ∃ opening, fences[2 * k]? = some opening ∧
    fences[2 * k + 1]? = some span.2 ∧ span.1 ≤ span.2 ∧
    span.1 = opening + 3 + hintLength (text.extract (opening + 3) span.2)

theorem extract_part (front part back : List Char) (skipped : Nat) :
    (front ++ part ++ back).extract (front.length + skipped) (front.length + part.length) =
      part.drop skipped := by
  have hdrop : (front ++ part ++ back).drop (front.length + skipped) =
      (part ++ back).drop skipped := by
    rw [List.append_assoc, List.drop_append, List.drop_eq_nil_of_le (Nat.le_add_right _ _)]
    simp
  have hlength : front.length + part.length - (front.length + skipped) =
      part.length - skipped := by
    omega
  rw [List.extract_eq_take_drop, hdrop, hlength, List.drop_append, ← List.length_drop]
  exact List.take_left

theorem extract_after (front rest : List Char) (i j : Nat) :
    (front ++ rest).extract (i + front.length) (j + front.length) = rest.extract i j := by
  have hdrop : (front ++ rest).drop (i + front.length) = rest.drop i := by
    rw [List.drop_append, List.drop_eq_nil_of_le (Nat.le_add_left _ _), Nat.add_sub_cancel]
    rfl
  rw [List.extract_eq_take_drop, hdrop, Nat.add_sub_add_right]

/-- A pair of fences before a text moves everything that stands in it. -/
theorem Pairing.cons {rest : List Char} {fences : List Nat} {spans : List (Nat × Nat)}
    (h : Pairing rest fences spans) {cs front part : List Char} {n : Nat}
    (hcs : front ++ marker ++ part ++ marker ++ rest = cs)
    (hn : n = front.length + 3 + part.length + 3) :
    Pairing cs
      (front.length :: (front.length + 3 + part.length) :: fences.map (· + n))
      ((front.length + 3 + hintLength part, front.length + 3 + part.length) ::
        spans.map (Prod.map (· + n) (· + n))) ∧
    cs.extract (front.length + 3 + hintLength part) (front.length + 3 + part.length) =
      part.drop (hintLength part) ∧
    ∀ i j, cs.extract (i + n) (j + n) = rest.extract i j := by
  have hlength : (front ++ marker).length = front.length + 3 := List.length_append
  have hpart : ∀ skipped, cs.extract (front.length + 3 + skipped)
      (front.length + 3 + part.length) = part.drop skipped := by
    intro skipped
    have hextract := extract_part (front ++ marker) part (marker ++ rest) skipped
    rw [hlength] at hextract
    rw [← hcs, List.append_assoc _ marker rest]
    exact hextract
  have hmoved : ∀ i j, cs.extract (i + n) (j + n) = rest.extract i j := by
    intro i j
    have hextract := extract_after (front ++ marker ++ part ++ marker) rest i j
    simp only [List.length_append] at hextract
    rw [← hcs, hn]
    exact hextract
  refine ⟨⟨?_, ?_⟩, hpart _, hmoved⟩
  · simp only [List.length_cons, List.length_map, h.length_eq]
    omega
  · intro k span hspan
    cases k with
    | zero =>
      cases hspan
      refine ⟨front.length, rfl, rfl, Nat.add_le_add_left (hintLength_le part) _, ?_⟩
      have hwhole := hpart 0
      rw [Nat.add_zero, List.drop_zero] at hwhole
      rw [hwhole]
    | succ k =>
      rw [List.getElem?_cons_succ, List.getElem?_map] at hspan
      obtain ⟨⟨i, j⟩, hij, rfl⟩ := Option.map_eq_some_iff.mp hspan
      obtain ⟨opening, hopening, hclosing, hle, hstart⟩ := h.between k (i, j) hij
      have hfence : ∀ m f, fences[m]? = some f →
          (front.length :: (front.length + 3 + part.length) :: fences.map (· + n))[m + 2]? =
            some (f + n) := by
        intro m f hf
        rw [List.getElem?_cons_succ, List.getElem?_cons_succ, List.getElem?_map, hf]
        rfl
      refine ⟨opening + n, hfence _ _ hopening, hfence _ _ hclosing, ?_, ?_⟩
      · exact Nat.add_le_add_right hle n
      · have hbefore := hmoved (opening + 3) j
        rw [Nat.add_right_comm] at hbefore
        simp only [Prod.map_fst, Prod.map_snd] at hstart ⊢
        rw [hbefore, hstart]
        omega

theorem exists_pairing (cs : List Char) : ∃ spans, Pairing cs (positions cs) spans ∧
    blocks cs = spans.map fun span => cs.extract span.1 span.2 := by
  cases hopen : split? cs with
  | none =>
    refine ⟨[], ⟨?_, ?_⟩, ?_⟩
    · rw [positions_of_split?_none hopen]
      rfl
    · simp
    · exact blocks_eq_nil (not_infix_of_split?_none hopen)
  | some p =>
    obtain ⟨before, opened⟩ := p
    cases hclose : split? opened with
    | none =>
      refine ⟨[], ⟨?_, ?_⟩, ?_⟩
      · rw [positions_of_split? hopen, positions_of_split?_none hclose]
        simp
      · simp
      · exact blocks_of_unclosed hopen hclose
    | some q =>
      obtain ⟨between, rest⟩ := q
      have hopened : between ++ marker ++ rest = opened := split?_eq_some hclose
      have hcs : before ++ marker ++ between ++ marker ++ rest = cs := by
        rw [← split?_eq_some hopen, ← hopened]
        simp
      have hshorter : rest.length < cs.length := by
        have h := split?_length hopen
        have h' := split?_length hclose
        omega
      obtain ⟨spans, hpairing, hblocks⟩ := exists_pairing rest
      obtain ⟨hmore, hfirst, hmoved⟩ := hpairing.cons hcs rfl
      have hpositions : positions cs = before.length :: (before.length + 3 + between.length) ::
          (positions rest).map (· + (before.length + 3 + between.length + 3)) := by
        have hshift : (fun f => f + (before.length + 3)) ∘ (fun f => f + (between.length + 3)) =
            fun f => f + (before.length + 3 + between.length + 3) := by
          funext f
          rw [Function.comp_apply]
          omega
        rw [positions_of_split? hopen, positions_of_split? hclose, List.map_cons, List.map_map,
          hshift, Nat.add_comm between.length]
      refine ⟨_, hpositions ▸ hmore, ?_⟩
      rw [blocks_of_split? hopen hclose, hblocks, List.map_cons, hfirst, List.map_map]
      refine congrArg _ (List.map_congr_left fun span _ => ?_)
      exact (hmoved span.1 span.2).symm
termination_by cs.length

/-- Two fences lie between a block and the next. -/
theorem Pairing.apart {text : List Char} {fences : List Nat} {spans : List (Nat × Nat)}
    (h : Pairing text fences spans) (hfences : LeftToRight text fences) :
    spans.Pairwise fun span later => span.2 + 6 ≤ later.1 := by
  rw [List.pairwise_iff_getElem]
  intro i j hi hj hij
  obtain ⟨-, -, hclosing, -, -⟩ := h.between i _ (List.getElem?_eq_getElem hi)
  obtain ⟨opening, hopening, -, -, hstart⟩ := h.between j _ (List.getElem?_eq_getElem hj)
  obtain ⟨hlt, hclosing⟩ := List.getElem?_eq_some_iff.mp hclosing
  obtain ⟨hlt', hopening⟩ := List.getElem?_eq_some_iff.mp hopening
  have hapart := List.pairwise_iff_getElem.mp hfences.apart (2 * i + 1) (2 * j) hlt hlt' (by omega)
  rw [hclosing, hopening] at hapart
  omega

/-- Fences two by two; a last one without a partner is left out. -/
def pairs : List Nat → List (Nat × Nat)
  | opening :: closing :: rest => (opening, closing) :: pairs rest
  | _ => []

theorem length_pairs (fences : List Nat) : (pairs fences).length = fences.length / 2 := by
  induction fences using pairs.induct with
  | case1 opening closing rest ih =>
    simp only [pairs, List.length_cons, ih]
    omega
  | case2 fences hshort =>
    rcases fences with - | ⟨f, - | ⟨g, rest⟩⟩
    · rfl
    · simp [pairs]
    · exact (hshort f g rest rfl).elim

theorem getElem?_pairs {fences : List Nat} {k opening closing : Nat}
    (hopening : fences[2 * k]? = some opening) (hclosing : fences[2 * k + 1]? = some closing) :
    (pairs fences)[k]? = some (opening, closing) := by
  induction k generalizing fences with
  | zero =>
    rcases fences with - | ⟨f, - | ⟨g, rest⟩⟩
    · cases hopening
    · cases hclosing
    · cases hopening
      cases hclosing
      rfl
  | succ k ih =>
    rcases fences with - | ⟨f, - | ⟨g, rest⟩⟩
    · cases hopening
    · cases hclosing
    · exact ih hopening hclosing

/-- What stands between the fences of each pair, without the hint. -/
def enclosed (text : List Char) : List (List Char) :=
  (pairs (positions text)).map fun pair =>
    let between := text.extract (pair.1 + 3) pair.2
    between.drop (hintLength between)

theorem extract_add (text : List Char) (i j n : Nat) :
    text.extract (i + n) j = (text.extract i j).drop n := by
  rw [List.extract_eq_take_drop, List.extract_eq_take_drop, List.drop_take, List.drop_drop,
    Nat.sub_add_eq]

theorem blocks_eq_enclosed (text : List Char) : blocks text = enclosed text := by
  obtain ⟨spans, hpairing, hblocks⟩ := exists_pairing text
  rw [hblocks, enclosed]
  apply List.ext_getElem?
  intro k
  rw [List.getElem?_map, List.getElem?_map]
  cases hspan : spans[k]? with
  | none =>
    have hlength : (pairs (positions text)).length ≤ k := by
      rw [length_pairs, ← hpairing.length_eq]
      exact List.getElem?_eq_none_iff.mp hspan
    rw [List.getElem?_eq_none hlength]
    rfl
  | some span =>
    obtain ⟨opening, hopening, hclosing, -, hstart⟩ := hpairing.between k span hspan
    rw [getElem?_pairs hopening hclosing, Option.map_some, Option.map_some, hstart, extract_add]

theorem not_infix_of_mem_blocks {cs block : List Char} (h : block ∈ blocks cs) :
    ¬ marker <:+: block := by
  fun_induction blocks cs with
  | case1 => cases h
  | case2 => cases h
  | case3 cs before opened hopen interior rest hclose _ ih =>
    rcases List.mem_cons.mp h with rfl | hrest
    · exact (split?_before hclose).1
    · exact ih hrest

/-- The blocks of a text stand between its first and second fence, its third and fourth, and so on,
each without the hint after its opening fence: one block for every two fences, in order, no two of
them in touch, and no fence in any of them. -/
theorem blocks_pair_fences (text : List Char) :
    (∀ fences, LeftToRight text fences ↔ fences = positions text) ∧
    (∃ spans, Pairing text (positions text) spans ∧
      blocks text = spans.map (fun span => text.extract span.1 span.2) ∧
      spans.Pairwise fun span later => span.2 + 6 ≤ later.1) ∧
    ∀ block ∈ blocks text, ¬ marker <:+: block := by
  have hpositions := leftToRight_positions text
  refine ⟨fun fences => ?_, ?_, fun block hblock => not_infix_of_mem_blocks hblock⟩
  · constructor
    · intro hfences
      exact hfences.unique hpositions
    · rintro rfl
      exact hpositions
  · obtain ⟨spans, hpairing, hblocks⟩ := exists_pairing text
    exact ⟨spans, hpairing, hblocks, hpairing.apart hpositions⟩

/-- A fourth backquote belongs to the block, whose first line is then no hint; the last fence has no
partner. -/
example : blocks "````a\r\nb``` ```c\r\nd``` ```e".toList =
    ["`a\r\nb".toList, "d".toList] := by cbv

end Elicit.Fence

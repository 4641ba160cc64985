import Elicit.Text.Blank
import Mathlib.Data.List.Infix
import Mathlib.Data.List.TakeWhile

/-! What trimming leaves of a text. -/
namespace Elicit.Text

/-- Between the space and the next line mark there is no blank. -/
theorem isBlank_eq_false {c : Char} (h : 0x20 < c.toNat) (h' : c.toNat < 0x85) :
    isBlank c = false := by
  simp only [isBlank, Bool.or_eq_false_iff, Bool.and_eq_false_iff, decide_eq_false_iff_not,
    beq_eq_false_iff_ne]
  omega

/-- Letters and digits of ASCII are not blank. -/
theorem not_isBlank_of_isAlphanum {c : Char} (h : c.isAlphanum) : isBlank c = false := by
  delta Char.isAlphanum Char.isAlpha Char.isUpper Char.isLower Char.isDigit at h
  simp only [Bool.or_eq_true, Bool.and_eq_true, decide_eq_true_eq, UInt32.le_iff_toNat_le,
    ge_iff_le] at h
  change (65 ≤ c.toNat ∧ c.toNat ≤ 90 ∨ 97 ≤ c.toNat ∧ c.toNat ≤ 122) ∨
    48 ≤ c.toNat ∧ c.toNat ≤ 57 at h
  exact isBlank_eq_false (by omega) (by omega)

/-- A part that does not begin with a blank survives the removal of blanks at the start. -/
theorem infix_trimStart {part cs : List Char} {c : Char} (h : c :: part <:+: cs)
    (hc : isBlank c = false) : c :: part <:+: trimStart cs := by
  induction cs with
  | nil => simp at h
  | cons d cs ih =>
    rw [trimStart, List.dropWhile_cons]
    split_ifs with hd
    · rcases List.infix_cons_iff.mp h with hp | hi
      · obtain ⟨rfl, -⟩ := List.cons_prefix_cons.mp hp
        rw [hc] at hd
        cases hd
      · exact ih hi
    · exact h

/-- A part with no blank at either end survives trimming. -/
theorem infix_trim {part cs : List Char} {c d : Char} (h : part <:+: cs)
    (hc : part.head? = some c) (hd : part.getLast? = some d) (hcb : isBlank c = false)
    (hdb : isBlank d = false) : part <:+: trim cs := by
  obtain ⟨tail, rfl⟩ := List.head?_eq_some_iff.mp hc
  have hs := infix_trimStart h hcb
  rw [← List.reverse_infix] at hs
  have hr : (c :: tail).reverse.head? = some d := by rw [List.head?_reverse, hd]
  obtain ⟨front, hf⟩ := List.head?_eq_some_iff.mp hr
  rw [hf] at hs
  have ht := infix_trimStart hs hdb
  rw [← hf, ← List.reverse_infix, List.reverse_reverse] at ht
  exact ht

theorem exists_trimEnd_append (cs : List Char) :
    ∃ back, cs = trimEnd cs ++ back ∧ ∀ c ∈ back, isBlank c := by
  refine ⟨(cs.reverse.takeWhile isBlank).reverse, ?_, ?_⟩
  · rw [trimEnd, ← List.reverse_append, List.takeWhile_append_dropWhile, List.reverse_reverse]
  · intro c hc
    exact List.mem_takeWhile_imp (List.mem_reverse.mp hc)

/-- Nothing is removed at the start from the first character on that is no blank. -/
theorem trimStart_append {core : List Char} {c : Char} (hc : core.head? = some c)
    (hcb : isBlank c = false) (front : List Char) :
    trimStart (front ++ core) = trimStart front ++ core := by
  obtain ⟨tail, rfl⟩ := List.head?_eq_some_iff.mp hc
  unfold trimStart
  rw [List.dropWhile_append, List.dropWhile_cons_of_neg (by simp [hcb])]
  split_ifs with hfront
  · rw [List.isEmpty_iff.mp hfront, List.nil_append]
  · rfl

theorem trimEnd_append {core : List Char} {d : Char} (hd : core.getLast? = some d)
    (hdb : isBlank d = false) (back : List Char) :
    trimEnd (core ++ back) = core ++ trimEnd back := by
  have hr : core.reverse.head? = some d := by rw [List.head?_reverse, hd]
  have hstart := trimStart_append hr hdb back.reverse
  unfold trimStart at hstart
  unfold trimEnd
  rw [List.reverse_append, hstart, List.reverse_append, List.reverse_reverse]

/-- Trimming removes blanks from around a part with no blank at either end, and no more. -/
theorem trim_append_append {front core back : List Char} {c d : Char} (hc : core.head? = some c)
    (hd : core.getLast? = some d) (hcb : isBlank c = false) (hdb : isBlank d = false) :
    trim (front ++ core ++ back) = trimStart front ++ core ++ trimEnd back := by
  have hhead : (core ++ back).head? = some c := by rw [List.head?_append, hc]; rfl
  have hlast : (trimStart front ++ core).getLast? = some d := by
    rw [List.getLast?_append, hd]; rfl
  rw [trim, List.append_assoc, trimStart_append hhead hcb, ← List.append_assoc,
    trimEnd_append hlast hdb]

/-- A text with no blank at either end is trimmed already. -/
theorem trim_eq_self {cs : List Char} {c d : Char} (hc : cs.head? = some c)
    (hd : cs.getLast? = some d) (hcb : isBlank c = false) (hdb : isBlank d = false) :
    trim cs = cs := by
  have h : trim ([] ++ cs ++ []) = trimStart [] ++ cs ++ trimEnd [] :=
    trim_append_append hc hd hcb hdb
  rw [List.nil_append, List.append_nil] at h
  rw [h]
  exact List.append_nil _

/-- Blanks at the end make no difference to what is left. -/
theorem trim_append_blanks {back : List Char} (hb : ∀ c ∈ back, isBlank c) (cs : List Char) :
    trim (cs ++ back) = trim cs := by
  have hstart : trimStart back = [] := List.dropWhile_eq_nil_iff.mpr hb
  have hreverse : ∀ c ∈ back.reverse, isBlank c := by simpa using hb
  have hend : ∀ kept, trimEnd (kept ++ back) = trimEnd kept := by
    intro kept
    rw [trimEnd, List.reverse_append, List.dropWhile_append_of_pos hreverse]
    rfl
  have hsplit : trimStart (cs ++ back) =
      if (trimStart cs).isEmpty then trimStart back else trimStart cs ++ back :=
    List.dropWhile_append
  unfold trim
  rw [hsplit]
  split_ifs with he
  · rw [hstart, List.isEmpty_iff.mp he]
  · exact hend _

theorem trim_isInfix (cs : List Char) : trim cs <:+: cs := by
  have hstart : trimStart cs <:+ cs := List.dropWhile_suffix isBlank
  have hend : trimEnd (trimStart cs) <+: trimStart cs := by
    rw [← List.reverse_suffix, trimEnd, List.reverse_reverse]
    exact List.dropWhile_suffix isBlank
  exact hend.isInfix.trans hstart.isInfix

/-- Trimming leaves nothing of a text just when that holds nothing but blanks. -/
theorem trim_eq_nil_iff {cs : List Char} : trim cs = [] ↔ ∀ c ∈ cs, isBlank c := by
  constructor
  · intro h
    by_contra hne
    push Not at hne
    obtain ⟨c, hc, hcb⟩ := hne
    obtain ⟨front, back, hcs⟩ := List.append_of_mem hc
    have hpart : [c] <:+: cs := ⟨front, back, by simp [hcs]⟩
    have hcb' : isBlank c = false := by simpa using hcb
    have hin := infix_trim hpart rfl rfl hcb' hcb'
    rw [h] at hin
    simp at hin
  · intro h
    have hstart : trimStart cs = [] := List.dropWhile_eq_nil_iff.mpr h
    rw [trim, hstart]
    rfl

/-- Blanks around a text without blanks are all that trimming removes. -/
theorem trim_blanks {front core back : List Char} (hf : ∀ c ∈ front, isBlank c)
    (hb : ∀ c ∈ back, isBlank c) (hcore : ∀ c ∈ core, isBlank c = false) :
    trim (front ++ core ++ back) = core := by
  rcases core with - | ⟨c, core⟩
  · rw [trim_eq_nil_iff]
    intro c hc
    rcases List.mem_append.mp hc with hc | hc
    · exact hf c (by simpa using hc)
    · exact hb c hc
  obtain ⟨d, hd⟩ : ∃ d, (c :: core).getLast? = some d := ⟨_, List.getLast?_cons⟩
  have hstart : trimStart front = [] := List.dropWhile_eq_nil_iff.mpr hf
  have hend : trimEnd back = [] := by
    rw [trimEnd, List.dropWhile_eq_nil_iff.mpr (by simpa using hb)]
    rfl
  rw [trim_append_append rfl hd (hcore c (by simp)) (hcore d (List.mem_of_getLast? hd)), hstart,
    hend, List.nil_append, List.append_nil]

end Elicit.Text

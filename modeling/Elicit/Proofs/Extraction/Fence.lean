import Elicit.Extraction.Fence
import Elicit.Proofs.Text.Blank
import Mathlib.Data.List.Infix

/-! Fences: where a text is split around one, and what stands between the first two of a text. -/
namespace Elicit.Fence

/-- Three backquotes in a row. -/
abbrev marker : List Char := ['\x60', '\x60', '\x60']

theorem split?_eq_none {cs : List Char} (h : ¬ marker <:+: cs) : split? cs = none := by
  fun_induction split? cs with
  | case1 rest => exact absurd ⟨[], rest, rfl⟩ h
  | case2 => rfl
  | case3 c cs _ ih =>
    rw [ih fun hi => h (List.infix_cons hi)]
    rfl

theorem blocks_eq_nil {cs : List Char} (h : ¬ marker <:+: cs) : blocks cs = [] := by
  rw [blocks]
  split
  · rfl
  · rename_i hopened
    rw [split?_eq_none h] at hopened
    cases hopened

/-- The first fence of a text is the one before which there is none, not even in part. -/
theorem split?_append {before rest : List Char} (h : ¬ marker <:+: before)
    (hlast : before.getLast? ≠ some '\x60') :
    split? (before ++ marker ++ rest) = some (before, rest) := by
  induction before with
  | nil => rfl
  | cons c before ih =>
    have hrest : split? (before ++ marker ++ rest) = some (before, rest) := by
      refine ih (fun hi => h (List.infix_cons hi)) ?_
      intro hb
      exact hlast (by rw [List.getLast?_cons, hb]; rfl)
    -- a fence at the very start would lie within `c :: before` or begin with its last character
    have hno : ∀ tail, c = '\x60' → before ++ marker ++ rest ≠ '\x60' :: '\x60' :: tail := by
      rintro tail rfl ht
      rcases before with - | ⟨d, - | ⟨e, before⟩⟩
      · exact hlast rfl
      · simp only [List.cons_append, List.cons.injEq] at ht
        obtain ⟨rfl, -⟩ := ht
        exact hlast rfl
      · simp only [List.cons_append, List.cons.injEq] at ht
        obtain ⟨rfl, rfl, -⟩ := ht
        exact h ⟨[], before, rfl⟩
    rw [List.cons_append, List.cons_append, split?, hrest]
    · rfl
    · exact hno

theorem takeWhile_line {line : List Char} (hline : ∀ c ∈ line, c ≠ '\n') (rest : List Char) :
    (line ++ '\n' :: rest).takeWhile (· ≠ '\n') = line := by
  rw [List.takeWhile_append_of_pos (by simpa using hline)]
  simp

/-- The line of an opening fence is left out if it holds nothing but a hint. -/
theorem body_hint {line rest : List Char} (hline : ∀ c ∈ line, c ≠ '\n')
    (hhint : (Text.trim line).all isHintChar) : body (line ++ '\n' :: rest) = rest := by
  have hdrop : (line ++ '\n' :: rest).dropWhile (· ≠ '\n') = '\n' :: rest := by
    rw [List.dropWhile_append_of_pos (by simpa using hline)]
    simp
  unfold body dropLine
  rw [takeWhile_line hline, if_pos hhint, hdrop]
  rfl

/-- The fence's own line is kept if there is something else than a hint in it. -/
theorem body_of_not_hint {cs : List Char} {c : Char} (hc : c ∈ cs.takeWhile (· ≠ '\n'))
    (hblank : Text.isBlank c = false) (hhint : isHintChar c = false) : body cs = cs := by
  have hpart : [c] <:+: cs.takeWhile (· ≠ '\n') := by
    obtain ⟨front, back, h⟩ := List.append_of_mem hc
    exact ⟨front, back, by rw [h, List.append_assoc, List.singleton_append]⟩
  have hkept : c ∈ Text.trim (cs.takeWhile (· ≠ '\n')) :=
    (Text.infix_trim hpart rfl rfl hblank hblank).subset List.mem_cons_self
  refine if_neg fun hall => ?_
  have := List.all_eq_true.mp hall c hkept
  rw [hhint] at this
  cases this

theorem body_isSuffix (cs : List Char) : body cs <:+ cs := by
  unfold body dropLine
  split_ifs
  · exact (List.drop_suffix 1 _).trans (List.dropWhile_suffix _)
  · exact List.suffix_refl cs

theorem split?_eq_some {cs before after : List Char} (h : split? cs = some (before, after)) :
    before ++ marker ++ after = cs := by
  fun_induction split? cs generalizing before after with
  | case1 rest =>
    cases h
    rfl
  | case2 => cases h
  | case3 c cs _ ih =>
    obtain ⟨⟨b, a⟩, hs, hp⟩ := Option.map_eq_some_iff.mp h
    cases hp
    exact congrArg (c :: ·) (ih hs)

/-- A block is a part of the text. -/
theorem isInfix_of_mem_blocks {cs block : List Char} (h : block ∈ blocks cs) : block <:+: cs := by
  fun_induction blocks cs with
  | case1 => cases h
  | case2 => cases h
  | case3 cs before opened hopen interior rest hclose _ ih =>
    have hcs : before ++ marker ++ opened = cs := split?_eq_some hopen
    have hopened : opened <:+: cs := ⟨before ++ marker, [], by rw [List.append_nil, hcs]⟩
    have hbody : interior ++ marker ++ rest = body opened := split?_eq_some hclose
    have hin : body opened <:+: cs := (body_isSuffix opened).isInfix.trans hopened
    rcases List.mem_cons.mp h with rfl | hrest
    · exact List.IsInfix.trans ⟨[], marker ++ rest, by rw [← hbody]; simp⟩ hin
    · exact (ih hrest).trans (List.IsInfix.trans ⟨interior ++ marker, [], by simp [← hbody]⟩ hin)

/-- The first block stands between the first two fences. -/
theorem blocks_cons {before opened interior rest : List Char} (hb : ¬ marker <:+: before)
    (hlast : before.getLast? ≠ some '\x60') (hbody : body opened = interior ++ marker ++ rest)
    (hi : ¬ marker <:+: interior) (hilast : interior.getLast? ≠ some '\x60') :
    blocks (before ++ marker ++ opened) = interior :: blocks rest := by
  have hopen : split? (before ++ marker ++ opened) = some (before, opened) :=
    split?_append hb hlast
  have hclose : split? (interior ++ marker ++ rest) = some (interior, rest) :=
    split?_append hi hilast
  rw [blocks]
  split
  · rename_i h
    rw [hopen] at h
    cases h
  · rename_i h
    rw [hopen] at h
    cases h
    split
    · rename_i h
      rw [hbody, hclose] at h
      cases h
    · rename_i h
      rw [hbody, hclose] at h
      cases h
      rfl

end Elicit.Fence

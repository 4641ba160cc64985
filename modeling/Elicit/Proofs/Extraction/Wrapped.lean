import Elicit.Extraction.Basic
import Elicit.Proofs.Extraction.Fence
import Elicit.Proofs.Json.Trimming

/-! A JSON text that is put into a fence, whatever stands around the fence. -/
namespace Elicit.Extraction

theorem not_isBlank_of_isHintChar {c : Char} (h : Fence.isHintChar c) :
    Text.isBlank c = false := by
  simp only [Fence.isHintChar, Bool.or_eq_true, beq_iff_eq] at h
  rcases h with (((h | rfl) | rfl) | rfl) | rfl
  · exact Text.not_isBlank_of_isAlphanum h
  all_goals rfl

/-- The block of a JSON text on lines of its own is read as the value of the text. -/
theorem read_interior {text : List Char} {v : Json} (h : Json.read text = .ok v) :
    Json.read (Text.trim (text ++ ['\n'])) = .ok v := by
  rw [Text.trim_append_blanks (by simp [Text.isBlank])]
  exact Json.read_trim h

/-- The first block decides if it is read as a value. -/
theorem ofTrimmed_of_blocks {cs block : List Char} {blocks : List (List Char)} {v : Json}
    (hcs : cs ≠ []) (hb : Fence.blocks cs = block :: blocks)
    (hv : Json.read (Text.trim block) = .ok v) : ofTrimmed cs = .ok ⟨v, .fenced⟩ := by
  have hne : cs.isEmpty = false := by simpa using hcs
  have hfirst : firstFenced (Fence.blocks cs) = .ok v := by
    rw [hb, firstFenced, hv]
  simp only [ofTrimmed, hne, hfirst]
  rfl

/-- A fenced text, from the opening fence to the closing one. -/
def wrap (line text : List Char) : List Char :=
  Fence.marker ++ (line ++ '\n' :: (text ++ ['\n'] ++ Fence.marker))

theorem trim_wrap (before line text after : List Char) :
    Text.trim (before ++ wrap line text ++ after) =
      Text.trimStart before ++ wrap line text ++ Text.trimEnd after := by
  have hhead : (wrap line text).head? = some '\x60' := rfl
  have hlast : (wrap line text).getLast? = some '\x60' := by
    simp [wrap, List.getLast?_append, List.getLast?_cons]
  exact Text.trim_append_append hhead hlast rfl rfl

theorem blocks_wrap {before line text after : List Char} (hbefore : ¬ Fence.marker <:+: before)
    (hlast : before.getLast? ≠ some '\x60') (hline : ∀ c ∈ line, c ≠ '\n')
    (hhint : (Text.trim line).all Fence.isHintChar) (htext : ¬ Fence.marker <:+: text) :
    Fence.blocks (before ++ wrap line text ++ after) =
      (text ++ ['\n']) :: Fence.blocks after := by
  have hbody : Fence.body (line ++ '\n' :: (text ++ ['\n'] ++ Fence.marker ++ after)) =
      text ++ ['\n'] ++ Fence.marker ++ after := Fence.body_hint hline hhint
  have hinterior : ¬ Fence.marker <:+: text ++ ['\n'] := by
    intro hi
    rcases List.infix_concat_iff.mp hi with ⟨front, hf⟩ | hi
    · have hend := congrArg List.getLast? hf
      rw [List.getLast?_append, List.getLast?_concat] at hend
      cases hend
    · exact htext hi
  have hblocks := Fence.blocks_cons hbefore hlast hbody hinterior (by simp)
  rw [← hblocks]
  simp [wrap]

/-- A text put into a fence is extracted as its value if it is read as one and holds no fence
itself. What stands before the fence may be anything without a fence that does not end in a
backquote; a hint may follow the fence, between blanks; and after the closing fence there may be
anything at all. -/
theorem extract_wrapped {before front hint back text after : String} {v : Json}
    (hbefore : ¬ Fence.marker <:+: before.toList) (hlast : before.toList.getLast? ≠ some '\x60')
    (hfront : ∀ c ∈ front.toList, Text.isBlank c ∧ c ≠ '\n')
    (hhint : ∀ c ∈ hint.toList, Fence.isHintChar c)
    (hback : ∀ c ∈ back.toList, Text.isBlank c ∧ c ≠ '\n')
    (htext : ¬ Fence.marker <:+: text.toList) (hv : Json.read text.toList = .ok v) :
    extract (before ++ "```" ++ front ++ hint ++ back ++ "\n" ++ text ++ "\n" ++ "```" ++ after) =
      .ok ⟨v, .fenced⟩ := by
  have hblank : ∀ c ∈ hint.toList, Text.isBlank c = false :=
    fun c hc => not_isBlank_of_isHintChar (hhint c hc)
  have htrim : Text.trim (front.toList ++ hint.toList ++ back.toList) = hint.toList :=
    Text.trim_blanks (fun c hc => (hfront c hc).1) (fun c hc => (hback c hc).1) hblank
  have hline : ∀ c ∈ front.toList ++ hint.toList ++ back.toList, c ≠ '\n' := by
    intro c hc
    rcases List.mem_append.mp hc with hc | hc
    · rcases List.mem_append.mp hc with hc | hc
      · exact (hfront c hc).2
      · rintro rfl
        cases hblank _ hc
    · exact (hback c hc).2
  have hchars : (before ++ "```" ++ front ++ hint ++ back ++ "\n" ++ text ++ "\n" ++ "```" ++
      after).toList = before.toList ++ wrap (front.toList ++ hint.toList ++ back.toList)
        text.toList ++ after.toList := by
    simp [wrap]
  -- trimming reaches neither fence, so it only shortens what stands before and after
  have hsuffix : Text.trimStart before.toList <:+ before.toList := List.dropWhile_suffix _
  have hbefore' : ¬ Fence.marker <:+: Text.trimStart before.toList :=
    fun hi => hbefore (hi.trans hsuffix.isInfix)
  have hlast' : (Text.trimStart before.toList).getLast? ≠ some '\x60' := by
    intro hl
    obtain ⟨front, hf⟩ := hsuffix
    rw [← hf, List.getLast?_append, hl] at hlast
    exact hlast rfl
  have hhint' : (Text.trim (front.toList ++ hint.toList ++ back.toList)).all Fence.isHintChar := by
    rw [htrim, List.all_eq_true]
    exact hhint
  rw [extract, hchars, trim_wrap]
  exact ofTrimmed_of_blocks (by simp [wrap]) (blocks_wrap hbefore' hlast' hline hhint' htext)
    (read_interior hv)

/-- The documents around the fence count for nothing, before it and after it. -/
theorem extract_wrapped_samples :
    extract ("Either [1] or [: " ++ "```" ++ " " ++ "json" ++ "\r" ++ "\n" ++ "\"``[\"" ++ "\n" ++
      "```" ++ " or ```\n[2]\n```") = .ok ⟨.string "``[", .fenced⟩ ∧
    extract ("" ++ "```" ++ "" ++ "" ++ "" ++ "\n" ++ " [\n1] " ++ "\n" ++ "```" ++ "`[") =
      .ok ⟨.array [.number (.integer 1)], .fenced⟩ := by
  constructor
  · have hv : Json.read "\"``[\"".toList = .ok (.string "``[") := rfl
    have hfront : ∀ c ∈ [' '], Text.isBlank c ∧ c ≠ '\n' :=
      List.forall_mem_singleton.mpr (by decide)
    have hback : ∀ c ∈ ['\r'], Text.isBlank c ∧ c ≠ '\n' :=
      List.forall_mem_singleton.mpr (by decide)
    have hhint : ∀ c ∈ "json".toList, Fence.isHintChar c := List.all_eq_true.mp (by decide)
    exact extract_wrapped (by decide) (by decide) hfront hhint hback (by decide) hv
  · have hv : Json.read " [\n1] ".toList = .ok (.array [.number (.integer 1)]) := rfl
    exact extract_wrapped (by decide) (by decide) (List.forall_mem_nil _) (List.forall_mem_nil _)
      (List.forall_mem_nil _) (by decide) hv

end Elicit.Extraction

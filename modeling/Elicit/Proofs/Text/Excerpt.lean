import Elicit.Text.Blank
import Elicit.Text.Excerpt

/-! What an excerpt tells of a text: its first characters and whether there are more. -/
namespace Elicit.Text

theorem isEmpty_drop_iff {limit : Nat} {s : String} :
    (s.toList.drop limit).isEmpty ↔ s.length ≤ limit := by
  rw [List.isEmpty_iff, List.drop_eq_nil_iff, String.length_toList]

theorem excerpt_of_le {limit : Nat} {s : String} (h : s.length ≤ limit) : excerpt limit s = s :=
  if_pos (isEmpty_drop_iff.mpr h)

theorem excerpt_of_lt {limit : Nat} {s : String} (h : limit < s.length) :
    excerpt limit s = String.ofList (s.toList.take limit) ++ "..." :=
  if_neg fun he => Nat.not_le.mpr h (isEmpty_drop_iff.mp he)

theorem length_excerpt_of_lt {limit : Nat} {s : String} (h : limit < s.length) :
    (excerpt limit s).length = limit + 3 := by
  rw [excerpt_of_lt h, String.length_append, String.length_ofList, List.length_take,
    String.length_toList, Nat.min_eq_left (Nat.le_of_lt h)]
  rfl

theorem length_excerpt_le (limit : Nat) (s : String) : (excerpt limit s).length ≤ limit + 3 := by
  by_cases h : limit < s.length
  · exact Nat.le_of_eq (length_excerpt_of_lt h)
  · rw [excerpt_of_le (by omega)]
    omega

theorem excerpt_ne_empty {limit : Nat} {s : String} (h : s ≠ "") : excerpt limit s ≠ "" := by
  by_cases hlimit : limit < s.length
  · intro he
    have hl := length_excerpt_of_lt hlimit
    rw [he] at hl
    exact Nat.succ_ne_zero _ hl.symm
  · rwa [excerpt_of_le (Nat.not_lt.mp hlimit)]

theorem excerpt_ne_excerpt {limit : Nat} {s t : String} (hs : limit < s.length)
    (ht : t.length ≤ limit) : excerpt limit s ≠ excerpt limit t := by
  intro he
  have hl := congrArg String.length he
  rw [length_excerpt_of_lt hs, excerpt_of_le ht] at hl
  omega

/-- Two texts have the same excerpt just when they agree on the characters within the limit and on
whether there are characters beyond it. -/
theorem excerpt_eq_excerpt_iff {limit : Nat} {s t : String} :
    excerpt limit s = excerpt limit t ↔
      s.toList.take limit = t.toList.take limit ∧ (limit < s.length ↔ limit < t.length) := by
  have hwhole : ∀ {s : String}, s.length ≤ limit → s.toList.take limit = s.toList := fun h =>
    List.take_of_length_le (by rwa [String.length_toList])
  by_cases hs : limit < s.length <;> by_cases ht : limit < t.length
  · rw [excerpt_of_lt hs, excerpt_of_lt ht, String.append_left_inj, String.ofList_inj]
    simp [hs, ht]
  -- one cut off and one whole: their lengths differ, whatever they begin with
  · have hne := excerpt_ne_excerpt hs (Nat.not_lt.mp ht)
    simp [hs, ht, hne]
  · have hne := (excerpt_ne_excerpt ht (Nat.not_lt.mp hs)).symm
    simp [hs, ht, hne]
  · rw [excerpt_of_le (by omega), excerpt_of_le (by omega), hwhole (by omega), hwhole (by omega),
      String.toList_inj]
    simp [hs, ht]

/-- The dots at the end of an excerpt keep it from being blank, whatever was cut off. -/
theorem isBlankText_excerpt {limit : Nat} {s : String} :
    isBlankText (excerpt limit s) ↔ isBlankText s ∧ s.length ≤ limit := by
  by_cases h : limit < s.length
  · have hdots : isBlankText (excerpt limit s) = false := by
      rw [excerpt_of_lt h, isBlankText, String.toList_append, List.all_append]
      exact Bool.and_false _
    rw [hdots]
    exact iff_of_false (by decide) fun hs => Nat.not_le.mpr h hs.2
  · have hle : s.length ≤ limit := by omega
    rw [excerpt_of_le hle]
    exact (and_iff_left hle).symm

end Elicit.Text

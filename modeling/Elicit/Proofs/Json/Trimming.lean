import Elicit.Proofs.Json.Reading
import Elicit.Proofs.Text.Blank
import Mathlib.Data.List.Induction

/-! Trimming a JSON text. More characters are blank at the ends of a text than between the tokens of
JSON, but none of those others can stand at an end of a text that is read. -/
namespace Elicit.Json

theorem not_textBlank_of_isWord {w : List Char} {v : Json} (h : IsWord w v) :
    ∀ c ∈ w, Text.isBlank c = false := by
  cases h <;> simp [Text.isBlank]

theorem not_textBlank_of_isDigit {c : Char} (h : c.isDigit) : Text.isBlank c = false :=
  Text.not_isBlank_of_isAlphanum (by simp [Char.isAlphanum, h])

theorem not_textBlank_of_digit? {c : Char} {d : Nat} (h : Numeral.digit? c = some d) :
    Text.isBlank c = false := by
  unfold Numeral.digit? at h
  split_ifs at h with hd
  exact not_textBlank_of_isDigit hd

theorem not_textBlank_of_begins {frames : List Frame} {c : Char} {t : State}
    (h : Begins frames c t) : Text.isBlank c = false := by
  cases h with
  | word h => exact not_textBlank_of_isWord h c (by simp)
  | zero h => exact not_textBlank_of_digit? h
  | digit h _ => exact not_textBlank_of_digit? h
  | _ => rfl

theorem not_textBlank_of_numeral_more {n n' : Numeral} {c : Char} (h : n.step c = .more n') :
    Text.isBlank c = false := by
  rcases char_of_numeral_more h with hd | rfl | rfl | rfl | rfl | rfl
  · exact not_textBlank_of_isDigit hd
  all_goals rfl

/-- Of a word no blanks are left. -/
def State.Solid (s : State) : Prop :=
  ∀ left v, s.mode = .word left v → ∀ c ∈ left, Text.isBlank c = false

theorem solid_complete (frames : List Frame) (v : Json) : (complete frames v).Solid := by
  rcases frames with - | ⟨_ | _, _⟩ <;> exact nofun

theorem solid_start : State.start.Solid := by
  rintro left v ⟨⟩

theorem solid_of_begins {frames : List Frame} {c : Char} {t : State} (h : Begins frames c t) :
    t.Solid := by
  cases h with
  | word h =>
    rintro left v ⟨⟩ d hd
    exact not_textBlank_of_isWord h d (by simp [hd])
  | _ => exact nofun

theorem Move.solid {s t : State} {c : Char} (h : Move s c t) (hs : s.Solid) : t.Solid := by
  induction h with
  | blank => exact hs
  | value h => exact solid_of_begins h
  | firstItem h => exact solid_of_begins h
  | nextItem h => exact solid_of_begins h
  | emptyArray => exact solid_complete _ _
  | arrayEnd => exact solid_complete _ _
  | emptyObject => exact solid_complete _ _
  | objectEnd => exact solid_complete _ _
  | letter =>
    rintro left v ⟨⟩ d hd
    exact hs _ _ rfl d (by simp [hd])
  | lastLetter => exact solid_complete _ _
  | numeralEnd _ _ _ ih => exact ih (solid_complete _ _)
  | @textEnd _ purpose =>
    cases purpose with
    | value => exact solid_complete _ _
    | name => exact nofun
  | _ => exact nofun

/-- A blank after which a text may end adds nothing to what has been read before it. -/
theorem Move.finish_eq {s t : State} {c : Char} {v : Json} (h : Move s c t) (hs : s.Solid)
    (hc : Text.isBlank c) (hf : finish t = .ok v) : finish s = .ok v := by
  have hno : Text.isBlank c ≠ false := by simp [hc]
  induction h with
  | blank => exact hf
  | value h => exact absurd (not_textBlank_of_begins h) hno
  | firstItem h => exact absurd (not_textBlank_of_begins h) hno
  | nextItem h => exact absurd (not_textBlank_of_begins h) hno
  | letter => exact absurd (hs _ _ rfl _ (by simp)) hno
  | lastLetter => exact absurd (hs _ _ rfl _ (by simp)) hno
  | numeral h => exact absurd (not_textBlank_of_numeral_more h) hno
  | @numeralEnd frames n x _ _ _ hx _ ih =>
    have hcomplete := ih (solid_complete _ _) hc hf hno
    rcases frames with - | ⟨_ | _, _⟩
    · cases hcomplete
      simp [finish, hx]
    · cases hcomplete
    · cases hcomplete
  | text => cases hf
  | _ => exact absurd rfl hno

theorem read_trimStart {cs : List Char} {v : Json} (h : read cs = .ok v) :
    read (Text.trimStart cs) = .ok v := by
  induction cs with
  | nil => exact h
  | cons c cs ih =>
    rw [Text.trimStart, List.dropWhile_cons]
    split_ifs with hc
    · obtain ⟨t, ht, hf⟩ := read_eq_ok_iff.mp h
      obtain ⟨m, hm, ht⟩ := reaches_cons.mp ht
      cases move_of_step hm with
      | blank => exact ih (read_eq_ok_iff.mpr ⟨t, ht, hf⟩)
      | value hb =>
        rw [not_textBlank_of_begins hb] at hc
        cases hc
    · exact h

theorem read_trimEnd {cs : List Char} {v : Json} (h : read cs = .ok v) :
    read (Text.trimEnd cs) = .ok v := by
  induction cs using List.reverseRecOn with
  | nil => exact h
  | append_singleton cs c ih =>
    rw [Text.trimEnd, List.reverse_concat, List.dropWhile_cons]
    split_ifs with hc
    · obtain ⟨t, ht, hf⟩ := read_eq_ok_iff.mp h
      obtain ⟨m, hm, ht⟩ := reaches_append.mp ht
      obtain ⟨t', hstep, ht'⟩ := reaches_cons.mp ht
      obtain rfl := reaches_nil.mp ht'
      have hsolid : m.Solid := hm.induct Move.solid solid_start
      have hfinish := (move_of_step hstep).finish_eq hsolid hc hf
      exact ih (read_eq_ok_iff.mpr ⟨m, hm, hfinish⟩)
    · rwa [← List.reverse_concat, List.reverse_reverse]

/-- Trimming a JSON text does not change its value. -/
theorem read_trim {cs : List Char} {v : Json} (h : read cs = .ok v) :
    read (Text.trim cs) = .ok v :=
  read_trimEnd (read_trimStart h)

end Elicit.Json

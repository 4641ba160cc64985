import Elicit.Json.Reader
import Elicit.Proofs.Text.Size

/-! Where the reader stops: within the text that it reads. -/
namespace Elicit.Json

open Text (octetCount octetCount_pos)

/-- A stop at a character, if there is one, is no further than the character's end. -/
def StopsWithin {α : Type} (c : Char) (r : Except Stop α) : Prop :=
  ∀ e, r = .error e → e.reach ≤ octetCount c

namespace StopsWithin

variable {α β : Type} {c : Char}

theorem ok {a : α} : StopsWithin c (.ok a) := fun _ h => by cases h

theorem refuse {cause : Cause} : StopsWithin (α := α) c (refuse cause) := fun _ h => by
  cases h
  exact octetCount_pos c

theorem ite {p : Prop} [Decidable p] {r r' : Except Stop α} (h : StopsWithin c r)
    (h' : StopsWithin c r') : StopsWithin c (if p then r else r') := by
  split_ifs
  · exact h
  · exact h'

theorem bind {r : Except Stop α} {k : α → Except Stop β} (hr : StopsWithin c r)
    (hk : ∀ a, StopsWithin c (k a)) : StopsWithin c (r >>= k) := by
  intro e he
  cases r with
  | error e' =>
    cases he
    exact hr e rfl
  | ok a => exact hk a e he

end StopsWithin

theorem stopsWithin_openContainer (frames : List Frame) (m : Mode) (c : Char) :
    StopsWithin c (openContainer frames m) :=
  .ite .ok .refuse

theorem stopsWithin_beginValue (frames : List Frame) (c : Char) :
    StopsWithin c (beginValue frames c) := by
  have hopen := fun m => stopsWithin_openContainer frames m c
  unfold beginValue
  refine .ite .ok (.ite .ok (.ite .ok (.ite .ok (.ite .ok (.ite (hopen _) (.ite (hopen _) ?_))))))
  split
  · exact .ok
  · exact .ok
  · exact .refuse

theorem stopsWithin_stepBetween (frames : List Frame) (m : Mode) (c : Char) :
    StopsWithin c (stepBetween frames m c) := by
  unfold stepBetween
  refine .ite .ok ?_
  cases m with
  | value => exact stopsWithin_beginValue _ _
  | firstItem => exact .ite .ok (stopsWithin_beginValue _ _)
  | nextItem => exact .ite .refuse (stopsWithin_beginValue _ _)
  | afterItem | firstName | afterMember => exact .ite .ok (.ite .ok .refuse)
  | nextName => exact .ite .ok (.ite .refuse .refuse)
  | colon => exact .ite .ok .refuse
  | _ => exact .refuse

/-- A hexadecimal escape is only looked at with its fourth octet, which may lie within a
character. -/
theorem stopsWithin_stepHex (lead : Option Nat) (seen : Nat) (value : Option Nat) (c : Char) :
    StopsWithin c (stepHex lead seen value c) := by
  unfold stepHex
  dsimp only
  split_ifs with hseen
  · exact .ok
  split
  · intro e he
    cases he
    dsimp only
    omega
  · split
    · exact .ok
    · exact .refuse

theorem stopsWithin_stepEscape (e : Escape) (c : Char) : StopsWithin c (stepEscape e c) := by
  cases e with
  | none => exact .ite .ok (.ite .refuse .ok)
  | backslash =>
    unfold stepEscape
    dsimp only
    cases simpleEscape? c with
    | some d => exact .ok
    | none => exact .ite .ok .refuse
  | hex lead seen value => exact stopsWithin_stepHex lead seen value c
  | paired | pairedBackslash => exact .ite .ok .refuse

theorem stopsWithin_step (s : State) (c : Char) : StopsWithin c (step s c) := by
  obtain ⟨frames, m⟩ := s
  cases m with
  | word left v =>
    rcases left with - | ⟨l, left⟩
    · exact stopsWithin_stepBetween _ _ _
    · exact .ite .ok .refuse
  | numeral n =>
    simp only [step]
    split
    · exact .ok
    · exact .refuse
    · split
      · intro e he
        cases he
        exact Nat.zero_le _
      · exact stopsWithin_stepBetween _ _ _
  | text purpose chars e =>
    cases e with
    | none => exact .ite .ok (.bind (stopsWithin_stepEscape .none c) fun _ => .ok)
    | _ => exact .bind (stopsWithin_stepEscape _ c) fun _ => .ok
  | _ => exact stopsWithin_stepBetween _ _ _

/-- A line is counted for one octet at most, which no column counts then. -/
theorem Place.within_le {c : Char} {n : Nat} (h : n ≤ octetCount c) (p : Place) :
    (p.within c n).line + (p.within c n).column ≤ p.line + p.column + octetCount c := by
  have hpos := octetCount_pos c
  unfold within
  split_ifs <;> dsimp only <;> omega

theorem run_place_le {s : State} {p : Place} {cs : List Char} {f : Fault}
    (h : run s p cs = .error f) :
    f.place.line + f.place.column ≤ p.line + p.column + (String.ofList cs).utf8ByteSize := by
  induction cs generalizing s p with
  | nil =>
    rw [run] at h
    cases hf : finish s with
    | ok v => rw [hf] at h; cases h
    | error cause =>
      rw [hf] at h
      cases h
      exact Nat.le_add_right _ _
  | cons c cs ih =>
    rw [Text.utf8ByteSize_ofList_cons]
    rw [run] at h
    cases hs : step s c with
    | ok s' =>
      rw [hs] at h
      have hrest := ih h
      have hafter : (p.after c).line + (p.after c).column ≤ _ := p.within_le (Nat.le_refl _)
      omega
    | error e =>
      rw [hs] at h
      cases h
      have hwithin := p.within_le (stopsWithin_step s c e hs)
      dsimp only
      omega

/-- The line and the column of a fault together are at most one more than the octets read. -/
theorem read_place_le {cs : List Char} {f : Fault} (h : read cs = .error f) :
    f.place.line + f.place.column ≤ (String.ofList cs).utf8ByteSize + 1 := by
  have hrun := run_place_le h
  dsimp only [Place.start] at hrun
  omega

theorem utf8ByteSize_causeMessage (c : Cause) :
    12 ≤ c.message.utf8ByteSize ∧ c.message.utf8ByteSize ≤ 62 := by
  cases c <;> decide

theorem utf8ByteSize_faultMessage (f : Fault) :
    f.message.utf8ByteSize = f.cause.message.utf8ByteSize + (toString f.place.line).utf8ByteSize +
      (toString f.place.column).utf8ByteSize + 17 := by
  have hline : " at line ".utf8ByteSize = 9 := by decide
  have hcolumn : " column ".utf8ByteSize = 8 := by decide
  simp only [Fault.message, String.utf8ByteSize_append, hline, hcolumn]
  omega

theorem le_utf8ByteSize_faultMessage (f : Fault) : 31 ≤ f.message.utf8ByteSize := by
  have hcause := (utf8ByteSize_causeMessage f.cause).1
  have hline := Text.utf8ByteSize_numeral_pos f.place.line
  have hcolumn := Text.utf8ByteSize_numeral_pos f.place.column
  rw [utf8ByteSize_faultMessage]
  omega

/-- A fault is told in a number of bytes that grows with the digits of its place only. -/
theorem utf8ByteSize_faultMessage_le {cs : List Char} {f : Fault} {d : Nat}
    (h : read cs = .error f) (hd : (String.ofList cs).utf8ByteSize + 1 < 10 ^ d) :
    f.message.utf8ByteSize ≤ 79 + 2 * d := by
  have hplace := read_place_le h
  have hcause := (utf8ByteSize_causeMessage f.cause).2
  have hpos : 0 < d := Nat.pos_of_ne_zero (by rintro rfl; omega)
  have hline : (toString f.place.line).utf8ByteSize ≤ d :=
    Text.utf8ByteSize_numeral_le hpos (by omega)
  have hcolumn : (toString f.place.column).utf8ByteSize ≤ d :=
    Text.utf8ByteSize_numeral_le hpos (by omega)
  rw [utf8ByteSize_faultMessage]
  omega

end Elicit.Json

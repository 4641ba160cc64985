import Elicit.Json.Printer
import Elicit.Proofs.Json.Reading
import Mathlib.Data.List.Basic

/-! Texts that spell a value: wherever a value may stand, reading them gives that value. -/
namespace Elicit.Json

/-- The reader has a value: it stands after the value, or within a number that may end here. -/
def Settles (s : State) (frames : List Frame) (v : Json) : Prop :=
  s = complete frames v ∨
    ∃ n x, v = .number x ∧ n.finish = .ok x ∧ s = ⟨frames, .numeral n⟩

/-- Within `depth` containers, the text is read as the value. -/
def Spells (depth : Nat) (cs : List Char) (v : Json) : Prop :=
  ∀ frames : List Frame, frames.length = depth →
    ∃ s, Reaches ⟨frames, .value⟩ cs s ∧ Settles s frames v

/-- The characters that may follow a value. -/
def isDelimiter (c : Char) : Bool := isBlank c || c == ',' || c == ']' || c == '}'

theorem numeral_stop {n : Numeral} {x : Number} {c : Char} (hn : n.finish = .ok x)
    (hc : isDelimiter c) : n.step c = .stop := by
  have hd : c.isDigit = false ∧ c ≠ '.' ∧ c ≠ 'e' ∧ c ≠ 'E' := by
    simp only [isDelimiter, Bool.or_eq_true, beq_iff_eq] at hc
    rcases hc with ((hb | rfl) | rfl) | rfl
    · rcases eq_of_isBlank hb with rfl | rfl | rfl | rfl <;> decide
    all_goals decide
  obtain ⟨hd, h1, h2, h3⟩ := hd
  have hd' : Numeral.digit? c = none := by simp [Numeral.digit?, hd]
  cases n <;> first
    | (simp [Numeral.finish] at hn; done)
    | simp [Numeral.step, Numeral.leaveWhole, hd, hd', h1, h2, h3]

/-- What follows a value is read as if the value were complete. -/
theorem Settles.step_eq {s : State} {frames : List Frame} {v : Json} (h : Settles s frames v)
    {c : Char} (hc : isDelimiter c) : step s c = step (complete frames v) c := by
  rcases h with rfl | ⟨n, x, rfl, hn, rfl⟩
  · rfl
  · have hs : step ⟨frames, .numeral n⟩ c =
        stepBetween (complete frames (.number x)).frames (complete frames (.number x)).mode c := by
      simp [step, numeral_stop hn hc, hn]
    rw [hs]
    rcases frames with - | ⟨_ | _, _⟩ <;> rfl

theorem Settles.reaches {s t : State} {frames : List Frame} {v : Json} (h : Settles s frames v)
    {c : Char} {cs : List Char} (hc : isDelimiter c)
    (ht : Reaches (complete frames v) (c :: cs) t) : Reaches s (c :: cs) t := by
  obtain ⟨m, hm, ht⟩ := reaches_cons.mp ht
  exact ht.cons ((h.step_eq hc).trans hm)

theorem Settles.finish {s : State} {v : Json} (h : Settles s [] v) : finish s = .ok v := by
  rcases h with rfl | ⟨n, x, rfl, hn, rfl⟩
  · rfl
  · simp [Json.finish, hn]

theorem Settles.ne_value {s : State} {frames : List Frame} {v : Json} (h : Settles s frames v) :
    s.mode ≠ .value := by
  rcases h with rfl | ⟨n, x, rfl, hn, rfl⟩
  · rcases frames with - | ⟨_ | _, _⟩ <;> simp [complete]
  · simp

/-- A text that spells a value is read as that value. -/
theorem Spells.read {cs : List Char} {v : Json} (h : Spells 0 cs v) : read cs = .ok v := by
  obtain ⟨s, hs, hv⟩ := h [] rfl
  exact read_eq_ok_iff.mpr ⟨s, hs, hv.finish⟩

/-- An item is read as a value within the array. -/
theorem reaches_item {frames : List Frame} {m : Mode} {items : List Json}
    (hm : m = .firstItem ∧ items = [] ∨ m = .nextItem items) {cs : List Char} {t : State}
    (h : Reaches ⟨.array items :: frames, .value⟩ cs t) (ht : t.mode ≠ .value) :
    Reaches ⟨frames, m⟩ cs t := by
  have hbetween : m.isBetween := by rcases hm with ⟨rfl, -⟩ | rfl <;> rfl
  induction cs with
  | nil => exact absurd (congrArg State.mode (reaches_nil.mp h).symm) ht
  | cons c cs ih =>
    obtain ⟨s, hs, h'⟩ := reaches_cons.mp h
    by_cases hc : isBlank c
    · rw [step_blank rfl hc] at hs
      cases hs
      exact Reaches.cons (step_blank hbetween hc) (ih h')
    · have hne : c ≠ ']' := by
        rintro rfl
        cases hs
      refine Reaches.cons ?_ h'
      rw [← hs]
      rcases hm with ⟨rfl, rfl⟩ | rfl <;> simp [step, stepBetween, hc, hne]

end Elicit.Json

import Elicit.Proofs.Text.Excerpt
import Elicit.Text.Utf8
import Mathlib.Algebra.Order.Ring.Nat

/-! How many bytes a text takes. -/
namespace Elicit.Text

theorem octetCount_eq_utf8Size (c : Char) : octetCount c = c.utf8Size := by
  unfold octetCount Char.utf8Size
  simp only [UInt32.le_iff_toNat_le, Char.toNat_val, UInt32.reduceOfNatLT, UInt32.reduceToNat]
  split_ifs <;> omega

theorem octetCount_pos (c : Char) : 0 < octetCount c := by
  rw [octetCount_eq_utf8Size]
  exact c.utf8Size_pos

theorem utf8ByteSize_ofList_cons (c : Char) (cs : List Char) :
    (String.ofList (c :: cs)).utf8ByteSize = octetCount c + (String.ofList cs).utf8ByteSize := by
  rw [String.ofList_cons, String.utf8ByteSize_append, String.utf8ByteSize_singleton,
    octetCount_eq_utf8Size]

/-- A part of a text takes no more bytes than the text. -/
theorem utf8ByteSize_le_of_isInfix {part cs : List Char} (h : part <:+: cs) :
    (String.ofList part).utf8ByteSize ≤ (String.ofList cs).utf8ByteSize := by
  obtain ⟨front, back, rfl⟩ := h
  rw [String.ofList_append, String.ofList_append, String.utf8ByteSize_append,
    String.utf8ByteSize_append]
  omega

theorem utf8ByteSize_le_mul_length {k : Nat} {cs : List Char} (h : ∀ c ∈ cs, octetCount c ≤ k) :
    (String.ofList cs).utf8ByteSize ≤ k * cs.length := by
  induction cs with
  | nil => exact Nat.zero_le _
  | cons c cs ih =>
    have hc := h c List.mem_cons_self
    have hcs := ih fun d hd => h d (List.mem_cons_of_mem c hd)
    rw [utf8ByteSize_ofList_cons, List.length_cons, Nat.mul_succ]
    omega

theorem octetCount_of_isDigit {c : Char} (h : c.isDigit) : octetCount c = 1 := by
  have hnine : c.toNat ≤ 57 := by
    simp only [Char.isDigit, Bool.and_eq_true, decide_eq_true_eq, UInt32.le_iff_toNat_le] at h
    exact h.2
  exact if_pos (by omega)

/-- A numeral of at most `d` digits takes at most `d` bytes. -/
theorem utf8ByteSize_numeral_le {n d : Nat} (hd : 0 < d) (h : n < 10 ^ d) :
    (toString n).utf8ByteSize ≤ d := by
  have hlength : n.repr.length ≤ d := (Nat.length_repr_le_iff hd).mpr h
  have hdigits : ∀ c ∈ n.repr.toList, octetCount c ≤ 1 := by
    intro c hc
    rw [Nat.toList_repr] at hc
    exact Nat.le_of_eq
      (octetCount_of_isDigit (Nat.isDigit_of_mem_toDigits (by decide) (by decide) hc))
  have hsize := utf8ByteSize_le_mul_length hdigits
  rw [String.ofList_toList, String.length_toList] at hsize
  rw [Nat.toString_eq_repr]
  omega

theorem utf8ByteSize_numeral_pos (n : Nat) : 0 < (toString n).utf8ByteSize := by
  rw [Nat.pos_iff_ne_zero, Ne, String.utf8ByteSize_eq_zero_iff, Nat.toString_eq_repr,
    ← String.toList_eq_nil_iff, Nat.toList_repr]
  exact Nat.toDigits_ne_nil

/-- Texts put together take their own bytes and those of a separator for each but one. -/
theorem utf8ByteSize_intercalate (separator : String) {ts : List String} (h : ts ≠ []) :
    (separator.intercalate ts).utf8ByteSize + separator.utf8ByteSize =
      (ts.map fun t => t.utf8ByteSize + separator.utf8ByteSize).sum := by
  induction ts with
  | nil => contradiction
  | cons t ts ih =>
    rw [List.map_cons, List.sum_cons]
    rcases ts with - | ⟨t', ts⟩
    · rw [String.intercalate_singleton]
      rfl
    · rw [String.intercalate_cons_cons, String.utf8ByteSize_append, String.utf8ByteSize_append,
        ← ih (List.cons_ne_nil t' ts)]
      omega

/-- An excerpt takes at most the bytes of as many characters as it may show and of three dots. -/
theorem utf8ByteSize_excerpt_le {k : Nat} {s : String} (h : ∀ c ∈ s.toList, octetCount c ≤ k)
    (limit : Nat) : (excerpt limit s).utf8ByteSize ≤ k * limit + 3 := by
  have hdots : "...".utf8ByteSize = 3 := by decide
  by_cases hlimit : limit < s.length
  · have htaken : (String.ofList (s.toList.take limit)).utf8ByteSize ≤
        k * (s.toList.take limit).length :=
      utf8ByteSize_le_mul_length fun c hc => h c (List.mem_of_mem_take hc)
    have hcount : k * (s.toList.take limit).length ≤ k * limit :=
      Nat.mul_le_mul_left k (List.length_take_le _ _)
    rw [excerpt_of_lt hlimit, String.utf8ByteSize_append, hdots]
    omega
  · have hwhole := utf8ByteSize_le_mul_length h
    have hcount : k * s.length ≤ k * limit := Nat.mul_le_mul_left k (Nat.not_lt.mp hlimit)
    rw [String.ofList_toList, String.length_toList] at hwhole
    rw [excerpt_of_le (Nat.not_lt.mp hlimit)]
    omega

end Elicit.Text

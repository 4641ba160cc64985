import Elicit.RetryDelay
import Mathlib.Algebra.Order.Ring.Nat
import Mathlib.Tactic.Ring
import Mathlib.Tactic.SplitIfs

/-! Waits that double, in exact nanoseconds. A wait is the base times a power of two, bounded by the
greatest wait; but the power stops growing, so that a long run of retries stays below the bound
where the base is small against it. Waits are in the order of what they are made of, and no step of
working them out is too great for its word. -/
namespace Elicit

namespace Duration

theorem toNanos_longest : longest.toNanos = 18446744073709551616 * 1000000000 - 1 := rfl

theorem toNanos_le_longest (d : Duration) : d.toNanos ≤ longest.toNanos := by
  have hs := d.secs_lt
  have hn := d.nanos_lt
  rw [toNanos_longest, toNanos]
  omega

theorem toNanos_inj {a b : Duration} (h : a.toNanos = b.toNanos) : a = b := by
  have ha := a.nanos_lt
  have hb := b.nanos_lt
  unfold toNanos at h
  ext <;> omega

theorem le_iff_toNanos_le {a b : Duration} : a.le b ↔ a.toNanos ≤ b.toNanos := by
  have ha := a.nanos_lt
  have hb := b.nanos_lt
  simp only [le, toNanos, Bool.or_eq_true, Bool.and_eq_true, decide_eq_true_eq, beq_iff_eq]
  omega

theorem toNanos_shorter (a b : Duration) : (a.shorter b).toNanos = min a.toNanos b.toNanos := by
  unfold shorter
  split_ifs with h
  · exact (Nat.min_eq_left (le_iff_toNanos_le.mp h)).symm
  · rw [le_iff_toNanos_le] at h
    exact (Nat.min_eq_right (by omega)).symm

/-- Parts that are too great exceed the longest span; all others are kept to the nanosecond. -/
theorem toNanos_ofParts? (secs nanos : Nat) : ((ofParts? secs nanos).getD longest).toNanos =
    min (secs * 1000000000 + nanos) longest.toNanos := by
  have hd := Nat.div_add_mod nanos 1000000000
  rw [toNanos_longest, ofParts?]
  split_ifs with h
  · rw [Option.getD_some]
    change (secs + nanos / 1000000000) * 1000000000 + nanos % 1000000000 = _
    omega
  · rw [Option.getD_none, toNanos_longest]
    omega

theorem toNanos_saturatingMul (d : Duration) (n : Nat) :
    (d.saturatingMul n).toNanos = min (d.toNanos * n) longest.toNanos := by
  have hparts : d.secs * n * 1000000000 + d.nanos * n = d.toNanos * n := by
    unfold toNanos
    ring
  rw [saturatingMul, toNanos_ofParts?, hparts]

end Duration

namespace RetryDelay

/-- More doublings of `n` come to the same under the bound `m` only if there is nothing to double or
the fewer ones reach the bound. -/
theorem min_mul_pow_eq_iff {n m d e : Nat} (h : d < e) :
    min (n * 2 ^ d) m = min (n * 2 ^ e) m ↔ n = 0 ∨ m ≤ n * 2 ^ d := by
  rcases Nat.eq_zero_or_pos n with rfl | hn
  · simp only [Nat.zero_mul, true_or]
  · have hpower : 2 ^ d < 2 ^ e := Nat.pow_lt_pow_right (by decide) h
    have hgrows : n * 2 ^ d < n * 2 ^ e := Nat.mul_lt_mul_of_pos_left hpower hn
    generalize n * 2 ^ d = fewer at *
    omega

/-- The wait in exact nanoseconds: no product saturates below the greatest wait. -/
theorem toNanos_beforeRetry (base max : Duration) (retry : Nat) :
    (beforeRetry (.exponential base max) retry).toNanos =
      min (base.toNanos * 2 ^ min (retry - 1) maxDoublings) max.toNanos := by
  have hmax := max.toNanos_le_longest
  change (Duration.shorter (base.saturatingMul (2 ^ min (retry - 1) maxDoublings)) max).toNanos = _
  rw [Duration.toNanos_shorter, Duration.toNanos_saturatingMul, Nat.min_assoc,
    Nat.min_eq_right hmax]

/-- The wait is the base doubled at every retry after the first, up to the greatest wait, for as long
as the doublings count, and beyond them only if the base is zero or the greatest wait has been
reached. Otherwise waits stay the same from there on, below the greatest. -/
theorem beforeRetry_doubles_iff (base max : Duration) (retry : Nat) :
    (beforeRetry (.exponential base max) retry).toNanos =
        min (base.toNanos * 2 ^ (retry - 1)) max.toNanos ↔
      retry ≤ 31 ∨ base = .zero ∨ max.toNanos ≤ base.toNanos * 2 ^ 30 := by
  rw [toNanos_beforeRetry]
  have hzero : base = .zero ↔ base.toNanos = 0 :=
    ⟨fun h => by rw [h]; rfl, fun h => Duration.toNanos_inj h⟩
  by_cases hretry : retry ≤ 31
  · have hexponent : min (retry - 1) maxDoublings = retry - 1 := by
      unfold maxDoublings
      omega
    rw [hexponent]
    exact iff_of_true rfl (.inl hretry)
  · have hexponent : min (retry - 1) maxDoublings = 30 := by
      unfold maxDoublings
      omega
    rw [hexponent, min_mul_pow_eq_iff (by omega), hzero]
    exact (or_iff_right hretry).symm

/-- A nanosecond is never doubled to more than about a second. -/
example : (beforeRetry (.exponential ⟨0, 1, by decide, by decide⟩ .longest) 1000).toNanos =
    1073741824 := by decide

end RetryDelay

/-- A number that a word of so many bits holds. -/
def word? (bits n : Nat) : Option Nat := if n < 2 ^ bits then some n else none

theorem word?_of_lt {bits n : Nat} (h : n < 2 ^ bits) : word? bits n = some n := if_pos h

theorem word?_of_le {bits n : Nat} (h : 2 ^ bits ≤ n) : word? bits n = none :=
  if_neg (Nat.not_lt.mpr h)

namespace Duration

/-- Seconds and nanoseconds of a span `n` times over, in words: nothing if the nanoseconds overflow,
and the longest span if the seconds do. -/
def timesInWords? (d : Duration) (n : Nat) : Option (Nat × Nat) := do
  let product ← word? 64 (d.nanos * n)
  let nanos ← word? 32 (product % 1000000000)
  match (word? 64 (d.secs * n)).bind fun secs => word? 64 (secs + product / 1000000000) with
  | some secs => some (secs, nanos)
  | none => some (longest.secs, longest.nanos)

theorem timesInWords?_eq (d : Duration) {n : Nat} (hn : n < 2 ^ 32) :
    d.timesInWords? n = some ((d.saturatingMul n).secs, (d.saturatingMul n).nanos) := by
  have hproduct : d.nanos * n < 2 ^ 64 := by
    calc d.nanos * n ≤ 1000000000 * n := Nat.mul_le_mul_right n d.nanos_lt.le
      _ < 2 ^ 64 := by omega
  have hnanos : d.nanos * n % 1000000000 < 2 ^ 32 := by omega
  have hwords : d.timesInWords? n =
      match (word? 64 (d.secs * n)).bind fun secs => word? 64 (secs + d.nanos * n / 1000000000) with
      | some secs => some (secs, d.nanos * n % 1000000000)
      | none => some (longest.secs, longest.nanos) := by
    simp only [timesInWords?, word?_of_lt hproduct, word?_of_lt hnanos, Option.bind_eq_bind,
      Option.bind_some]
  rw [hwords, saturatingMul, ofParts?]
  split_ifs with hfits
  · have hsecs : d.secs * n < 2 ^ 64 := by omega
    rw [word?_of_lt hsecs, Option.bind_some, word?_of_lt hfits]
    rfl
  · have hover : ((word? 64 (d.secs * n)).bind fun secs =>
        word? 64 (secs + d.nanos * n / 1000000000)) = none := by
      by_cases hsecs : d.secs * n < 2 ^ 64
      · rw [word?_of_lt hsecs, Option.bind_some]
        exact word?_of_le (Nat.le_of_not_lt hfits)
      · rw [word?_of_le (Nat.le_of_not_lt hsecs)]
        rfl
    rw [hover]
    rfl

end Duration

namespace RetryDelay

/-- The wait before a retry as seconds and nanoseconds, in words; nothing if the power or the product
of the nanoseconds overflows. A retry whose number does not fit counts as the last one that does. -/
def waitInWords? (base max : Duration) (retry : Nat) : Option (Nat × Nat) := do
  let doublings := min ((word? 32 (retry - 1)).getD 4294967295) maxDoublings
  let factor ← word? 32 (2 ^ doublings)
  let (secs, nanos) ← base.timesInWords? factor
  if secs < max.secs ∨ secs = max.secs ∧ nanos ≤ max.nanos then some (secs, nanos)
  else some (max.secs, max.nanos)

theorem waitInWords?_eq (base max : Duration) (retry : Nat) : waitInWords? base max retry =
    some ((beforeRetry (.exponential base max) retry).secs,
      (beforeRetry (.exponential base max) retry).nanos) := by
  have hdoublings : min ((word? 32 (retry - 1)).getD 4294967295) maxDoublings =
      min (retry - 1) maxDoublings := by
    by_cases hfits : retry - 1 < 2 ^ 32
    · rw [word?_of_lt hfits, Option.getD_some]
    · rw [word?_of_le (Nat.le_of_not_lt hfits), Option.getD_none]
      unfold maxDoublings
      omega
  have hfactor : 2 ^ min (retry - 1) maxDoublings < 2 ^ 32 := by
    refine Nat.pow_lt_pow_right (by decide) ?_
    unfold maxDoublings
    omega
  have hproduct := base.timesInWords?_eq hfactor
  simp only [waitInWords?, hdoublings, word?_of_lt hfactor, hproduct, Option.bind_eq_bind,
    Option.bind_some]
  change _ = some ((Duration.shorter (base.saturatingMul (2 ^ min (retry - 1) maxDoublings))
    max).secs, (Duration.shorter (base.saturatingMul (2 ^ min (retry - 1) maxDoublings)) max).nanos)
  generalize base.saturatingMul (2 ^ min (retry - 1) maxDoublings) = product
  have hle : product.le max ↔
      product.secs < max.secs ∨ product.secs = max.secs ∧ product.nanos ≤ max.nanos := by
    simp [Duration.le]
  by_cases h : product.le max
  · rw [if_pos (hle.mp h), Duration.shorter, if_pos h]
  · rw [if_neg (mt hle.mpr h), Duration.shorter, if_neg h]

/-- Waits grow with the base, with the greatest wait and with the number of the retry, and none
exceeds the greatest wait. The words that a wait is worked out in hold every step of it, and what
they come to is a span: the base doubled at most thirty times, or the greatest wait. -/
theorem beforeRetry_ordered {base base' max max' : Duration} {retry retry' : Nat}
    (hbase : base.le base') (hmax : max.le max') (hretry : retry ≤ retry') :
    (beforeRetry (.exponential base max) retry).le
      (beforeRetry (.exponential base' max') retry') ∧
    (beforeRetry (.exponential base max) retry).le max ∧
    ∃ secs nanos, waitInWords? base max retry = some (secs, nanos) ∧
      secs * 1000000000 + nanos = min (base.toNanos * 2 ^ min (retry - 1) 30) max.toNanos ∧
      ∃ (hsecs : secs < 18446744073709551616) (hnanos : nanos < 1000000000),
        beforeRetry (.exponential base max) retry = ⟨secs, nanos, hsecs, hnanos⟩ := by
  rw [Duration.le_iff_toNanos_le] at hbase hmax
  have hexact := toNanos_beforeRetry base max retry
  refine ⟨?_, ?_, ?_⟩
  · have hdoublings : min (retry - 1) maxDoublings ≤ min (retry' - 1) maxDoublings := by omega
    have hpower : 2 ^ min (retry - 1) maxDoublings ≤ 2 ^ min (retry' - 1) maxDoublings :=
      Nat.pow_le_pow_right (by decide) hdoublings
    rw [Duration.le_iff_toNanos_le, hexact, toNanos_beforeRetry]
    exact min_le_min (Nat.mul_le_mul hbase hpower) hmax
  · rw [Duration.le_iff_toNanos_le, hexact]
    exact Nat.min_le_right _ _
  · have hwords := waitInWords?_eq base max retry
    generalize beforeRetry (.exponential base max) retry = wait at hwords hexact
    exact ⟨wait.secs, wait.nanos, hwords, hexact, wait.secs_lt, wait.nanos_lt, rfl⟩

/-- The longest span cannot be doubled, and is waited for all the same. -/
theorem beforeRetry_ordered_longest :
    (beforeRetry (.exponential ⟨1, 500000000, by decide, by decide⟩ (.ofSecs 60)) 0).le
      (beforeRetry (.exponential .longest .longest) 18446744073709551615) ∧
    (beforeRetry (.exponential .longest .longest) 18446744073709551615).le .longest ∧
    ∃ secs nanos, waitInWords? .longest .longest 18446744073709551615 = some (secs, nanos) ∧
      secs * 1000000000 + nanos = Duration.longest.toNanos := by
  obtain ⟨hgrows, -, -⟩ := @beforeRetry_ordered ⟨1, 500000000, by decide, by decide⟩ .longest
    (.ofSecs 60) .longest 0 18446744073709551615 (by decide) (by decide) (by decide)
  obtain ⟨-, hmax, secs, nanos, hwords, hexact, -⟩ := @beforeRetry_ordered .longest .longest
    .longest .longest 18446744073709551615 18446744073709551615 (by decide) (by decide) le_rfl
  rw [Nat.min_eq_right (Nat.le_mul_of_pos_right _ (Nat.two_pow_pos _))] at hexact
  exact ⟨hgrows, hmax, secs, nanos, hwords, hexact⟩

end RetryDelay

end Elicit

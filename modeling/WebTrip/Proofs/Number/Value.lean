import Mathlib.Algebra.Order.Field.Power
import Mathlib.Data.Nat.Cast.Field
import Mathlib.Data.Rat.Cast.Order
import Mathlib.Tactic.FieldSimp
import Mathlib.Tactic.Positivity
import WebTrip.Number.Double

/-!
# Exact values of binary64 numbers

Every finite binary64 number stands for a rational number. Which of them are integers, and which
integer that is, is said here about these values.

## Main statements

- `Double.isWhole_iff`: a number is whole if its value is an integer
- `Double.truncate_of_value_eq`: the integer part of a whole number is its value
-/

namespace WebTrip.Double

/-- The rational number that a binary64 number stands for. -/
def value (x : Double) : ℚ :=
  (if x.negative then -1 else 1) * (x.significand * 2 ^ x.exponent)

/-- The magnitude of the value is the quotient that `ratio` computes. -/
theorem ratio_div (x : Double) :
    (x.ratio.1 : ℚ) / x.ratio.2 = x.significand * 2 ^ x.exponent := by
  unfold ratio scaleByTwo
  split_ifs with h
  · obtain ⟨e, he⟩ := Int.eq_ofNat_of_zero_le h
    simp [he]
  · obtain ⟨e, he⟩ := Int.eq_ofNat_of_zero_le (by omega : 0 ≤ -x.exponent)
    have hneg : x.exponent = -(e : ℤ) := by omega
    simp [hneg, zpow_neg, div_eq_mul_inv]

theorem ratio_snd_pos (x : Double) : 0 < x.ratio.2 := by
  unfold ratio scaleByTwo
  split_ifs <;> simp

/-- The value is the quotient with the number's sign. -/
theorem value_eq_ratio (x : Double) :
    x.value = (if x.negative then -1 else 1) * ((x.ratio.1 : ℚ) / x.ratio.2) := by
  rw [value, ratio_div]

/-- A whole number's value is its integer part. -/
theorem value_of_isWhole {x : Double} (h : x.isWhole = true) : x.value = x.truncate := by
  have hdvd : x.ratio.2 ∣ x.ratio.1 := Nat.dvd_of_mod_eq_zero (by simpa [isWhole] using h)
  rw [value_eq_ratio, ← Nat.cast_div_charZero hdvd]
  unfold truncate
  by_cases hn : x.negative = true
  · simp only [hn, if_true, Int.cast_neg, Int.cast_natCast, neg_one_mul]
  · simp only [hn, if_false, Bool.false_eq_true, Int.cast_natCast, one_mul]

/-- A number is whole if its value is an integer. -/
theorem isWhole_iff (x : Double) : x.isWhole = true ↔ ∃ n : ℤ, x.value = n := by
  refine ⟨fun h => ⟨x.truncate, value_of_isWhole h⟩, ?_⟩
  rintro ⟨n, hn⟩
  have hden : (x.ratio.2 : ℚ) ≠ 0 := Nat.cast_ne_zero.mpr x.ratio_snd_pos.ne'
  have hmul : (x.ratio.1 : ℤ) = (if x.negative then -n else n) * x.ratio.2 := by
    rw [value_eq_ratio] at hn
    by_cases hneg : x.negative = true
    · simp only [hneg, if_true] at hn ⊢
      have : (x.ratio.1 : ℚ) = -n * x.ratio.2 := by
        rw [← hn]
        field_simp
      exact_mod_cast this
    · simp only [hneg, Bool.false_eq_true, if_false, one_mul] at hn ⊢
      have : (x.ratio.1 : ℚ) = n * x.ratio.2 := by
        rw [← hn]
        field_simp
      exact_mod_cast this
  have hdvd : x.ratio.2 ∣ x.ratio.1 := by
    rw [← Int.natCast_dvd_natCast, hmul]
    exact Dvd.intro_left _ rfl
  simpa [isWhole] using Nat.mod_eq_zero_of_dvd hdvd

/-- The integer part of a number whose value is an integer is that integer. -/
theorem truncate_of_value_eq {x : Double} {n : ℤ} (h : x.value = n) : x.truncate = n := by
  have := value_of_isWhole ((isWhole_iff x).mpr ⟨n, h⟩)
  exact_mod_cast this.symm.trans h

end WebTrip.Double

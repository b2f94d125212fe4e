import Mathlib.Algebra.Order.Field.Basic
import Mathlib.Data.Rat.Cast.Order
import Mathlib.Tactic.FieldSimp
import Mathlib.Tactic.GCongr
import Mathlib.Tactic.Linarith
import Mathlib.Tactic.Positivity
import Mathlib.Tactic.Ring
import WebTrip.Number.Decimal.Reader

/-!
# Exact values of scaled decimals

A scaled decimal stands for a rational number, and most rational numbers are not decimals: they have
too many places or too many digits. A decimal that is made from such a number is a rounding of it.

## Main definitions

- `Decimal.value`: the rational number that a decimal stands for
- `IsDecimal`: a rational number that is the value of some decimal
- `Decimal.Rounds`: a decimal that is a number itself or as near to it as the limits allow

## Main statements

- `Decimal.whole?_eq_some_iff`: the integer that a decimal is equal to is its value
- `not_isDecimal`: a number between two neighbours at the limits is not a decimal
-/

namespace WebTrip

/-! ## §1 Values -/

/-- A number with a sign. -/
def withSign (negative : Bool) (q : ℚ) : ℚ :=
  if negative then -q else q

theorem withSign_injective (negative : Bool) : Function.Injective (withSign negative) := by
  intro p q h
  cases negative
  · exact h
  · exact neg_injective h

@[simp]
theorem abs_withSign (negative : Bool) (q : ℚ) : |withSign negative q| = |q| := by
  cases negative
  · rfl
  · exact abs_neg q

theorem withSign_sub (negative : Bool) (p q : ℚ) :
    withSign negative p - withSign negative q = withSign negative (p - q) := by
  cases negative
  · rfl
  · simp only [withSign, if_true]
    ring

theorem withSign_mul (negative : Bool) (p q : ℚ) :
    withSign negative p * q = withSign negative (p * q) := by
  cases negative
  · rfl
  · exact neg_mul p q

namespace Decimal

/-- The magnitude of a decimal. -/
def magnitude (d : Decimal) : ℚ :=
  d.mantissa / 10 ^ d.scale

/-- The rational number that a decimal stands for. -/
def value (d : Decimal) : ℚ :=
  withSign d.negative d.magnitude

theorem magnitude_nonneg (d : Decimal) : 0 ≤ d.magnitude := by
  unfold magnitude
  positivity

theorem cast_signed (d : Decimal) (a : ℕ) : (d.signed a : ℚ) = withSign d.negative a := by
  unfold signed withSign
  split_ifs <;> simp

theorem whole?_of_mantissa {d : Decimal} {a : ℕ} (h : d.mantissa = a * 10 ^ d.scale) :
    d.whole? = some (d.signed a) := by
  have hpos : 0 < 10 ^ d.scale := by positivity
  rw [whole?, h, if_pos (Nat.mul_mod_left a _), Nat.mul_div_cancel a hpos]

/-- **Whole decimals.** The integer that a decimal is equal to is its value. -/
theorem whole?_eq_some_iff {d : Decimal} {n : ℤ} : d.whole? = some n ↔ d.value = n := by
  have hpow : (10 ^ d.scale : ℚ) ≠ 0 := by positivity
  constructor
  · intro h
    obtain ⟨a, ha⟩ : ∃ a, d.mantissa = a * 10 ^ d.scale := by
      unfold whole? at h
      split_ifs at h with hmod
      exact ⟨_, (Nat.div_mul_cancel (Nat.dvd_of_mod_eq_zero hmod)).symm⟩
    obtain rfl : d.signed a = n := Option.some.inj ((whole?_of_mantissa ha).symm.trans h)
    rw [cast_signed, value, magnitude, ha, Nat.cast_mul, Nat.cast_pow, Nat.cast_ofNat,
      mul_div_cancel_right₀ _ hpow]
  · intro h
    -- the magnitude of the integer is what the power of ten has to be multiplied with
    have hmagnitude : d.magnitude = n.natAbs := by
      have := congrArg abs h
      rwa [value, abs_withSign, abs_of_nonneg d.magnitude_nonneg, ← Int.cast_abs,
        Int.abs_eq_natAbs, Int.cast_natCast] at this
    have hmantissa : d.mantissa = n.natAbs * 10 ^ d.scale := by
      rw [magnitude, div_eq_iff hpow] at hmagnitude
      exact_mod_cast hmagnitude
    have hsigned : d.signed n.natAbs = n := by
      have : (d.signed n.natAbs : ℚ) = n := by rw [cast_signed, ← hmagnitude, ← h, value]
      exact_mod_cast this
    rw [whole?_of_mantissa hmantissa, hsigned]

theorem make?_eq_some_iff {negative : Bool} {m k : ℕ} {d : Decimal} :
    make? negative m k = some d ↔ d.negative = negative ∧ d.mantissa = m ∧ d.scale = k := by
  unfold make?
  constructor
  · intro h
    split_ifs at h
    cases h
    exact ⟨rfl, rfl, rfl⟩
  · rintro ⟨rfl, rfl, rfl⟩
    rw [dif_pos ⟨d.mantissa_lt, d.scale_le⟩]

end Decimal

/-! ## §2 Which numbers are decimals -/

/-- A rational number is a decimal if its magnitude has at most 28 places, and with these at most 96
bits of digits. -/
def IsDecimal (q : ℚ) : Prop :=
  ∃ m k : ℕ, m < 2 ^ 96 ∧ k ≤ 28 ∧ |q| = m / 10 ^ k

@[simp]
theorem isDecimal_withSign {negative : Bool} {q : ℚ} :
    IsDecimal (withSign negative q) ↔ IsDecimal q := by
  unfold IsDecimal
  rw [abs_withSign]

theorem Decimal.isDecimal_magnitude (d : Decimal) : IsDecimal d.magnitude :=
  ⟨d.mantissa, d.scale, d.mantissa_lt, d.scale_le, abs_of_nonneg d.magnitude_nonneg⟩

/-- An integer is a decimal if its magnitude has at most 96 bits. -/
theorem isDecimal_intCast {n : ℤ} (h : |(n : ℚ)| < 2 ^ 96) : IsDecimal n := by
  have habs : |(n : ℚ)| = n.natAbs := by
    rw [← Int.cast_abs, Int.abs_eq_natAbs, Int.cast_natCast]
  refine ⟨n.natAbs, 0, ?_, by omega, by rw [habs, pow_zero, div_one]⟩
  rw [habs] at h
  exact_mod_cast h

/-- The places of a decimal can be filled up to all 28. -/
theorem IsDecimal.exists_eq_div {q : ℚ} (h : IsDecimal q) (hq : 0 ≤ q) :
    ∃ c : ℕ, q = c / 10 ^ 28 := by
  obtain ⟨m, k, -, hk, habs⟩ := h
  refine ⟨m * 10 ^ (28 - k), ?_⟩
  have hpow : (10 ^ 28 : ℚ) = 10 ^ k * 10 ^ (28 - k) :=
    (pow_mul_pow_sub _ hk).symm
  rw [← abs_of_nonneg hq, habs, hpow, Nat.cast_mul, Nat.cast_pow, Nat.cast_ofNat,
    mul_div_mul_right _ _ (by positivity)]

/-- **Between two decimals.** No number strictly between two neighbours with all places taken, or
with no room for one more digit in the mantissa, is a decimal. -/
theorem not_isDecimal {m k : ℕ} {t : ℚ} (hpos : 0 < t) (hlt : t < 1)
    (hfull : k = 28 ∨ 2 ^ 96 ≤ (m + t) * 10) : ¬ IsDecimal ((m + t) / 10 ^ k) := by
  rintro ⟨m', k', hm', hk', habs⟩
  have hnonneg : 0 ≤ ((m : ℚ) + t) / 10 ^ k := by positivity
  have hcross : ((m : ℚ) + t) * 10 ^ k' = m' * 10 ^ k := by
    rw [abs_of_nonneg hnonneg, div_eq_div_iff (by positivity) (by positivity)] at habs
    exact habs
  rcases le_or_gt k' k with hle | hgt
  · -- with no more places than the neighbours, the number would be an integer of their units
    have hinteger : (m : ℚ) + t = (m' * 10 ^ (k - k') : ℕ) := by
      have hpow : (10 ^ k : ℚ) = 10 ^ (k - k') * 10 ^ k' :=
        (pow_sub_mul_pow _ hle).symm
      rw [hpow, ← mul_assoc] at hcross
      rw [mul_right_cancel₀ (by positivity) hcross]
      push_cast
      rfl
    have hlower : (m : ℚ) < (m' * 10 ^ (k - k') : ℕ) := by linarith
    have hupper : ((m' * 10 ^ (k - k') : ℕ) : ℚ) < (m + 1 : ℕ) := by
      push_cast at hinteger ⊢
      linarith
    rw [Nat.cast_lt] at hlower hupper
    omega
  · -- with more places, its mantissa would be ten times as large at least
    have hpow : (10 ^ k' : ℚ) = 10 ^ (k' - k) * 10 ^ k :=
      (pow_sub_mul_pow _ hgt.le).symm
    rw [hpow, ← mul_assoc] at hcross
    have hmantissa : ((m : ℚ) + t) * 10 ^ (k' - k) = m' := mul_right_cancel₀ (by positivity) hcross
    have hten : (10 : ℚ) ≤ 10 ^ (k' - k) := le_self_pow₀ (by norm_num) (by omega)
    have hlarge : (2 ^ 96 : ℚ) ≤ (m + t) * 10 := hfull.resolve_left (by omega)
    have hm'' : (m' : ℚ) < 2 ^ 96 := by exact_mod_cast hm'
    have : (m + t) * 10 ≤ ((m : ℚ) + t) * 10 ^ (k' - k) := by gcongr
    linarith

/-! ## §3 Roundings -/

/-- A decimal that stands for a number of some magnitude as well as the limits allow. -/
structure Decimal.Rounds (d : Decimal) (q : ℚ) : Prop where
  /-- A number that is a decimal is not changed. -/
  exact : IsDecimal q → d.magnitude = q
  /-- The distance is at most half a unit in the last place. -/
  near : |d.magnitude - q| ≤ 1 / (2 * 10 ^ d.scale)
  /-- A place is given up only where there is no room for it. -/
  full : d.magnitude ≠ q → d.scale = 28 ∨ 7 * 10 ^ 27 ≤ d.mantissa

namespace Decimal

theorem abs_div_sub_div_le {a b : ℚ} {k : ℕ} (h : |a - b| ≤ 1 / 2) :
    |a / 10 ^ k - b / 10 ^ k| ≤ 1 / (2 * 10 ^ k) := by
  rw [← sub_div, abs_div, abs_of_pos (by positivity : (0 : ℚ) < 10 ^ k), ← div_div]
  gcongr

theorem Rounds.of_eq {d : Decimal} {q : ℚ} (h : d.magnitude = q) : d.Rounds q where
  exact _ := h
  near := by
    rw [h, sub_self, abs_zero]
    positivity
  full hne := absurd h hne

theorem Rounds.near_half {b : Decimal} {q : ℚ} (h : b.Rounds q) : |b.magnitude - q| ≤ 1 / 2 := by
  refine h.near.trans ?_
  rw [← div_div]
  exact div_le_self (by norm_num) (one_le_pow₀ (by norm_num))

/-- Where a place is given up for want of digits, nine places at least are left to a small number,
and as many to a number that is small after it is multiplied. -/
theorem Rounds.scale_of_ne {b : Decimal} {q : ℚ} (h : b.Rounds q) (hne : b.magnitude ≠ q)
    {power : ℕ} (hsmall : b.magnitude * 10 ^ power ≤ 2 ^ 64) :
    b.scale = 28 ∨ power + 9 ≤ b.scale := by
  refine (h.full hne).imp_right fun hmantissa => ?_
  -- with fewer places such a mantissa would make a number that is not small
  by_contra hplaces
  have hpow : (10 ^ b.scale : ℚ) ≤ 10 ^ power * 10 ^ 8 := by
    rw [← pow_add]
    exact pow_le_pow_right₀ (by norm_num) (by omega)
  have hmantissaq : (7 * 10 ^ 27 : ℚ) ≤ b.mantissa := by exact_mod_cast hmantissa
  rw [magnitude, div_mul_eq_mul_div, div_le_iff₀ (by positivity)] at hsmall
  have hle : (b.mantissa : ℚ) * 10 ^ power ≤ 2 ^ 64 * (10 ^ power * 10 ^ 8) :=
    hsmall.trans (by gcongr)
  have hmantissa' : (b.mantissa : ℚ) ≤ 2 ^ 64 * 10 ^ 8 := by
    refine le_of_mul_le_mul_right ?_ (by positivity : (0 : ℚ) < 10 ^ power)
    linarith
  norm_num at hmantissaq hmantissa'
  linarith

/-- A rounding of a small number is off in the tenth place at the earliest. -/
theorem Rounds.near_of_small {b : Decimal} {q : ℚ} (h : b.Rounds q)
    (hsmall : b.magnitude ≤ 2 ^ 64) : |b.magnitude - q| ≤ 1 / (2 * 10 ^ 9) := by
  by_cases heq : b.magnitude = q
  · rw [heq, sub_self, abs_zero]
    positivity
  · have hscale : 9 ≤ b.scale := by
      have hsmall : b.magnitude * 10 ^ 0 ≤ 2 ^ 64 := by rwa [pow_zero, mul_one]
      have := h.scale_of_ne heq hsmall
      omega
    refine h.near.trans ?_
    gcongr
    norm_num

end Decimal

end WebTrip

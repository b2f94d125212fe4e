import Mathlib.Data.Int.Log
import Mathlib.Data.Rat.Floor
import Mathlib.Tactic.GCongr
import Mathlib.Tactic.Linarith
import Mathlib.Tactic.Ring
import WebTrip.Proofs.Number.Value

/-!
# Rounding to a binary format

A quotient is rounded to a multiple of a power of two, its *unit*, that is chosen by the size of the
quotient. Powers of two are multiples of every smaller unit. Rounding therefore never goes past one:
a quotient that is at most, or at least, a power of two is rounded to a number that is so too. This
is all that is needed to see that a calculation stays within a format.

## Main definitions

- `BinaryFormat.unit`, `BinaryFormat.units`: the unit of a quotient, and how many of them it is
- `Double.magnitude`: the magnitude of the value of a binary64 number

## Main statements

- `floorLog2_eq_log`: the exponent of a quotient is its logarithm
- `BinaryFormat.units_mul_le`, `BinaryFormat.le_units_mul`: rounding does not pass a power of two
- `Double.exists_ofRatio`: small quotients have a nearest binary64 number
- `Double.exists_add`, `exists_mul`, `exists_div`, `exists_round`: and so have results of arithmetic
-/

namespace WebTrip

/-! ## §1 The nearest integer -/

section Integers

variable {num den m : ℕ}

/-- Rounding does not pass an integer above the quotient. -/
theorem roundHalfEven_le (hden : 0 < den) (h : (num : ℚ) / den ≤ m) :
    roundHalfEven num den ≤ m := by
  have hnum : num ≤ m * den := by
    rw [div_le_iff₀ (by exact_mod_cast hden)] at h
    exact_mod_cast h
  have hsplit := Nat.div_add_mod num den
  have hfloor : num / den ≤ m := Nat.div_le_of_le_mul (by rwa [mul_comm])
  unfold roundHalfEven
  rcases hfloor.lt_or_eq with hlt | heq
  · -- below the integer there is room to round up
    dsimp only
    split_ifs <;> omega
  · -- at the integer there is nothing to round
    have hrest : num % den = 0 := by
      rw [heq, mul_comm] at hsplit
      omega
    simp [heq, hrest, hden]

/-- Rounding does not pass an integer below the quotient. -/
theorem le_roundHalfEven (hden : 0 < den) (h : (m : ℚ) ≤ num / den) :
    m ≤ roundHalfEven num den := by
  have hnum : m * den ≤ num := by
    rw [le_div_iff₀ (by exact_mod_cast hden)] at h
    exact_mod_cast h
  have hfloor : m ≤ num / den := (Nat.le_div_iff_mul_le hden).mpr hnum
  unfold roundHalfEven
  dsimp only
  split_ifs <;> omega

end Integers

/-! ## §2 Powers of two -/

section Powers

variable {num den : ℕ}

theorem scaleByTwo_snd_pos (hden : 0 < den) (shift : ℤ) : 0 < (scaleByTwo num den shift).2 := by
  unfold scaleByTwo
  split_ifs
  · exact hden
  · exact Nat.mul_pos hden (Nat.two_pow_pos _)

/-- A quotient is multiplied with the power of two. -/
theorem scaleByTwo_div (num den : ℕ) (shift : ℤ) :
    ((scaleByTwo num den shift).1 : ℚ) / (scaleByTwo num den shift).2 = num / den * 2 ^ shift := by
  unfold scaleByTwo
  split_ifs with h
  · obtain ⟨k, rfl⟩ := Int.eq_ofNat_of_zero_le h
    simp [mul_div_right_comm]
  · obtain ⟨k, hk⟩ := Int.eq_ofNat_of_zero_le (by omega : 0 ≤ -shift)
    have hneg : shift = -(k : ℤ) := by omega
    rw [hneg, neg_neg, Int.toNat_natCast, zpow_neg, zpow_natCast, ← div_eq_mul_inv, div_div]
    push_cast
    rfl

/-- The numbers of bits leave two exponents to choose from. -/
theorem quotient_bounds (hnum : 0 < num) (hden : 0 < den) :
    (2 : ℚ) ^ ((Nat.log2 num : ℤ) - Nat.log2 den - 1) ≤ num / den ∧
      (num : ℚ) / den < 2 ^ ((Nat.log2 num : ℤ) - Nat.log2 den + 1) := by
  constructor
  · have hn : (2 : ℚ) ^ Nat.log2 num ≤ num := by exact_mod_cast Nat.log2_self_le hnum.ne'
    have hd : (den : ℚ) ≤ 2 ^ (Nat.log2 den + 1) := by exact_mod_cast (Nat.lt_log2_self).le
    have hexponent : (Nat.log2 num : ℤ) - Nat.log2 den - 1 =
        (Nat.log2 num : ℤ) - (Nat.log2 den + 1 : ℕ) := by
      push_cast
      omega
    rw [hexponent, zpow_sub₀ two_ne_zero, zpow_natCast, zpow_natCast]
    gcongr
  · have hn : (num : ℚ) < 2 ^ (Nat.log2 num + 1) := by exact_mod_cast Nat.lt_log2_self
    have hd : (2 : ℚ) ^ Nat.log2 den ≤ den := by exact_mod_cast Nat.log2_self_le hden.ne'
    have hexponent : (Nat.log2 num : ℤ) - Nat.log2 den + 1 =
        (Nat.log2 num + 1 : ℕ) - (Nat.log2 den : ℤ) := by
      push_cast
      omega
    rw [hexponent, zpow_sub₀ two_ne_zero, zpow_natCast, zpow_natCast]
    gcongr

/-- A power of two is a multiple of every smaller one. -/
theorem exists_zpow_eq_mul {a b : ℤ} (h : a ≤ b) : ∃ m : ℕ, (2 : ℚ) ^ b = m * 2 ^ a := by
  obtain ⟨k, hk⟩ := Int.eq_ofNat_of_zero_le (sub_nonneg.mpr h)
  refine ⟨2 ^ k, ?_⟩
  have hb : b = k + a := by omega
  rw [hb, zpow_add₀ two_ne_zero, zpow_natCast, Nat.cast_pow, Nat.cast_ofNat]

theorem log_eq_of_bounds {q : ℚ} {k : ℤ} (hlow : 2 ^ k ≤ q) (hhigh : q < 2 ^ (k + 1)) :
    Int.log 2 q = k := by
  have hpos : 0 < q := lt_of_lt_of_le (by positivity) hlow
  have hle : k ≤ Int.log 2 q := (Int.zpow_le_iff_le_log (by norm_num) hpos).mp hlow
  have hlt : Int.log 2 q < k + 1 := (Int.lt_zpow_iff_log_lt (by norm_num) hpos).mp hhigh
  omega

/-- **The exponent** of a positive quotient is its logarithm to base two. -/
theorem floorLog2_eq_log (hnum : 0 < num) (hden : 0 < den) :
    floorLog2 num den = Int.log 2 ((num : ℚ) / den) := by
  obtain ⟨hlow, hhigh⟩ := quotient_bounds hnum hden
  set k : ℤ := (Nat.log2 num : ℤ) - Nat.log2 den with hk
  -- the comparison is one of the quotient with the greater of the two powers
  have htest : (scaleByTwo num den (-k)).2 ≤ (scaleByTwo num den (-k)).1 ↔
      (2 : ℚ) ^ k ≤ num / den := by
    have hsnd : (0 : ℚ) < (scaleByTwo num den (-k)).2 := by
      exact_mod_cast scaleByTwo_snd_pos hden (-k)
    rw [← Nat.cast_le (α := ℚ), ← one_le_div hsnd, scaleByTwo_div, zpow_neg, ← div_eq_mul_inv,
      one_le_div (by positivity)]
  have hfloor : floorLog2 num den = if (2 : ℚ) ^ k ≤ num / den then k else k - 1 := by
    unfold floorLog2
    simp only [← hk, htest]
  by_cases h : (2 : ℚ) ^ k ≤ num / den
  · rw [hfloor, if_pos h]
    exact (log_eq_of_bounds h hhigh).symm
  · rw [hfloor, if_neg h]
    apply (log_eq_of_bounds hlow _).symm
    rw [sub_add_cancel]
    exact not_le.mp h

end Powers

/-! ## §3 Rounding in units -/

namespace BinaryFormat

variable (format : BinaryFormat) (num den : ℕ)

/-- The exponent of the power of two in multiples of which a quotient is rounded. -/
def unit : ℤ :=
  max format.leastExponent (floorLog2 num den - (format.precision - 1 : ℕ))

/-- How many units a quotient is, rounded. -/
def units : ℕ :=
  roundHalfEven (scaleByTwo num den (-format.unit num den)).1
    (scaleByTwo num den (-format.unit num den)).2

variable {format num den}

/-- A quotient that is rounded up to a number with one more bit has the next greater unit. -/
theorem nearest_eq (hnum : num ≠ 0) :
    format.nearest num den =
      if format.units num den = 2 ^ format.precision then
        (2 ^ (format.precision - 1), format.unit num den + 1)
      else (format.units num den, format.unit num den) := by
  unfold nearest
  rw [if_neg hnum]
  rfl

/-- The number of units is rounded as the quotient by the unit. -/
theorem units_le (hden : 0 < den) {m : ℕ} (h : (num : ℚ) / den ≤ m * 2 ^ format.unit num den) :
    format.units num den ≤ m := by
  apply roundHalfEven_le (scaleByTwo_snd_pos hden _)
  rw [scaleByTwo_div, zpow_neg, ← div_eq_mul_inv]
  exact (div_le_iff₀ (by positivity)).mpr h

theorem le_units (hden : 0 < den) {m : ℕ} (h : m * 2 ^ format.unit num den ≤ (num : ℚ) / den) :
    m ≤ format.units num den := by
  apply le_roundHalfEven (scaleByTwo_snd_pos hden _)
  rw [scaleByTwo_div, zpow_neg, ← div_eq_mul_inv]
  exact (le_div_iff₀ (by positivity)).mpr h

/-! ### The size of a unit -/

section Size

variable (hnum : 0 < num) (hden : 0 < den)

include hnum hden

theorem log_lt_unit (hprecision : 0 < format.precision) :
    Int.log 2 ((num : ℚ) / den) < format.unit num den + format.precision := by
  rw [← floorLog2_eq_log hnum hden, unit]
  omega

/-- A unit that is not the least one is so small that the quotient has all its bits. -/
theorem unit_add_eq_log (h : format.unit num den ≠ format.leastExponent) :
    format.unit num den + (format.precision - 1 : ℕ) = Int.log 2 ((num : ℚ) / den) := by
  rw [← floorLog2_eq_log hnum hden]
  unfold unit at h ⊢
  omega

theorem zpow_log_le : (2 : ℚ) ^ Int.log 2 ((num : ℚ) / den) ≤ num / den := by
  have hpos : (0 : ℚ) < num / den :=
    div_pos (by exact_mod_cast hnum) (by exact_mod_cast hden)
  exact_mod_cast Int.zpow_log_le_self (by norm_num : 1 < 2) hpos

theorem lt_zpow_unit (hprecision : 0 < format.precision) :
    (num : ℚ) / den < 2 ^ (format.unit num den + format.precision) := by
  have hpos : (0 : ℚ) < num / den :=
    div_pos (by exact_mod_cast hnum) (by exact_mod_cast hden)
  have hlog := log_lt_unit hnum hden hprecision
  exact_mod_cast (Int.lt_zpow_iff_log_lt (by norm_num : 1 < 2) hpos).mpr hlog

/-- Units of which there may be fewer than the precision has room for are the least ones. -/
theorem pow_le_units (h : format.unit num den ≠ format.leastExponent) :
    2 ^ (format.precision - 1) ≤ format.units num den := by
  apply le_units hden
  have hlog := zpow_log_le hnum hden
  rw [← unit_add_eq_log hnum hden h, add_comm, zpow_add₀ two_ne_zero, zpow_natCast] at hlog
  exact_mod_cast hlog

theorem units_le_pow (hprecision : 0 < format.precision) :
    format.units num den ≤ 2 ^ format.precision := by
  apply units_le hden
  have hlt := lt_zpow_unit hnum hden hprecision
  rw [add_comm, zpow_add₀ two_ne_zero, zpow_natCast] at hlt
  exact_mod_cast hlt.le

/-! ### Powers of two -/

/-- **From above.** Rounding does not pass a power of two. -/
theorem units_mul_le {b : ℤ} (hb : format.leastExponent ≤ b) (h : (num : ℚ) / den ≤ 2 ^ b) :
    format.units num den * (2 : ℚ) ^ format.unit num den ≤ 2 ^ b := by
  rcases le_or_gt (format.unit num den) b with hle | hlt
  · -- a greater power is a multiple of the unit
    obtain ⟨m, hm⟩ := exists_zpow_eq_mul hle
    rw [hm] at h ⊢
    have hunits : (format.units num den : ℚ) ≤ m := by exact_mod_cast units_le hden h
    gcongr
  · -- a smaller one is not even reached by the quotient
    exfalso
    have hlog := (zpow_log_le hnum hden).trans h
    have hexponent := (zpow_le_zpow_iff_right₀ (by norm_num : (1 : ℚ) < 2)).mp hlog
    have := unit_add_eq_log hnum hden (hb.trans_lt hlt).ne'
    omega

/-- **From below.** Rounding does not pass a power of two. -/
theorem le_units_mul {b : ℤ} (hb : format.leastExponent ≤ b) (h : 2 ^ b ≤ (num : ℚ) / den) :
    2 ^ b ≤ format.units num den * (2 : ℚ) ^ format.unit num den := by
  rcases le_or_gt (format.unit num den) b with hle | hlt
  · obtain ⟨m, hm⟩ := exists_zpow_eq_mul hle
    rw [hm] at h ⊢
    have hunits : (m : ℚ) ≤ format.units num den := by exact_mod_cast le_units hden h
    gcongr
  · -- a single unit is more
    have hone : (1 : ℚ) ≤ format.units num den := by
      have := Nat.one_le_two_pow.trans (pow_le_units hnum hden (hb.trans_lt hlt).ne')
      exact_mod_cast this
    calc (2 : ℚ) ^ b ≤ 2 ^ format.unit num den := by gcongr; norm_num
      _ = 1 * 2 ^ format.unit num den := (one_mul _).symm
      _ ≤ format.units num den * 2 ^ format.unit num den := by gcongr

end Size

end BinaryFormat

/-! ## §4 Binary64 -/

namespace Double

open BinaryFormat

/-- The magnitude of the value. -/
def magnitude (x : Double) : ℚ :=
  x.significand * 2 ^ x.exponent

theorem magnitude_nonneg (x : Double) : 0 ≤ x.magnitude := by
  unfold magnitude
  positivity

/-- The unit of a small quotient leaves room for a carry. -/
theorem unit_le {num den : ℕ} (hnum : 0 < num) (hden : 0 < den)
    (hsmall : (num : ℚ) / den < 2 ^ (1023 : ℤ)) : binary64.unit num den ≤ 970 := by
  have hpos : (0 : ℚ) < num / den := div_pos (by exact_mod_cast hnum) (by exact_mod_cast hden)
  have hlog : Int.log 2 ((num : ℚ) / den) < 1023 :=
    (Int.lt_zpow_iff_log_lt (by norm_num : 1 < 2) hpos).mp (by exact_mod_cast hsmall)
  by_cases hleast : binary64.unit num den = binary64.leastExponent
  · rw [hleast]
    decide
  · have hunit := unit_add_eq_log hnum hden hleast
    have hprecision : binary64.precision - 1 = 52 := rfl
    rw [hprecision] at hunit
    omega

/-- The nearest number to a small quotient is one of the format, a number of units. -/
theorem exists_nearest_eq {num den : ℕ} (hnum : 0 < num) (hden : 0 < den)
    (hsmall : (num : ℚ) / den < 2 ^ (1023 : ℤ)) :
    ∃ m e, binary64.nearest num den = (m, e) ∧ Canonical m e ∧
      (m : ℚ) * 2 ^ e = binary64.units num den * 2 ^ binary64.unit num den := by
  have hmin : -1074 ≤ binary64.unit num den := le_max_left _ _
  have hmax := unit_le hnum hden hsmall
  have hle : binary64.units num den ≤ 2 ^ 53 := units_le_pow hnum hden (by decide)
  have hprecision : binary64.precision = 53 := rfl
  rw [nearest_eq hnum.ne', hprecision]
  by_cases hcarry : binary64.units num den = 2 ^ 53
  · -- a carry out of all the bits leaves a single one
    refine ⟨2 ^ 52, binary64.unit num den + 1, if_pos hcarry, ?_, ?_⟩
    · exact ⟨by norm_num, by omega, by omega, .inl le_rfl⟩
    · rw [hcarry, zpow_add₀ two_ne_zero, zpow_one]
      push_cast
      ring
  · refine ⟨_, _, if_neg hcarry, ⟨by omega, hmin, by omega, ?_⟩, rfl⟩
    by_cases hleast : binary64.unit num den = binary64.leastExponent
    · exact .inr hleast
    · exact .inl (pow_le_units hnum hden hleast)

/-- **Rounding.** A quotient that is not too large has a nearest number, and this is on the same
side of every power of two as the quotient. -/
theorem exists_ofRatio (negative : Bool) {num den : ℕ} (hden : 0 < den)
    (hsmall : (num : ℚ) / den < 2 ^ (1023 : ℤ)) :
    ∃ x, ofRatio negative num den = some x ∧ x.negative = negative ∧
      ∀ b : ℤ, -1074 ≤ b →
        ((num : ℚ) / den ≤ 2 ^ b → x.magnitude ≤ 2 ^ b) ∧
        (2 ^ b ≤ (num : ℚ) / den → 2 ^ b ≤ x.magnitude) := by
  rcases num.eq_zero_or_pos with rfl | hnum
  · refine ⟨zero negative, rfl, rfl, fun b _ => ⟨fun _ => ?_, fun h => ?_⟩⟩
    · have hzero : (zero negative).magnitude = 0 := by simp [magnitude, zero]
      rw [hzero]
      positivity
    · have : (0 : ℚ) < 2 ^ b := by positivity
      simp at h
      linarith
  · obtain ⟨m, e, hnearest, hcanonical, hmagnitude⟩ := exists_nearest_eq hnum hden hsmall
    have hx : ofRatio negative num den = some ⟨negative, m, e, hcanonical⟩ := by
      unfold ofRatio make?
      rw [hnearest]
      exact dif_pos hcanonical
    refine ⟨_, hx, rfl, fun b hb => ?_⟩
    show ((num : ℚ) / den ≤ 2 ^ b → (m : ℚ) * 2 ^ e ≤ 2 ^ b) ∧
      (2 ^ b ≤ (num : ℚ) / den → 2 ^ b ≤ (m : ℚ) * 2 ^ e)
    rw [hmagnitude]
    exact ⟨units_mul_le hnum hden hb, le_units_mul hnum hden hb⟩

/-! ## §5 Arithmetic -/

theorem magnitude_eq_ratio (x : Double) : x.magnitude = (x.ratio.1 : ℚ) / x.ratio.2 :=
  x.ratio_div.symm

/-- Rounding a quotient that is at most a power of two that is an integer. -/
theorem exists_ofRatio_le (negative : Bool) {num den b : ℕ} (hden : 0 < den) (hb : b < 1023)
    (h : (num : ℚ) / den ≤ 2 ^ b) :
    ∃ x, ofRatio negative num den = some x ∧ x.magnitude ≤ 2 ^ b ∧
      (1 ≤ (num : ℚ) / den → 1 ≤ x.magnitude) := by
  have hsmall : (num : ℚ) / den < 2 ^ (1023 : ℤ) := by
    refine h.trans_lt ?_
    rw [← zpow_natCast]
    exact (zpow_lt_zpow_iff_right₀ (by norm_num)).mpr (by exact_mod_cast hb)
  obtain ⟨x, hx, -, hpowers⟩ := exists_ofRatio negative hden hsmall
  refine ⟨x, hx, ?_, ?_⟩
  · have := (hpowers b (by omega)).1
    rw [zpow_natCast] at this
    exact this h
  · have := (hpowers 0 (by omega)).2
    rwa [zpow_zero] at this

variable {x y : Double} {a b : ℕ}

theorem exists_add (hb : b + 1 < 1023) (hx : x.magnitude ≤ 2 ^ b) (hy : y.magnitude ≤ 2 ^ b) :
    ∃ z, add x y = some z ∧ z.magnitude ≤ 2 ^ (b + 1) := by
  have hpos := x.ratio_snd_pos
  have hpos' := y.ratio_snd_pos
  have hsum : ((x.ratio.1 * y.ratio.2 + y.ratio.1 * x.ratio.2 : ℕ) : ℚ) /
      (x.ratio.2 * y.ratio.2 : ℕ) = x.magnitude + y.magnitude := by
    rw [magnitude_eq_ratio, magnitude_eq_ratio]
    push_cast
    field_simp
  have hle : x.magnitude + y.magnitude ≤ 2 ^ (b + 1) := by
    rw [pow_succ]
    linarith
  obtain ⟨z, hz, hbound, -⟩ := exists_ofRatio_le false (Nat.mul_pos hpos hpos') hb (hsum ▸ hle)
  exact ⟨z, hz, hbound⟩

theorem exists_mul (hab : a + b < 1023) (hx : x.magnitude ≤ 2 ^ a) (hy : y.magnitude ≤ 2 ^ b) :
    ∃ z, mul x y = some z ∧ z.magnitude ≤ 2 ^ (a + b) ∧
      (1 ≤ x.magnitude → 1 ≤ y.magnitude → 1 ≤ z.magnitude) := by
  have hproduct : ((x.ratio.1 * y.ratio.1 : ℕ) : ℚ) / (x.ratio.2 * y.ratio.2 : ℕ) =
      x.magnitude * y.magnitude := by
    rw [magnitude_eq_ratio, magnitude_eq_ratio]
    push_cast
    exact (div_mul_div_comm _ _ _ _).symm
  have hle : x.magnitude * y.magnitude ≤ 2 ^ (a + b) := by
    rw [pow_add]
    exact mul_le_mul hx hy y.magnitude_nonneg (by positivity)
  obtain ⟨z, hz, hbound, hone⟩ :=
    exists_ofRatio_le false (Nat.mul_pos x.ratio_snd_pos y.ratio_snd_pos) hab (hproduct ▸ hle)
  rw [hproduct] at hone
  exact ⟨z, hz, hbound, fun hx1 hy1 => hone (one_le_mul_of_one_le_of_one_le hx1 hy1)⟩

/-- A divisor that is at least one does not make a number greater. -/
theorem exists_div (ha : a < 1023) (hx : x.magnitude ≤ 2 ^ a) (hy : 1 ≤ y.magnitude) :
    ∃ z, div x y = some z ∧ z.magnitude ≤ 2 ^ a := by
  have hnum : y.ratio.1 ≠ 0 := by
    intro hzero
    rw [magnitude_eq_ratio, hzero] at hy
    norm_num at hy
  have hquotient : ((x.ratio.1 * y.ratio.2 : ℕ) : ℚ) / (x.ratio.2 * y.ratio.1 : ℕ) =
      x.magnitude / y.magnitude := by
    rw [magnitude_eq_ratio, magnitude_eq_ratio]
    push_cast
    exact (div_div_div_eq _ _ _ _).symm
  have hle : x.magnitude / y.magnitude ≤ 2 ^ a := (div_le_self x.magnitude_nonneg hy).trans hx
  obtain ⟨z, hz, hbound, -⟩ := exists_ofRatio_le false
    (Nat.mul_pos x.ratio_snd_pos (Nat.pos_of_ne_zero hnum)) ha (hquotient ▸ hle)
  refine ⟨z, ?_, hbound⟩
  show (if y.ratio.1 = 0 then none else _) = some z
  rw [if_neg hnum]
  exact hz

theorem exists_round (ha : a < 1023) (hx : x.magnitude ≤ 2 ^ a) :
    ∃ z, round x = some z ∧ z.magnitude ≤ 2 ^ a := by
  have hpos := x.ratio_snd_pos
  have hnum : x.ratio.1 ≤ 2 ^ a * x.ratio.2 := by
    rw [magnitude_eq_ratio, div_le_iff₀ (by exact_mod_cast hpos)] at hx
    exact_mod_cast hx
  have hinteger : (2 * x.ratio.1 + x.ratio.2) / (2 * x.ratio.2) ≤ 2 ^ a := by
    apply Nat.lt_succ_iff.mp
    rw [Nat.div_lt_iff_lt_mul (by omega), Nat.succ_mul]
    nlinarith
  have hle : (((2 * x.ratio.1 + x.ratio.2) / (2 * x.ratio.2) : ℕ) : ℚ) / (1 : ℕ) ≤ 2 ^ a := by
    rw [Nat.cast_one, div_one]
    exact_mod_cast hinteger
  obtain ⟨z, hz, hbound, -⟩ := exists_ofRatio_le false one_pos ha hle
  exact ⟨z, hz, hbound⟩

/-- One step of repeated squaring: the lowest bit of the exponent is taken into the result, and the
others are those of an exponent of the square. -/
theorem powFrom_succ {fuel n : ℕ} {result base r : Double} (hn : n ≠ 0)
    (hr : (if n % 2 = 1 then mul result base else some result) = some r) :
    powFrom (fuel + 1) result base n =
      if n / 2 = 0 then some r else (mul base base).bind fun s => powFrom fuel r s (n / 2) := by
  rw [powFrom, if_neg hn]
  by_cases hodd : n % 2 = 1
  · rw [if_pos hodd] at hr
    simp only [if_pos hodd, hr, Option.bind_eq_bind, Option.bind_some]
  · rw [if_neg hodd] at hr
    cases hr
    simp only [if_neg hodd, Option.bind_eq_bind, Option.bind_some]

/-- A factor for the lowest bit of an exponent. -/
theorem exists_lowestBit {result base : Double} {n : ℕ} (hsize : a + b * (n % 2) < 1023)
    (hresult : 1 ≤ result.magnitude ∧ result.magnitude ≤ 2 ^ a)
    (hbase : 1 ≤ base.magnitude ∧ base.magnitude ≤ 2 ^ b) :
    ∃ r, (if n % 2 = 1 then mul result base else some result) = some r ∧
      1 ≤ r.magnitude ∧ r.magnitude ≤ 2 ^ (a + b * (n % 2)) := by
  rcases Nat.mod_two_eq_zero_or_one n with heven | hodd
  · rw [heven]
    exact ⟨result, rfl, hresult.1, by simpa using hresult.2⟩
  · rw [hodd, mul_one] at hsize
    rw [hodd, mul_one]
    obtain ⟨r, hr, hbound, hone⟩ := exists_mul hsize hresult.2 hbase.2
    exact ⟨r, hr, hone hresult.1 hbase.1, hbound⟩

/-- **Powers.** Repeated squaring stays below the power of two that bounds the result. -/
theorem exists_powFrom (fuel : ℕ) {result base : Double} {n : ℕ} (hsize : a + b * n < 1023)
    (hresult : 1 ≤ result.magnitude ∧ result.magnitude ≤ 2 ^ a)
    (hbase : 1 ≤ base.magnitude ∧ base.magnitude ≤ 2 ^ b) :
    ∃ z, powFrom fuel result base n = some z ∧
      1 ≤ z.magnitude ∧ z.magnitude ≤ 2 ^ (a + b * n) := by
  induction fuel generalizing result base a b n with
  | zero =>
    have hmore : (2 : ℚ) ^ a ≤ 2 ^ (a + b * n) := pow_le_pow_right₀ (by norm_num) (by omega)
    exact ⟨result, rfl, hresult.1, hresult.2.trans hmore⟩
  | succ fuel ih =>
    by_cases hn : n = 0
    · exact ⟨result, by simp [powFrom, hn], hresult.1, by simpa [hn] using hresult.2⟩
    · have hbits : a + b * (n % 2) + 2 * b * (n / 2) = a + b * n := by
        calc a + b * (n % 2) + 2 * b * (n / 2) = a + b * (2 * (n / 2) + n % 2) := by ring
          _ = a + b * n := by rw [Nat.div_add_mod]
      obtain ⟨r, hr, hr1, hrb⟩ := exists_lowestBit (n := n) (by omega) hresult hbase
      rw [powFrom_succ hn hr]
      by_cases hhalf : n / 2 = 0
      · rw [hhalf, Nat.mul_zero, Nat.add_zero] at hbits
        rw [if_pos hhalf, ← hbits]
        exact ⟨r, rfl, hr1, hrb⟩
      · -- the square is computed only where the exponent has a bit for it
        have hsquare : b + b < 1023 := by
          have : 2 * b * 1 ≤ 2 * b * (n / 2) := Nat.mul_le_mul_left _ (by omega)
          omega
        obtain ⟨s, hs, hsb, hs1⟩ := exists_mul hsquare hbase.2 hbase.2
        rw [← two_mul] at hsb
        obtain ⟨z, hz, hz1, hzb⟩ := ih (n := n / 2) (by omega) ⟨hr1, hrb⟩ ⟨hs1 hbase.1 hbase.1, hsb⟩
        rw [hbits] at hzb
        rw [if_neg hhalf, hs, Option.bind_some]
        exact ⟨z, hz, hz1, hzb⟩

end Double

end WebTrip

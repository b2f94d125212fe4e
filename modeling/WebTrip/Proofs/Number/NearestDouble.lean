import WebTrip.Proofs.Number.Rounding

/-!
# The nearest binary64 number

Which binary64 number is nearest to a quotient depends on the value of the quotient alone, and so
does the one nearest to digits with a power of ten: however the digits are written, with more zeros
at their end or with another power, the same number is read. Quotients beyond all numbers have none,
those far below the least one have zero, and a number is nearest to itself.

## Main statements

- `Double.ofRatio_congr`: quotients of one value
- `Double.ofRatio_eq_none`, `Double.ofRatio_eq_zero`: large and small quotients
- `Double.ofDecimal_eq_ofRatio`: digits with a power of ten, whatever the power
- `Double.ofDecimal_congr`: decimal numbers of one value
- `Double.ofRatio_ratio`: a number is nearest to itself
-/

namespace WebTrip

/-! ## §1 Fractions that are not reduced -/

theorem pos_of_quotient_pos {num den : ℕ} (h : (0 : ℚ) < num / den) : 0 < num := by
  apply Nat.pos_of_ne_zero
  rintro rfl
  simp at h

section Multiples

variable {k : ℕ} (hk : 0 < k) (num den : ℕ)

include hk

theorem roundHalfEven_mul_left : roundHalfEven (k * num) (k * den) = roundHalfEven num den := by
  have hlt : ∀ a b : ℕ, k * a < k * b ↔ a < b := fun a b => Nat.mul_lt_mul_left hk
  have htwice : 2 * (k * (num % den)) = k * (2 * (num % den)) := Nat.mul_left_comm _ _ _
  unfold roundHalfEven
  simp only [Nat.mul_div_mul_left _ _ hk, Nat.mul_mod_mul_left, htwice, hlt]

omit hk in
theorem scaleByTwo_mul_left (k num den : ℕ) (shift : ℤ) :
    scaleByTwo (k * num) (k * den) shift =
      (k * (scaleByTwo num den shift).1, k * (scaleByTwo num den shift).2) := by
  unfold scaleByTwo
  split_ifs <;> simp [Nat.mul_assoc]

variable {num den} (hnum : 0 < num) (hden : 0 < den)

include hnum hden

theorem floorLog2_mul_left : floorLog2 (k * num) (k * den) = floorLog2 num den := by
  have hkq : (k : ℚ) ≠ 0 := by exact_mod_cast hk.ne'
  rw [floorLog2_eq_log (Nat.mul_pos hk hnum) (Nat.mul_pos hk hden), floorLog2_eq_log hnum hden]
  push_cast
  rw [mul_div_mul_left _ _ hkq]

theorem BinaryFormat.nearest_mul_left (format : BinaryFormat) :
    format.nearest (k * num) (k * den) = format.nearest num den := by
  have hunit : format.unit (k * num) (k * den) = format.unit num den := by
    rw [unit, unit, floorLog2_mul_left hk hnum hden]
  have hunits : format.units (k * num) (k * den) = format.units num den := by
    rw [units, units, hunit, scaleByTwo_mul_left, roundHalfEven_mul_left hk]
  rw [nearest_eq (Nat.mul_pos hk hnum).ne', nearest_eq hnum.ne', hunit, hunits]

end Multiples

namespace Double

open BinaryFormat

variable (negative : Bool)

/-- **Quotients of one value** have one nearest number. -/
theorem ofRatio_congr {num den num' den' : ℕ} (hden : 0 < den) (hden' : 0 < den')
    (h : (num : ℚ) / den = num' / den') :
    ofRatio negative num den = ofRatio negative num' den' := by
  have hcross : den' * num = den * num' := by
    rw [div_eq_div_iff (by exact_mod_cast hden.ne') (by exact_mod_cast hden'.ne')] at h
    have : num * den' = num' * den := by exact_mod_cast h
    rw [Nat.mul_comm, this, Nat.mul_comm]
  rcases num.eq_zero_or_pos with rfl | hnum
  · have hzero : num' = 0 := by
      rw [Nat.mul_zero, eq_comm, Nat.mul_eq_zero] at hcross
      exact hcross.resolve_left hden.ne'
    subst hzero
    rfl
  · have hnum' : 0 < num' := by
      apply (Nat.mul_pos_iff_of_pos_left hden).mp
      rw [← hcross]
      exact Nat.mul_pos hden' hnum
    -- both quotients are brought to the same denominator
    have hnearest : binary64.nearest num den = binary64.nearest num' den' := by
      rw [← nearest_mul_left hden' hnum hden, hcross, Nat.mul_comm den' den,
        nearest_mul_left hden hnum' hden']
    simp only [ofRatio, hnearest]

/-- The sign plays no part in rounding. -/
theorem ofRatio_eq_map (num den : ℕ) :
    ofRatio negative num den = (ofRatio false num den).map (·.withSign negative) := by
  rcases hnearest : binary64.nearest num den with ⟨m, e⟩
  simp only [ofRatio, make?, hnearest]
  split_ifs <;> rfl

/-! ## §2 Large and small quotients -/

/-- What a quotient is rounded to is a number of units. -/
theorem nearest_mul {num den : ℕ} (hnum : 0 < num) :
    ((binary64.nearest num den).1 : ℚ) * 2 ^ (binary64.nearest num den).2 =
      binary64.units num den * 2 ^ binary64.unit num den := by
  have hprecision : binary64.precision = 53 := rfl
  rw [nearest_eq hnum.ne', hprecision]
  split_ifs with hcarry
  · rw [hcarry, zpow_add₀ two_ne_zero, zpow_one]
    push_cast
    ring
  · rfl

/-- Beyond the greatest number there is no nearest one. -/
theorem ofRatio_eq_none {num den : ℕ} (hnum : 0 < num) (hden : 0 < den)
    (h : 2 ^ (1024 : ℤ) ≤ (num : ℚ) / den) : ofRatio negative num den = none := by
  have hleast : binary64.leastExponent ≤ 1024 := by decide
  have hlarge := le_units_mul hnum hden hleast h
  rw [← nearest_mul hnum] at hlarge
  have hnot : ¬ Canonical (binary64.nearest num den).1 (binary64.nearest num den).2 := by
    rintro ⟨hsignificand, -, hexponent, -⟩
    have hm : ((binary64.nearest num den).1 : ℚ) < 2 ^ (53 : ℤ) := by exact_mod_cast hsignificand
    have he : (2 : ℚ) ^ (binary64.nearest num den).2 ≤ 2 ^ (971 : ℤ) :=
      zpow_le_zpow_right₀ (by norm_num) hexponent
    have hless : ((binary64.nearest num den).1 : ℚ) * 2 ^ (binary64.nearest num den).2 <
        2 ^ (53 : ℤ) * 2 ^ (971 : ℤ) :=
      mul_lt_mul hm he (by positivity) (by positivity)
    rw [← zpow_add₀ two_ne_zero] at hless
    exact absurd hlarge (not_le.mpr hless)
  simp only [ofRatio, make?, dif_neg hnot]

theorem roundHalfEven_eq_zero {num den : ℕ} (h : 2 * num < den) : roundHalfEven num den = 0 := by
  have hlt : num < den := by omega
  simp [roundHalfEven, Nat.div_eq_of_lt hlt, Nat.mod_eq_of_lt hlt, h]

/-- Below half of the least number the nearest one is zero. -/
theorem ofRatio_eq_zero {num den : ℕ} (hden : 0 < den) (h : (num : ℚ) / den < 2 ^ (-1075 : ℤ)) :
    ofRatio negative num den = some (zero negative) := by
  rcases num.eq_zero_or_pos with rfl | hnum
  · rfl
  · have hpos : (0 : ℚ) < num / den := div_pos (by exact_mod_cast hnum) (by exact_mod_cast hden)
    have hlog : Int.log 2 ((num : ℚ) / den) < -1075 :=
      (Int.lt_zpow_iff_log_lt (by norm_num : 1 < 2) hpos).mp (by exact_mod_cast h)
    have hunit : binary64.unit num den = -1074 := by
      have hleast : binary64.leastExponent = -1074 := rfl
      rw [unit, floorLog2_eq_log hnum hden, hleast]
      omega
    -- the quotient is less than half of the least unit
    have hhalf : 2 * (scaleByTwo num den 1074).1 < (scaleByTwo num den 1074).2 := by
      have hsnd : (0 : ℚ) < (scaleByTwo num den 1074).2 := by
        exact_mod_cast scaleByTwo_snd_pos hden 1074
      have hscaled : (2 : ℚ) * ((scaleByTwo num den 1074).1 / (scaleByTwo num den 1074).2) < 1 := by
        rw [scaleByTwo_div]
        calc (2 : ℚ) * (num / den * 2 ^ (1074 : ℤ))
            < 2 * (2 ^ (-1075 : ℤ) * 2 ^ (1074 : ℤ)) := by gcongr
          _ = 1 := by rw [← zpow_add₀ two_ne_zero]; norm_num
      rw [← mul_div_assoc, div_lt_one hsnd] at hscaled
      exact_mod_cast hscaled
    have hunits : binary64.units num den = 0 := by
      rw [units, hunit]
      exact roundHalfEven_eq_zero hhalf
    have hnearest : binary64.nearest num den = (0, -1074) := by
      rw [nearest_eq hnum.ne', hunits, hunit]
      rfl
    simp only [ofRatio, hnearest]
    rfl

/-! ## §3 Decimal numbers -/

theorem ten_zpow_eq_natCast {e : ℤ} (h : 0 ≤ e) : (10 : ℚ) ^ e = (10 ^ e.toNat : ℕ) := by
  obtain ⟨n, rfl⟩ := Int.eq_ofNat_of_zero_le h
  simp

theorem ten_zpow_eq_inv {e : ℤ} (h : e < 0) : (10 : ℚ) ^ e = ((10 ^ (-e).toNat : ℕ) : ℚ)⁻¹ := by
  rw [← ten_zpow_eq_natCast (by omega : 0 ≤ -e), zpow_neg, inv_inv]

/-- Powers of ten are compared with powers of eight. -/
theorem two_zpow_le_ten_zpow {e : ℤ} (h : 0 ≤ e) : (2 : ℚ) ^ (3 * e) ≤ 10 ^ e := by
  obtain ⟨n, rfl⟩ := Int.eq_ofNat_of_zero_le h
  rw [zpow_mul, zpow_natCast, zpow_natCast]
  exact pow_le_pow_left₀ (by norm_num) (by norm_num) n

theorem ten_zpow_le_two_zpow {e : ℤ} (h : e ≤ 0) : (10 : ℚ) ^ e ≤ 2 ^ (3 * e) := by
  have hpow := two_zpow_le_ten_zpow (by omega : 0 ≤ -e)
  have hinv := inv_anti₀ (by positivity) hpow
  rwa [← zpow_neg, ← zpow_neg, neg_neg, mul_neg, neg_neg] at hinv

/-- An exponent that is too great makes up for any digits, -/
theorem large_of_exponent {digits : ℕ} {exponent : ℤ} (hdigits : digits ≠ 0)
    (h : 400 < exponent) : (2 : ℚ) ^ (1024 : ℤ) ≤ digits * 10 ^ exponent := by
  have hone : (1 : ℚ) ≤ digits := by exact_mod_cast Nat.one_le_iff_ne_zero.mpr hdigits
  calc (2 : ℚ) ^ (1024 : ℤ) ≤ 2 ^ (3 * exponent) := zpow_le_zpow_right₀ (by norm_num) (by omega)
    _ ≤ 10 ^ exponent := two_zpow_le_ten_zpow (by omega)
    _ ≤ digits * 10 ^ exponent := le_mul_of_one_le_left (by positivity) hone

/-- and one that is too small for the digits as well. -/
theorem small_of_exponent {digits : ℕ} {exponent : ℤ}
    (h : exponent < -(400 + (Nat.log2 digits : ℤ))) :
    (digits : ℚ) * 10 ^ exponent < 2 ^ (-1075 : ℤ) := by
  have hdigits : (digits : ℚ) < 2 ^ ((Nat.log2 digits : ℤ) + 1) := by
    exact_mod_cast Nat.lt_log2_self
  calc (digits : ℚ) * 10 ^ exponent
      < 2 ^ ((Nat.log2 digits : ℤ) + 1) * 10 ^ exponent := by gcongr
    _ ≤ 2 ^ ((Nat.log2 digits : ℤ) + 1) * 2 ^ (3 * exponent) := by
        gcongr
        exact ten_zpow_le_two_zpow (by omega)
    _ = 2 ^ ((Nat.log2 digits : ℤ) + 1 + 3 * exponent) := (zpow_add₀ two_ne_zero _ _).symm
    _ ≤ 2 ^ (-1075 : ℤ) := zpow_le_zpow_right₀ (by norm_num) (by omega)

/-- **Decimal numbers.** The number nearest to digits with a power of ten is the one nearest to a
quotient of that value, also where the power is not computed. -/
theorem ofDecimal_eq_ofRatio {digits num den : ℕ} {exponent : ℤ} (hdigits : digits ≠ 0)
    (hden : 0 < den) (h : (digits : ℚ) * 10 ^ exponent = num / den) :
    ofDecimal negative digits exponent = ofRatio negative num den := by
  have hpos : (0 : ℚ) < num / den := by
    rw [← h]
    have : (0 : ℚ) < digits := by exact_mod_cast Nat.pos_of_ne_zero hdigits
    positivity
  have hnum : 0 < num := pos_of_quotient_pos hpos
  unfold ofDecimal
  rw [if_neg hdigits]
  -- for the first two exponents no power is computed, so the value has to decide
  split_ifs with hlarge hsmall hnonneg
  · exact (ofRatio_eq_none negative hnum hden (h ▸ large_of_exponent hdigits hlarge)).symm
  · exact (ofRatio_eq_zero negative hden (h ▸ small_of_exponent hsmall)).symm
  · apply ofRatio_congr negative one_pos hden
    rw [← h, ten_zpow_eq_natCast hnonneg]
    push_cast
    ring
  · apply ofRatio_congr negative (by positivity) hden
    rw [← h, ten_zpow_eq_inv (not_le.mp hnonneg), div_eq_mul_inv]

/-- The value of digits with a power of ten is a quotient. -/
theorem exists_ratio_eq (digits : ℕ) (exponent : ℤ) :
    ∃ num den : ℕ, 0 < den ∧ (digits : ℚ) * 10 ^ exponent = num / den := by
  rcases le_or_gt 0 exponent with hnonneg | hneg
  · refine ⟨digits * 10 ^ exponent.toNat, 1, one_pos, ?_⟩
    rw [ten_zpow_eq_natCast hnonneg]
    push_cast
    ring
  · refine ⟨digits, 10 ^ (-exponent).toNat, by positivity, ?_⟩
    rw [ten_zpow_eq_inv hneg, div_eq_mul_inv]

/-- **Decimal numbers of one value** have one nearest number. -/
theorem ofDecimal_congr {digits digits' : ℕ} {exponent exponent' : ℤ}
    (h : (digits : ℚ) * 10 ^ exponent = digits' * 10 ^ exponent') :
    ofDecimal negative digits exponent = ofDecimal negative digits' exponent' := by
  have hten : ∀ e : ℤ, (10 : ℚ) ^ e ≠ 0 := fun e => by positivity
  have hzero : digits = 0 ↔ digits' = 0 := by
    have := congrArg (· = 0) h
    simpa [hten] using this
  by_cases hdigits : digits = 0
  · rw [ofDecimal, ofDecimal, if_pos hdigits, if_pos (hzero.mp hdigits)]
  · obtain ⟨num, den, hden, hratio⟩ := exists_ratio_eq digits exponent
    rw [ofDecimal_eq_ofRatio negative hdigits hden hratio,
      ofDecimal_eq_ofRatio negative (mt hzero.mpr hdigits) hden (h ▸ hratio)]

theorem ofDecimal_eq_map (digits : ℕ) (exponent : ℤ) :
    ofDecimal negative digits exponent =
      (ofDecimal false digits exponent).map (·.withSign negative) := by
  unfold ofDecimal
  split_ifs
  · rfl
  · rfl
  · rfl
  · exact ofRatio_eq_map negative _ _
  · exact ofRatio_eq_map negative _ _

/-! ## §4 Numbers of the format -/

variable (x : Double)

/-- Zero is written in one way only, but for the sign. -/
theorem eq_zero_of_significand (hx : x.significand = 0) : x = zero x.negative := by
  obtain ⟨-, -, -, hfull | hleast⟩ := x.canonical
  · rw [hx] at hfull
    norm_num at hfull
  · cases x
    simp_all [zero]

theorem ratio_div_pos (hx : x.significand ≠ 0) : (0 : ℚ) < (x.ratio.1 : ℚ) / x.ratio.2 := by
  have hpos : (0 : ℚ) < x.significand := by exact_mod_cast Nat.pos_of_ne_zero hx
  rw [x.ratio_div]
  positivity

/-- The unit of a number's own value is its exponent. -/
theorem unit_ratio (hx : x.significand ≠ 0) :
    binary64.unit x.ratio.1 x.ratio.2 = x.exponent := by
  obtain ⟨hlt, hleast, -, hcanonical⟩ := x.canonical
  have hmagnitude := x.ratio_div_pos hx
  have hnum : 0 < x.ratio.1 := pos_of_quotient_pos hmagnitude
  have hlog : Int.log 2 ((x.ratio.1 : ℚ) / x.ratio.2) < x.exponent + 53 := by
    apply (Int.lt_zpow_iff_log_lt (by norm_num : 1 < 2) hmagnitude).mp
    rw [x.ratio_div, Nat.cast_ofNat, add_comm, zpow_add₀ two_ne_zero]
    have hsignificand : (x.significand : ℚ) < 2 ^ (53 : ℤ) := by exact_mod_cast hlt
    gcongr
  have hprecision : (binary64.precision - 1 : ℕ) = 52 := rfl
  have hexponent : binary64.leastExponent = -1074 := rfl
  rw [unit, floorLog2_eq_log hnum x.ratio_snd_pos, hprecision, hexponent]
  rcases hcanonical with hfull | hminimal
  · -- with all its bits the significand says what the logarithm is
    have hlog' : x.exponent + 52 ≤ Int.log 2 ((x.ratio.1 : ℚ) / x.ratio.2) := by
      apply (Int.zpow_le_iff_le_log (by norm_num : 1 < 2) hmagnitude).mp
      rw [x.ratio_div, Nat.cast_ofNat, add_comm, zpow_add₀ two_ne_zero]
      have hsignificand : (2 : ℚ) ^ (52 : ℤ) ≤ x.significand := by exact_mod_cast hfull
      gcongr
    omega
  · omega

/-- **A number is nearest to itself.** -/
theorem ofRatio_ratio : ofRatio x.negative x.ratio.1 x.ratio.2 = some x := by
  by_cases hx : x.significand = 0
  · have hratio : x.ratio.1 = 0 := by
      unfold ratio scaleByTwo
      split_ifs <;> simp [hx]
    rw [hratio]
    conv_rhs => rw [x.eq_zero_of_significand hx]
    rfl
  · have hunit := x.unit_ratio hx
    have hden := x.ratio_snd_pos
    -- the value is a whole number of these units, so that nothing is left to be rounded
    have hunits : binary64.units x.ratio.1 x.ratio.2 = x.significand := by
      have hvalue : (x.ratio.1 : ℚ) / x.ratio.2 =
          x.significand * 2 ^ binary64.unit x.ratio.1 x.ratio.2 := by
        rw [hunit, x.ratio_div]
      exact le_antisymm (units_le hden hvalue.le) (le_units hden hvalue.ge)
    have hnum : 0 < x.ratio.1 := pos_of_quotient_pos (x.ratio_div_pos hx)
    have hroom : x.significand ≠ 2 ^ binary64.precision := x.canonical.1.ne
    have hnearest : binary64.nearest x.ratio.1 x.ratio.2 = (x.significand, x.exponent) := by
      rw [nearest_eq hnum.ne', hunits, hunit, if_neg hroom]
    simp only [ofRatio, hnearest, make?, dif_pos x.canonical]

end Double

end WebTrip

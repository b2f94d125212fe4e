import WebTrip.Proofs.Number.DecimalValue

/-!
# Decimals shifted by a power of ten

An exponent multiplies a decimal by a power of ten, or divides it by one. A product is exact, and
there is none if it is too large. A quotient may have too many places and is rounded then. Where the
decimal is itself a rounding of some number, the two errors come together.

## Main definitions

- `Decimal.shift?`: a decimal shifted by an exponent of any sign

## Main statements

- `Decimal.shiftLeft?_magnitude`, `Decimal.shiftRight?_rounds`: products and quotients
- `Decimal.exists_shift?`: a shift fails only if its result is too large
- `Decimal.shift?_near`: a small result is off by a half at most
- `Decimal.shift?_exact`, `Decimal.isDecimal_of_shift?`: when a result is not off at all
-/

namespace WebTrip

namespace Decimal

/-! ## §1 Products and quotients -/

/-- Where a product has no places left, it is the integer that the mantissa has become. -/
theorem magnitude_mul_pow {d : Decimal} {power : ℕ} (h : d.scale ≤ power) :
    d.magnitude * 10 ^ power = (d.mantissa * 10 ^ (power - d.scale) : ℕ) := by
  have hpow : (10 ^ power : ℚ) = 10 ^ (power - d.scale) * 10 ^ d.scale :=
    (pow_sub_mul_pow _ h).symm
  rw [magnitude, hpow]
  push_cast
  field_simp

/-- A product with a power of ten is exact. -/
theorem shiftLeft?_magnitude {d d' : Decimal} {power : ℕ} (h : d.shiftLeft? power = some d') :
    d'.negative = d.negative ∧ d'.magnitude = d.magnitude * 10 ^ power := by
  unfold shiftLeft? at h
  split_ifs at h with hle
  · obtain ⟨hneg, hm, hk⟩ := make?_eq_some_iff.mp h
    refine ⟨hneg, ?_⟩
    have hpow : (10 ^ d.scale : ℚ) = 10 ^ (d.scale - power) * 10 ^ power :=
      (pow_sub_mul_pow _ hle).symm
    rw [magnitude, magnitude, hm, hk, hpow, div_mul_eq_mul_div,
      mul_div_mul_right _ _ (by positivity)]
  · obtain ⟨hneg, hm, hk⟩ := make?_eq_some_iff.mp h
    refine ⟨hneg, ?_⟩
    rw [magnitude_mul_pow (by omega), magnitude, hm, hk, pow_zero, div_one]

/-- Leaving out places is off by at most half a unit of the last place that stays. -/
theorem roundTo_near (d : Decimal) (places : ℕ) :
    |(d.roundTo places : ℚ) - d.mantissa / 10 ^ (d.scale - places)| ≤ 1 / 2 := by
  set u : ℕ := 10 ^ (d.scale - places) with hu
  have hpos : 0 < u := by positivity
  have hround : d.roundTo places = (2 * d.mantissa + u) / (2 * u) := rfl
  have hlower : d.roundTo places * (2 * u) ≤ 2 * d.mantissa + u := by
    rw [hround]
    exact Nat.div_mul_le_self _ _
  have hupper : 2 * d.mantissa + u < (d.roundTo places + 1) * (2 * u) := by
    rw [hround, mul_comm _ (2 * u)]
    exact Nat.lt_mul_div_succ _ (by positivity)
  have hposq : (0 : ℚ) < u := by exact_mod_cast hpos
  have hlowerq : (d.roundTo places : ℚ) * (2 * u) ≤ 2 * d.mantissa + u := by exact_mod_cast hlower
  have hupperq : (2 * d.mantissa + u : ℚ) < (d.roundTo places + 1) * (2 * u) := by
    exact_mod_cast hupper
  have hcast : (10 ^ (d.scale - places) : ℚ) = u := by
    rw [hu]
    push_cast
    rfl
  rw [hcast, abs_le]
  constructor
  · have : (d.mantissa : ℚ) / u ≤ d.roundTo places + 1 / 2 := by
      rw [div_le_iff₀ hposq]
      linarith
    linarith
  · have : (d.roundTo places : ℚ) - 1 / 2 ≤ d.mantissa / u := by
      rw [le_div_iff₀ hposq]
      linarith
    linarith

/-- A mantissa that ends in zeros is rounded to what stands before them. -/
theorem roundTo_mul {d : Decimal} {places c : ℕ}
    (h : d.mantissa = c * 10 ^ (d.scale - places)) : d.roundTo places = c := by
  set u : ℕ := 10 ^ (d.scale - places) with hu
  have hpos : 0 < u := by positivity
  have hround : d.roundTo places = (2 * (c * u) + u) / (2 * u) := by rw [← h]; rfl
  have hdistrib : 2 * (c * u) + u = u + (2 * u) * c := by ring
  rw [hround, hdistrib, Nat.add_mul_div_left _ _ (by positivity), Nat.div_eq_of_lt (by omega),
    zero_add]

/-- A quotient with a power of ten is rounded to the places that there are. -/
theorem shiftRight?_rounds {d d' : Decimal} {power : ℕ} (hpower : power ≤ maxScale)
    (h : d.shiftRight? power = some d') :
    d'.negative = d.negative ∧ d'.Rounds (d.magnitude / 10 ^ power) := by
  have hquotient : d.magnitude / 10 ^ power = d.mantissa / 10 ^ (d.scale + power) := by
    rw [magnitude, div_div, pow_add]
  rw [hquotient]
  unfold shiftRight? at h
  split_ifs at h with hroom
  · obtain ⟨hneg, hm, hk⟩ := make?_eq_some_iff.mp h
    exact ⟨hneg, .of_eq (by rw [magnitude, hm, hk])⟩
  · obtain ⟨hneg, hm, hk⟩ := make?_eq_some_iff.mp h
    refine ⟨hneg, ?_⟩
    have hscale : d.scale + power = 28 + (d.scale - (maxScale - power)) := by
      simp only [maxScale] at hpower hroom ⊢
      omega
    have hmagnitude : d'.magnitude = d.roundTo (maxScale - power) / 10 ^ 28 := by
      rw [magnitude, hm, hk]
      rfl
    rw [hscale, pow_add, mul_comm, ← div_div]
    refine ⟨fun hdecimal => ?_, ?_, fun _ => .inl hk⟩
    · -- all 28 places are filled up by an integer, which the mantissa is a multiple of
      obtain ⟨c, hc⟩ := hdecimal.exists_eq_div (by positivity)
      have hmultiple : (d.mantissa : ℚ) / 10 ^ (d.scale - (maxScale - power)) = c := by
        rwa [div_left_inj' (by positivity)] at hc
      have hmantissa : d.mantissa = c * 10 ^ (d.scale - (maxScale - power)) := by
        rw [div_eq_iff (by positivity)] at hmultiple
        exact_mod_cast hmultiple
      rw [hmagnitude, roundTo_mul hmantissa, hc]
    · rw [hmagnitude, hk]
      exact abs_div_sub_div_le (d.roundTo_near (maxScale - power))

/-! ## §2 Exponents -/

/-- A decimal shifted by an exponent of magnitude at most 28. -/
def shift? (b : Decimal) (power : ℤ) : Option Decimal :=
  if 28 < power.natAbs then none
  else if power < 0 then b.shiftRight? power.natAbs
  else b.shiftLeft? power.natAbs

theorem shiftLeft?_zero (b : Decimal) : b.shiftLeft? 0 = some b :=
  make?_eq_some_iff.mpr ⟨rfl, rfl, rfl⟩

theorem shiftRight?_zero (b : Decimal) : b.shiftRight? 0 = some b := by
  rw [shiftRight?, if_pos (show b.scale + 0 ≤ maxScale from b.scale_le)]
  exact make?_eq_some_iff.mpr ⟨rfl, rfl, rfl⟩

@[simp]
theorem shift?_zero (b : Decimal) : b.shift? 0 = some b := shiftLeft?_zero b

theorem shift?_natCast (b : Decimal) (n : ℕ) :
    b.shift? n = if n ≤ 28 then b.shiftLeft? n else none := by
  unfold shift?
  by_cases hn : n ≤ 28
  · rw [if_neg (by omega), if_neg (by omega), if_pos hn, Int.natAbs_natCast]
  · rw [if_pos (by omega), if_neg hn]

theorem shift?_neg_natCast (b : Decimal) (n : ℕ) :
    b.shift? (-n) = if n ≤ 28 then b.shiftRight? n else none := by
  unfold shift?
  by_cases hn : n ≤ 28
  · rw [if_neg (by omega), if_pos hn, Int.natAbs_neg, Int.natAbs_natCast]
    -- a zero is no negative power, but shifts by nothing in both directions
    by_cases hzero : n = 0
    · rw [hzero, if_neg (by omega), shiftLeft?_zero, shiftRight?_zero]
    · rw [if_pos (by omega)]
  · rw [if_pos (by omega), if_neg hn]

variable {b d : Decimal} {power : ℤ} {q : ℚ}

/-- The two directions of a shift. -/
theorem shift?_cases (h : b.shift? power = some d) :
    (∃ n : ℕ, n ≤ 28 ∧ power = n ∧ b.shiftLeft? n = some d) ∨
      ∃ n : ℕ, n ≤ 28 ∧ power = -n ∧ b.shiftRight? n = some d := by
  obtain ⟨n, rfl | rfl⟩ := power.eq_nat_or_neg
  · rw [shift?_natCast, Option.ite_none_right_eq_some] at h
    exact .inl ⟨n, h.1, rfl, h.2⟩
  · rw [shift?_neg_natCast, Option.ite_none_right_eq_some] at h
    exact .inr ⟨n, h.1, rfl, h.2⟩

theorem shift?_negative (h : b.shift? power = some d) : d.negative = b.negative := by
  rcases shift?_cases h with ⟨n, -, -, hd⟩ | ⟨n, hn, -, hd⟩
  · exact (shiftLeft?_magnitude hd).1
  · exact (shiftRight?_rounds hn hd).1

/-- Leaving out places does not make a mantissa larger. -/
theorem roundTo_le (b : Decimal) (places : ℕ) : b.roundTo places ≤ b.mantissa := by
  set u : ℕ := 10 ^ (b.scale - places) with hu
  have hpos : 0 < u := by positivity
  have hround : b.roundTo places = (2 * b.mantissa + u) / (2 * u) := rfl
  have hle : b.mantissa * 1 ≤ b.mantissa * u := Nat.mul_le_mul_left _ hpos
  rw [hround, ← Nat.lt_succ_iff, Nat.div_lt_iff_lt_mul (by positivity)]
  calc 2 * b.mantissa + u < 2 * (b.mantissa * u) + 2 * u := by omega
    _ = b.mantissa.succ * (2 * u) := by rw [Nat.succ_eq_add_one]; ring

/-- A shift by a power within the limits fails only if its result is too large. -/
theorem exists_shift? (hpower : power.natAbs ≤ 28) (hsmall : b.magnitude * 10 ^ power < 2 ^ 96) :
    ∃ d, b.shift? power = some d := by
  have hmake : ∀ m k, m < 2 ^ 96 → k ≤ 28 → ∃ d, make? b.negative m k = some d :=
    fun m k hm hk => ⟨_, dif_pos ⟨hm, hk⟩⟩
  obtain ⟨n, rfl | rfl⟩ := power.eq_nat_or_neg
  · rw [shift?_natCast, if_pos (by omega), shiftLeft?]
    by_cases hle : n ≤ b.scale
    · rw [if_pos hle]
      exact hmake _ _ b.mantissa_lt ((Nat.sub_le _ _).trans b.scale_le)
    · -- no place is left, and the mantissa is the result itself
      rw [zpow_natCast, magnitude_mul_pow (by omega)] at hsmall
      rw [if_neg hle]
      exact hmake _ _ (by exact_mod_cast hsmall) (Nat.zero_le _)
  · rw [shift?_neg_natCast, if_pos (by omega), shiftRight?]
    by_cases hroom : b.scale + n ≤ maxScale
    · rw [if_pos hroom]
      exact hmake _ _ b.mantissa_lt hroom
    · rw [if_neg hroom]
      exact hmake _ _ ((b.roundTo_le _).trans_lt b.mantissa_lt) le_rfl

/-! ## §3 Errors -/

/-- Multiplied by its exponent, a number is off from the decimal that is read by a half at most, if
this decimal is small. -/
theorem shift?_near (h : b.shift? power = some d) (hb : b.Rounds q)
    (hsmall : d.magnitude ≤ 2 ^ 64) : |d.magnitude - q * 10 ^ power| ≤ 1 / 2 := by
  rcases shift?_cases h with ⟨n, hn, rfl, hd⟩ | ⟨n, hn, rfl, hd⟩
  · obtain ⟨-, hd⟩ := shiftLeft?_magnitude hd
    rw [zpow_natCast, hd, ← sub_mul, abs_mul, abs_of_pos (by positivity : (0 : ℚ) < 10 ^ n)]
    by_cases heq : b.magnitude = q
    · rw [heq, sub_self, abs_zero, zero_mul]
      norm_num
    · -- the exponent makes the last place of the rounding a unit at most
      have hplaces : n ≤ b.scale := by
        have := hb.scale_of_ne heq (hd ▸ hsmall)
        omega
      have hpow : (10 ^ n : ℚ) ≤ 10 ^ b.scale := pow_le_pow_right₀ (by norm_num) hplaces
      calc |b.magnitude - q| * 10 ^ n
          ≤ 1 / (2 * 10 ^ b.scale) * 10 ^ b.scale := by gcongr; exact hb.near
        _ = 1 / 2 := by field_simp
  · obtain ⟨-, hd⟩ := shiftRight?_rounds hn hd
    have hbase : |b.magnitude / 10 ^ n - q / 10 ^ n| = |b.magnitude - q| / 10 ^ n := by
      rw [← sub_div, abs_div, abs_of_pos (by positivity : (0 : ℚ) < 10 ^ n)]
    rw [zpow_neg, zpow_natCast, ← div_eq_mul_inv]
    by_cases heq : d.magnitude = b.magnitude / 10 ^ n
    · rw [heq, hbase]
      exact (div_le_self (abs_nonneg _) (one_le_pow₀ (by norm_num))).trans hb.near_half
    · -- a quotient is rounded only if it has places more, so that the first distance is divided
      have hpower : n ≠ 0 := by
        rintro rfl
        rw [pow_zero, div_one] at hd heq
        exact heq (hd.exact b.isDecimal_magnitude)
      have hten : (10 : ℚ) ≤ 10 ^ n := le_self_pow₀ (by norm_num) hpower
      have hquotient : |b.magnitude - q| / 10 ^ n ≤ 1 / 2 / 10 := by
        gcongr
        exact hb.near_half
      calc |d.magnitude - q / 10 ^ n|
          ≤ |d.magnitude - b.magnitude / 10 ^ n| +
            |b.magnitude / 10 ^ n - q / 10 ^ n| := abs_sub_le _ _ _
        _ ≤ 1 / (2 * 10 ^ 9) + 1 / 2 / 10 :=
            add_le_add (hd.near_of_small hsmall) (hbase ▸ hquotient)
        _ ≤ 1 / 2 := by norm_num

/-- Decimals are shifted to decimals without an error. -/
theorem shift?_exact (h : b.shift? power = some d) (hb : b.Rounds q) (hq : IsDecimal q)
    (hproduct : IsDecimal (q * 10 ^ power)) : d.magnitude = q * 10 ^ power := by
  rcases shift?_cases h with ⟨n, hn, rfl, hd⟩ | ⟨n, hn, rfl, hd⟩
  · obtain ⟨-, hd⟩ := shiftLeft?_magnitude hd
    rw [zpow_natCast, hd, hb.exact hq]
  · obtain ⟨-, hd⟩ := shiftRight?_rounds hn hd
    rw [zpow_neg, zpow_natCast, ← div_eq_mul_inv] at hproduct ⊢
    rw [hb.exact hq] at hd
    exact hd.exact hproduct

/-- A whole result without an error comes from a decimal. -/
theorem isDecimal_of_shift? (h : b.shift? power = some d) (hsmall : |q| < 2 ^ 96)
    (hwhole : ∃ n : ℕ, d.magnitude = n) (heq : d.magnitude = q * 10 ^ power) : IsDecimal q := by
  rcases shift?_cases h with ⟨n, hn, rfl, hd⟩ | ⟨n, hn, rfl, hd⟩
  · obtain ⟨-, hd⟩ := shiftLeft?_magnitude hd
    have hpos : (0 : ℚ) < 10 ^ n := by positivity
    rw [zpow_natCast, hd] at heq
    have hq : b.magnitude = q := mul_right_cancel₀ hpos.ne' heq
    exact hq ▸ b.isDecimal_magnitude
  · -- the number in front of the exponent is a multiple of a whole number
    obtain ⟨m, hm⟩ := hwhole
    have hpos : (0 : ℚ) < 10 ^ n := by positivity
    have hinteger : q = ((m * 10 ^ n : ℕ) : ℤ) := by
      rw [hm, zpow_neg, zpow_natCast, ← div_eq_mul_inv, eq_div_iff hpos.ne'] at heq
      rw [← heq]
      push_cast
      rfl
    rw [hinteger] at hsmall ⊢
    exact isDecimal_intCast hsmall

end Decimal

end WebTrip

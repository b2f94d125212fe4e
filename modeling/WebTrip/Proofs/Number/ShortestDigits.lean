import WebTrip.Number.Shortest
import WebTrip.Proofs.Number.NearestDouble

/-!
# Shortest digits read back

The shortest digits of a binary64 number are found by trying: digits are taken only if the number is
the nearest one to them. Zeros at their end may be dropped, since this does not change their value,
and the digits of the full expansion, which would be taken if none were found, are the number
itself. In each case the number is read back from its digits.

## Main definitions

- `Double.Digits.value`: the number that digits stand for

## Main statements

- `Double.firstReadBack_reads_back`: digits that are found by trying
- `Double.Digits.value_dropZeros`, `Double.value_allDigits`: digits that are not tried
- `Double.ofDecimal_shortest`: the shortest digits read back
-/

namespace WebTrip.Double

/-! ## §1 Digits that are tried -/

/-- Digits are taken from a grid only if they read back. -/
theorem readBackAt_reads_back {x : Double} {num den : ℕ} {k : ℤ} {d : Digits}
    (h : readBackAt x num den k = some d) : ofDecimal false d.digits d.exponent = some x := by
  simp only [readBackAt] at h
  split_ifs at h with hlower hupper
  · cases h
    exact hlower.1
  · cases h
    exact hupper

/-- Whichever grid is the first one, its digits read back. -/
theorem firstReadBack_reads_back {x : Double} {num den fuel : ℕ} {k : ℤ} {d : Digits}
    (h : firstReadBack x num den fuel k = some d) :
    ofDecimal false d.digits d.exponent = some x := by
  induction fuel generalizing k with
  | zero => cases h
  | succ fuel ih =>
    rw [firstReadBack] at h
    cases hgrid : readBackAt x num den k with
    | some found =>
      rw [hgrid] at h
      cases h
      exact readBackAt_reads_back hgrid
    | none =>
      rw [hgrid] at h
      exact ih h

/-! ## §2 Digits that are not tried -/

/-- The number that digits stand for. -/
def Digits.value (d : Digits) : ℚ :=
  d.digits * 10 ^ d.exponent

/-- Without zeros at their end the digits stand for the same number. -/
theorem Digits.value_dropZeros (fuel : ℕ) (d : Digits) : (d.dropZeros fuel).value = d.value := by
  induction fuel generalizing d with
  | zero => rfl
  | succ fuel ih =>
    rw [dropZeros]
    split_ifs with hzero
    · rw [ih]
      have hdigits : (d.digits : ℚ) = (d.digits / 10 : ℕ) * 10 := by
        exact_mod_cast (Nat.div_mul_cancel (Nat.dvd_of_mod_eq_zero hzero.2)).symm
      rw [value, value, hdigits, zpow_add₀ (by norm_num), zpow_one]
      ring
    · rfl

/-- The full expansion stands for the magnitude of the number. -/
theorem value_allDigits (x : Double) : x.allDigits.value = x.magnitude := by
  unfold allDigits magnitude Digits.value
  split_ifs with hexponent
  · obtain ⟨e, he⟩ := Int.eq_ofNat_of_zero_le hexponent
    simp [he]
  · -- a half is five tenths
    obtain ⟨e, he⟩ := Int.eq_ofNat_of_zero_le (by omega : 0 ≤ -x.exponent)
    have hneg : x.exponent = -(e : ℤ) := by omega
    have hten : (10 : ℚ) ^ e = 2 ^ e * 5 ^ e := by
      rw [← mul_pow]
      norm_num
    simp only [hneg, neg_neg, Int.toNat_natCast, zpow_neg, zpow_natCast, Nat.cast_mul, Nat.cast_pow,
      Nat.cast_ofNat, hten]
    field_simp

/-! ## §3 The shortest digits -/

/-- The digits of a number read back as its magnitude. -/
theorem ofDecimal_shortest_magnitude (x : Double) :
    ofDecimal false x.shortest.digits x.shortest.exponent = some (x.withSign false) := by
  unfold shortest
  dsimp only
  cases hfound : firstReadBack (x.withSign false) x.ratio.1 x.ratio.2 17
      (floorLog10 x.ratio.1 x.ratio.2) with
  | some d =>
    have hvalue := d.value_dropZeros 17
    rw [ofDecimal_congr false hvalue]
    exact firstReadBack_reads_back hfound
  | none =>
    -- the full expansion is the number itself, and this is nearest to itself
    have hself : ofRatio false x.ratio.1 x.ratio.2 = some (x.withSign false) :=
      (x.withSign false).ofRatio_ratio
    have hvalue : x.allDigits.value = (x.ratio.1 : ℚ) / x.ratio.2 := by
      rw [value_allDigits, magnitude_eq_ratio]
    by_cases hzero : x.allDigits.digits = 0
    · have hsignificand : x.significand = 0 := by
        unfold allDigits at hzero
        split_ifs at hzero <;> simpa using hzero
      have hx := (x.withSign false).eq_zero_of_significand hsignificand
      rw [hx, ofDecimal, if_pos hzero]
      rfl
    · rw [ofDecimal_eq_ofRatio false hzero x.ratio_snd_pos hvalue, hself]

/-- **Reading back.** The shortest digits of a number, with its sign, are read as the number. -/
theorem ofDecimal_shortest (x : Double) :
    ofDecimal x.negative x.shortest.digits x.shortest.exponent = some x := by
  rw [ofDecimal_eq_map, ofDecimal_shortest_magnitude]
  rfl

/-- A number that is not zero has digits other than zero. -/
theorem shortest_digits_ne_zero (x : Double) (hx : x.isZero = false) : x.shortest.digits ≠ 0 := by
  intro hzero
  have hread := x.ofDecimal_shortest
  rw [ofDecimal, if_pos hzero] at hread
  rw [← Option.some.inj hread] at hx
  cases hx

/-- Digits with the value of the shortest ones read back as well. -/
theorem ofDecimal_of_value_eq (x : Double) {digits : ℕ} {exponent : ℤ}
    (h : (digits : ℚ) * 10 ^ exponent = x.shortest.value) :
    ofDecimal x.negative digits exponent = some x := by
  rw [ofDecimal_congr x.negative h, ofDecimal_shortest]

end WebTrip.Double

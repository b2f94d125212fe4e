import WebTrip.Number.Decimal
import WebTrip.Proofs.Number.Rounding

/-!
# Decimals as binary64 numbers

Every decimal has a binary64 form. A mantissa has 96 bits, and the power of ten of its places fewer,
so that the steps from one to the other, a product of the two among them, stay far below the
greatest binary64 number; and what is divided by is at least one.

## Main statements

- `Decimal.exists_places`: the power of ten of the places, by repeated squaring
- `Decimal.exists_toDouble`: the binary64 form of a decimal
-/

namespace WebTrip

namespace Decimal

open Double

variable (d : Decimal)

/-- The power of ten of the places fits in 94 bits. -/
theorem pow_scale_le : 10 ^ d.scale ≤ 2 ^ 94 :=
  (Nat.pow_le_pow_right (by omega) d.scale_le).trans (by norm_num)

/-- A natural number of at most 96 bits has a nearest binary64 number. -/
theorem exists_ofNat {n : ℕ} (h : n ≤ 2 ^ 96) :
    ∃ x, ofRatio false n 1 = some x ∧ x.magnitude ≤ 2 ^ 96 ∧ (1 ≤ n → 1 ≤ x.magnitude) := by
  have hle : (n : ℚ) / (1 : ℕ) ≤ 2 ^ 96 := by
    rw [Nat.cast_one, div_one]
    exact_mod_cast h
  obtain ⟨x, hx, hbound, hone⟩ := exists_ofRatio_le false one_pos (by omega) hle
  rw [Nat.cast_one, div_one] at hone
  exact ⟨x, hx, hbound, fun hn => hone (by exact_mod_cast hn)⟩

/-- The power of ten of the places, as it is computed in binary64. -/
theorem exists_places (d : Decimal) :
    ∃ one ten places, ofRatio false 1 1 = some one ∧ ofRatio false 10 1 = some ten ∧
      powFrom 6 one ten d.scale = some places ∧
      1 ≤ places.magnitude ∧ places.magnitude ≤ 2 ^ 112 := by
  have hscale := d.scale_le
  have hsmall : ((1 : ℕ) : ℚ) / (1 : ℕ) ≤ 2 ^ 0 := by norm_num
  have hsmall' : ((10 : ℕ) : ℚ) / (1 : ℕ) ≤ 2 ^ 4 := by norm_num
  obtain ⟨one, hone, hone0, hone1⟩ := exists_ofRatio_le false one_pos (by omega) hsmall
  obtain ⟨ten, hten, hten4, hten1⟩ := exists_ofRatio_le false one_pos (by omega) hsmall'
  obtain ⟨places, hplaces, hplaces1, hbound⟩ := exists_powFrom 6 (n := d.scale) (by omega)
    ⟨hone1 (by norm_num), hone0⟩ ⟨hten1 (by norm_num), hten4⟩
  refine ⟨one, ten, places, hone, hten, hplaces, hplaces1, hbound.trans ?_⟩
  exact pow_le_pow_right₀ (by norm_num) (by omega)

/-- The magnitude of a decimal has a binary64 form. -/
theorem exists_magnitudeDouble : ∃ x, d.magnitudeDouble = some x := by
  have hmantissa := d.mantissa_lt.le
  have hpower := d.pow_scale_le
  unfold magnitudeDouble
  by_cases hscale : d.scale = 0
  · obtain ⟨x, hx, -⟩ := exists_ofNat hmantissa
    exact ⟨x, by simp [hscale, hx]⟩
  · -- the integer part and the fraction are those of the two quotients
    obtain ⟨integer, hinteger, hintegerb, -⟩ :=
      exists_ofNat ((Nat.div_le_self d.mantissa (10 ^ d.scale)).trans hmantissa)
    obtain ⟨rest, hrest, hrestb, -⟩ :=
      exists_ofNat ((Nat.mod_le d.mantissa (10 ^ d.scale)).trans hmantissa)
    obtain ⟨power, hpower', -, hpower1⟩ :=
      exists_ofNat (hpower.trans (Nat.pow_le_pow_right (by omega) (by omega)))
    obtain ⟨fraction, hfraction, hfractionb⟩ :=
      exists_div (by omega) hrestb (hpower1 (Nat.one_le_pow _ _ (by omega)))
    by_cases hzero : fraction.isZero
    · exact ⟨integer, by simp [hscale, hinteger, hrest, hpower', hfraction, hzero]⟩
    · -- with a fraction, the sum is rounded to the places
      obtain ⟨one, ten, places, hone, hten, hplaces, hplaces1, hplacesb⟩ := exists_places d
      obtain ⟨sum, hsum, hsumb⟩ := exists_add (by omega) hintegerb hfractionb
      obtain ⟨product, hproduct, hproductb, -⟩ := exists_mul (by omega) hsumb hplacesb
      obtain ⟨scaled, hscaled, hscaledb⟩ := exists_round (by omega) hproductb
      obtain ⟨x, hx, -⟩ := exists_div (by omega) hscaledb hplaces1
      refine ⟨x, ?_⟩
      simp [hscale, hinteger, hrest, hpower', hfraction, hzero, hone, hten, hplaces, hsum,
        hproduct, hscaled, hx]

/-- **Binary64 forms.** Every decimal has one. -/
theorem exists_toDouble : ∃ x, d.toDouble = some x := by
  obtain ⟨x, hx⟩ := d.exists_magnitudeDouble
  exact ⟨x.withSign d.negative, by rw [toDouble, hx, Option.map_some]⟩

end Decimal

end WebTrip

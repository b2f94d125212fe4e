import WebTrip.Proofs.Number.Spelling
import WebTrip.Proofs.Schema.Integers

/-!
# Spelled numbers under an integer schema

An integer schema that reads numbers from strings looks at the decimal that a string is read as, and
not at its digits. A string whose number is not whole may have been rounded to a whole decimal by
then, and is accepted. This happens to numbers that are not decimals, and to no others: the limits
of a decimal decide whether a fraction is noticed.

## Main definitions

- `Schema.aboveOne`, `Schema.belowMaximum`: numbers with a fraction that is not noticed
- `Schema.minusFive`: a whole number spelled with a fraction and an exponent

## Main statements

- `Schema.integer_string_cast`: what an integer schema makes of a spelled number
- `Schema.integer_accepts_fraction`: a number with a fraction that is accepted
-/

namespace WebTrip

open WebTrip.Json WebTrip.Text

/-! ## §1 Texts without blanks -/

theorem Text.trim_of_not_blank {cs : List Char} (h : ∀ c ∈ cs, isBlank c = false) :
    trim (String.ofList cs) = String.ofList cs := by
  have hself : ∀ cs : List Char, (∀ c ∈ cs, isBlank c = false) → cs.dropWhile isBlank = cs := by
    intro cs h
    cases cs with
    | nil => rfl
    | cons c rest => exact List.dropWhile_cons_of_neg (by simp [h c List.mem_cons_self])
  have hreverse : ∀ c ∈ cs.reverse, isBlank c = false := fun c hc => h c (List.mem_reverse.mp hc)
  rw [trim, String.toList_ofList, trimmed, hself cs h, dropTrailingBlanks, hself _ hreverse,
    List.reverse_reverse]

/-- No character of a spelling is blank. -/
theorem Spelling.trim_text (l : Spelling) : trim l.text = l.text := by
  have hdigit : ∀ d : Fin 10, isBlank (digitChar d) = false := by decide
  refine trim_of_not_blank fun c hc => ?_
  rcases List.mem_append.mp hc with hbase | hexponent
  · rcases l.base.mem_chars hbase with hpunctuation | ⟨d, rfl⟩
    · simp only [PlainSpelling.isPunctuation, Bool.or_eq_true, beq_iff_eq] at hpunctuation
      rcases hpunctuation with (rfl | rfl) | rfl <;> rfl
    · exact hdigit d
  · cases he : l.exponent with
    | none => simp [he] at hexponent
    | some e =>
      rw [he] at hexponent
      rcases List.mem_cons.mp hexponent with rfl | hrest
      · unfold Exponent.mark
        cases e.capital <;> rfl
      · rcases List.mem_append.mp hrest with hsign | hdigits
        · cases hs : e.sign <;> simp_all [Sign.chars, isBlank]
        · obtain ⟨d, -, rfl⟩ := List.mem_map.mp hdigits
          exact hdigit d

namespace Schema

/-! ## §2 Integers from spelled numbers -/

theorem abs_le_of_fitsWord {n : ℤ} (fits : FitsWord n) : |(n : ℚ)| ≤ 2 ^ 64 := by
  have hlow : (-2 ^ 63 : ℚ) ≤ n := by exact_mod_cast fits.1
  have hhigh : (n : ℚ) < 2 ^ 64 := by exact_mod_cast fits.2
  rw [abs_le]
  constructor <;> linarith

/-- **Spelled numbers.** What an integer schema makes of a spelled number is an integer that is off
by a half at most, and without an exponent in the tenth place at the earliest. It is the number that
is spelled just if this number, and the one in front of its exponent, are decimals: a fraction is
missed only where a decimal has no room for it. Whole numbers that fit are accepted, as long as the
limits of decimals and exponents are kept. -/
theorem integer_string_cast (l : Spelling) :
    (∀ w, (Schema.number true true).validate (.string l.text) = .ok w →
      ∃ n fits, w = .number (.integer n fits) ∧ |l.value - n| ≤ 1 / 2 ∧
        (l.exponent = none → |l.value - n| ≤ 1 / (2 * 10 ^ 9)) ∧
        (l.value = n ↔ IsDecimal l.base.value ∧ IsDecimal l.value)) ∧
    ∀ (n : ℤ) (fits : FitsWord n), l.value = n → IsDecimal l.base.value → l.power.natAbs ≤ 28 →
      (Schema.number true true).validate (.string l.text) = .ok (.number (.integer n fits)) := by
  constructor
  · intro w h
    obtain ⟨-, _, hnumber, rfl⟩ := validate_integer_string_iff.mp h
    obtain ⟨d, n, fits, hread, hwhole, rfl⟩ := numberOfText?_integer_iff.mp hnumber
    rw [l.trim_text] at hread
    exact ⟨n, fits, rfl, Spelling.near_of_whole? hread hwhole (abs_le_of_fitsWord fits)⟩
  · intro n fits hvalue hbase hpower
    obtain ⟨d, hread, hwhole⟩ :=
      Spelling.exists_whole?_of_value hvalue (abs_le_of_fitsWord fits) hbase hpower
    rw [← l.trim_text] at hread
    have hnumber : numberOfText? true l.text = some (.integer n fits) :=
      numberOfText?_integer_iff.mpr ⟨d, n, fits, hread, hwhole, rfl⟩
    exact validate_integer_string_iff.mpr ⟨rfl, _, hnumber, rfl⟩

/-- `18446744073709551614.9999999995`, by half of a billionth below the greatest integer. -/
def belowMaximum : Spelling where
  base :=
    { sign := .none
      whole := [1, 8, 4, 4, 6, 7, 4, 4, 0, 7, 3, 7, 0, 9, 5, 5, 1, 6, 1, 4]
      fraction := some [9, 9, 9, 9, 9, 9, 9, 9, 9, 5]
      digits_ne := by decide }
  exponent := none

/-- `-0.50e1`, a whole number whose digits are those of a fraction. -/
def minusFive : Spelling where
  base :=
    { sign := .minus
      whole := [0]
      fraction := some [5, 0]
      digits_ne := by decide }
  exponent := some ⟨false, .none, [1], by decide⟩

theorem minusFive_value : minusFive.base.value = -1 / 2 ∧ minusFive.value = (-5 : ℤ) := by
  have hmagnitude : minusFive.base.magnitude = 1 / 2 := by
    have hnumeral : numeral 0 (minusFive.base.whole ++ minusFive.base.places) = 50 := by rfl
    have hlength : minusFive.base.places.length = 2 := by rfl
    rw [PlainSpelling.magnitude, hnumeral, hlength]
    norm_num
  have hpower : minusFive.power = 1 := by rfl
  have hminus : minusFive.base.sign.isMinus = true := by rfl
  constructor
  · rw [PlainSpelling.value, hmagnitude, hminus]
    norm_num [withSign]
  · rw [Spelling.value_eq, hmagnitude, hminus, hpower]
    norm_num [withSign]

theorem integer_string_cast_belowMaximum :
    ((Schema.number true true).validate (.string belowMaximum.text) =
        .ok (.number (.integer (2 ^ 64 - 1) (by decide))) ∧
      |belowMaximum.value - (2 ^ 64 - 1 : ℤ)| ≤ 1 / (2 * 10 ^ 9)) ∧
    (minusFive.value = (-5 : ℤ) ∧ IsDecimal minusFive.base.value ∧ minusFive.power.natAbs ≤ 28 ∧
      (Schema.number true true).validate (.string minusFive.text) =
        .ok (.number (.integer (-5) (by decide)))) := by
  constructor
  · have hcast : (Schema.number true true).validate (.string belowMaximum.text) =
        .ok (.number (.integer (2 ^ 64 - 1) (by decide))) := by rfl
    obtain ⟨n, fits, hn, -, hnear, -⟩ := (integer_string_cast belowMaximum).1 _ hcast
    cases hn
    exact ⟨hcast, hnear rfl⟩
  · obtain ⟨hbase, hvalue⟩ := minusFive_value
    have hdecimal : IsDecimal minusFive.base.value :=
      ⟨5, 1, by decide, by decide, by rw [hbase]; norm_num [abs_of_neg]⟩
    have hpower : minusFive.power.natAbs ≤ 28 := by decide
    exact ⟨hvalue, hdecimal, hpower,
      (integer_string_cast minusFive).2 (-5) (by decide) hvalue hdecimal hpower⟩

/-- `1.00000000000000000000000000001`, with one place more than a decimal has. -/
def aboveOne : Spelling where
  base :=
    { sign := .none
      whole := [1]
      fraction := some (List.replicate 28 0 ++ [1])
      digits_ne := by decide }
  exponent := none

/-- A number with a fraction is accepted by an integer schema as the integer next to it. -/
theorem integer_accepts_fraction :
    (Schema.number true true).validate (.string aboveOne.text) =
        .ok (.number (.integer 1 (by decide))) ∧ aboveOne.value ≠ 1 := by
  have hmagnitude : aboveOne.base.magnitude = (10 ^ 29 + 1) / 10 ^ 29 := by
    have hnumeral : numeral 0 (aboveOne.base.whole ++ aboveOne.base.places) = 10 ^ 29 + 1 := by rfl
    have hlength : aboveOne.base.places.length = 29 := by rfl
    rw [PlainSpelling.magnitude, hnumeral, hlength]
    norm_num
  have hvalue : aboveOne.value = (10 ^ 29 + 1) / 10 ^ 29 := by
    rw [Spelling.value_eq, hmagnitude]
    exact mul_one _
  refine ⟨by rfl, ?_⟩
  rw [hvalue]
  norm_num

end Schema

end WebTrip

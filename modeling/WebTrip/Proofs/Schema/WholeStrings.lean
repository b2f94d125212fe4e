import WebTrip.Proofs.Schema.NumericStrings
import WebTrip.Proofs.Text.Trimming

/-!
# Whole numbers in strings

A string that spells an integer is read without loss wherever the integer fits 64 bits: blanks
around it, a sign, zeros in front of its digits and zeros behind a point change nothing, however
many there are. An integer that does not fit is refused by an integer schema, whether there is still
room for its digits in a decimal or not.

## Main definitions

- `WholeSpelling`: a text for an integer, with its padding

## Main statements

- `WholeSpelling.read?_cases`: such a text is read as its integer, or the integer is too large
- `Schema.whole_string_cast`: what number schemas make of such a text
-/

namespace WebTrip

open WebTrip.Json WebTrip.Text

/-! ## §1 Spelled integers -/

-- what makes a numeral a digit, under one name for the spellings below
local instance instNeZeroTen : NeZero 10 := ⟨by decide⟩

/-- An integer as a text: an optional sign and digits, zeros among them at any place, with an
optional point that only zeros stand behind, between blanks. -/
structure WholeSpelling where
  before : List Char
  sign : Sign
  digits : List (Fin 10)
  /-- How many zeros stand behind the point, if there is one. -/
  zeros : Option ℕ
  after : List Char
  digits_ne : digits ≠ []
  before_blank : ∀ c ∈ before, isBlank c = true
  after_blank : ∀ c ∈ after, isBlank c = true

namespace WholeSpelling

variable (s : WholeSpelling)

/-- The text between the blanks. -/
def plain : PlainSpelling where
  sign := s.sign
  whole := s.digits
  fraction := s.zeros.map fun k => List.replicate k 0
  digits_ne := by simp [s.digits_ne]

/-- The text with its blanks. -/
def text : String :=
  String.ofList s.before ++ String.ofList s.plain.chars ++ String.ofList s.after

/-- The integer that is spelled. -/
def value : ℤ :=
  if s.sign.isMinus then -(numeral 0 s.digits : ℤ) else numeral 0 s.digits

theorem plain_magnitude : s.plain.magnitude = numeral 0 s.digits := by
  cases hzeros : s.zeros with
  | none => simp [PlainSpelling.magnitude, PlainSpelling.places, plain, hzeros]
  | some k =>
    -- the zeros are divided off again
    have hplaces : s.plain.places = List.replicate k 0 := by
      simp [PlainSpelling.places, plain, hzeros]
    have hpow : (10 ^ k : ℚ) ≠ 0 := by positivity
    rw [PlainSpelling.magnitude, hplaces, numeral_append, numeral_replicate_zero,
      List.length_replicate]
    show ((numeral 0 s.digits * 10 ^ k : ℕ) : ℚ) / 10 ^ k = _
    push_cast
    exact mul_div_cancel_right₀ _ hpow

theorem cast_value : (s.value : ℚ) = withSign s.sign.isMinus s.plain.magnitude := by
  rw [plain_magnitude, value, withSign]
  split_ifs <;> simp

/-- Of the text with its blanks, what stands between them is read. -/
theorem read?_trim_text :
    Decimal.read? (trim s.text) = (Decimal.readPlain s.plain.chars).toOption := by
  let l : Spelling := ⟨s.plain, none⟩
  have hl : String.ofList s.plain.chars = l.text := by simp [l, Spelling.text]
  have hpower : l.power = 0 := rfl
  rw [text, trim_padded s.before_blank s.after_blank, hl, l.trim_text, Spelling.read?_text, hpower]
  cases Decimal.readPlain s.plain.chars with
  | ok d => exact d.shift?_zero
  | error e => rfl

/-- **Spelled integers.** The text is read as a decimal that is the integer, unless the integer has
more than 96 bits: then it is not read at all. -/
theorem read?_cases :
    (∃ d, Decimal.read? (trim s.text) = some d ∧ d.whole? = some s.value) ∨
      Decimal.read? (trim s.text) = none ∧ 2 ^ 96 ≤ |s.value| := by
  have hreads := s.plain.reads
  rw [plain_magnitude] at hreads
  rw [read?_trim_text]
  cases hplain : Decimal.readPlain s.plain.chars with
  | ok d =>
    rw [hplain] at hreads
    cases hreads with
    | ok hsmall hnegative hrounds =>
      left
      -- an integer below the limit is a decimal, and so it is read exactly
      have hlimit : numeral 0 s.digits < 2 ^ 96 := by
        have : (numeral 0 s.digits : ℚ) < 2 ^ 96 := by
          rw [Decimal.tooLarge] at hsmall
          linarith
        exact_mod_cast this
      have hdecimal : IsDecimal (numeral 0 s.digits : ℚ) :=
        ⟨numeral 0 s.digits, 0, hlimit, by omega, by simp⟩
      refine ⟨d, rfl, Decimal.whole?_eq_some_iff.mpr ?_⟩
      rw [Decimal.value, hnegative, hrounds.exact hdecimal, cast_value, plain_magnitude]
      rfl
  | error e =>
    rw [hplain] at hreads
    cases hreads with
    | error hlarge =>
      right
      refine ⟨rfl, ?_⟩
      -- between the limit and the integer below it there is no other one
      have hlimit : 2 ^ 96 ≤ numeral 0 s.digits := by
        by_contra hless
        have : (numeral 0 s.digits : ℚ) + 1 ≤ 2 ^ 96 := by exact_mod_cast not_le.mp hless
        rw [Decimal.tooLarge] at hlarge
        linarith
      have habs : |s.value| = numeral 0 s.digits := by
        rw [value]
        split_ifs <;> simp
      rw [habs]
      exact_mod_cast hlimit

end WholeSpelling

namespace Schema

/-! ## §2 Number schemas -/

theorem numberOfText?_whole_of_fits (s : WholeSpelling) (fits : FitsWord s.value) (integer : Bool) :
    numberOfText? integer s.text = some (.integer s.value fits) := by
  rcases s.read?_cases with ⟨d, hread, hwhole⟩ | ⟨-, hlarge⟩
  · have hnumber : Number.ofInt? s.value = some (.integer s.value fits) :=
      Number.ofInt?_eq_some_iff.mpr ⟨fits, rfl⟩
    rw [numberOfText?, hread, Option.bind_some, Number.ofDecimal?, hwhole, Option.bind_some,
      hnumber]
  · -- an integer of more than 96 bits does not fit 64
    have hbound : |s.value| ≤ 2 ^ 64 := abs_le.mpr ⟨by linarith [fits.1], fits.2.le⟩
    linarith

theorem numberOfText?_whole_of_not_fits (s : WholeSpelling) (hfits : ¬ FitsWord s.value) :
    numberOfText? true s.text = none := by
  rw [numberOfText?]
  rcases s.read?_cases with ⟨d, hread, hwhole⟩ | ⟨hread, -⟩
  · rw [hread, Option.bind_some, Number.ofDecimal?_integer, hwhole, Option.bind_some,
      Number.ofInt?, dif_neg hfits]
  · rw [hread, Option.bind_none]

/-- **Whole numbers in strings.** An integer that fits 64 bits is cast from any text that spells it
by a number schema and by an integer schema alike, with the same result as for the integer itself.
A text for any other integer is refused by an integer schema, whatever its length. -/
theorem whole_string_cast (s : WholeSpelling) :
    (∀ (integer : Bool) (fits : FitsWord s.value),
      (Schema.number true integer).validate (.string s.text) =
          .ok (.number (.integer s.value fits)) ∧
        (Schema.number true integer).validate (.string s.text) =
          (Schema.number true integer).validate (.number (.integer s.value fits))) ∧
    (¬ FitsWord s.value →
      (Schema.number true true).validate (.string s.text) =
        .error (mismatch (.number true true) [] ("string " ++ quoted s.text))) := by
  constructor
  · intro integer fits
    have hcast : (Schema.number true integer).validate (.string s.text) =
        .ok (.number (.integer s.value fits)) :=
      validate_numeric_string (numberOfText?_whole_of_fits s fits integer)
    have hself : (Schema.number true integer).validate (.number (.integer s.value fits)) =
        .ok (.number (.integer s.value fits)) := rfl
    exact ⟨hcast, hcast.trans hself.symm⟩
  · intro hfits
    simp [validate_number_string, numberOfText?_whole_of_not_fits s hfits]

/-- The least integer of 64 signed bits, behind an ideographic space, with zeros on both sides. -/
def leastSpelled : WholeSpelling where
  before := ['\u3000']
  sign := .minus
  digits := [0, 0, 9, 2, 2, 3, 3, 7, 2, 0, 3, 6, 8, 5, 4, 7, 7, 5, 8, 0, 8]
  zeros := some 40
  after := ['\n']
  digits_ne := List.cons_ne_nil _ _
  before_blank := List.forall_mem_singleton.mpr rfl
  after_blank := List.forall_mem_singleton.mpr rfl

/-- The first integer beyond 64 unsigned bits. -/
def beyondSpelled : WholeSpelling where
  before := []
  sign := .plus
  digits := [1, 8, 4, 4, 6, 7, 4, 4, 0, 7, 3, 7, 0, 9, 5, 5, 1, 6, 1, 6]
  zeros := none
  after := []
  digits_ne := List.cons_ne_nil _ _
  before_blank := nofun
  after_blank := nofun

theorem whole_string_cast_limits :
    (Schema.number true true).validate (.string leastSpelled.text) =
        .ok (.number (.integer (-2 ^ 63) (by decide))) ∧
      (Schema.number true true).validate (.string beyondSpelled.text) =
        .error (mismatch (.number true true) [] ("string " ++ quoted "+18446744073709551616")) := by
  have hleast : leastSpelled.value = -2 ^ 63 := by decide
  have hbeyond : ¬ FitsWord beyondSpelled.value := by decide
  have hfits : FitsWord leastSpelled.value := by decide
  obtain ⟨hcast, -⟩ := (whole_string_cast leastSpelled).1 true hfits
  constructor
  · rw [hcast]
    simp only [hleast]
  · exact (whole_string_cast beyondSpelled).2 hbeyond

end Schema

end WebTrip

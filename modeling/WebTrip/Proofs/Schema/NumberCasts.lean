import WebTrip.Proofs.Number.Rounding
import WebTrip.Proofs.Schema.Integers

/-!
# The values of cast numbers

A number that is accepted keeps its value. Under an integer schema a float may become an integer,
and there three steps of binary64 arithmetic have to be exact: the fraction is compared with zero,
the float is compared with the ends of the 64 signed bits, and it is converted. The greatest integer
of 64 signed bits is no float. The float next to it is `2 ^ 63`, one more, so that the comparison
with it has to be a strict one.

## Main definitions

- `Double.fraction`, `Double.isInInt64`, `Double.toInt64`: the three steps
- `Schema.castInSteps?`: the cast of a float that is made of them
- `Json.Number.value`: the rational number that a JSON number stands for

## Main statements

- `Double.exists_fraction`: the fraction is zero just if the number is whole
- `Double.isInInt64_iff`: the rounded ends enclose the same numbers as the exact ones
- `Double.toInt64_of_isInInt64`: between them the conversion does not saturate
- `Schema.castInSteps?_eq`: the steps make up the cast of a float
- `Schema.number_cast_value`: casting a number does not change its value
-/

namespace WebTrip

open WebTrip.Json

namespace Double

variable (x y : Double)

/-! ## §1 Comparison -/

/-- The numerator of the value, with the number's sign. -/
def numerator : ℤ :=
  if x.negative then -(x.ratio.1 : ℤ) else x.ratio.1

/-- Whether a number is at most another one. The two zeros are equal here. -/
def le : Bool :=
  x.numerator * y.ratio.2 ≤ y.numerator * x.ratio.2

/-- Whether a number is less than another one. -/
def lt : Bool :=
  !y.le x

theorem value_eq_numerator : x.value = (x.numerator : ℚ) / x.ratio.2 := by
  rw [value_eq_ratio, numerator]
  split_ifs
  · push_cast
    ring
  · rw [one_mul, Int.cast_natCast]

variable {x y}

/-- Numbers are compared as their values are. -/
theorem le_iff : x.le y = true ↔ x.value ≤ y.value := by
  have hx : (0 : ℚ) < x.ratio.2 := by exact_mod_cast x.ratio_snd_pos
  have hy : (0 : ℚ) < y.ratio.2 := by exact_mod_cast y.ratio_snd_pos
  rw [value_eq_numerator, value_eq_numerator, div_le_div_iff₀ hx hy, le, decide_eq_true_eq]
  exact_mod_cast Iff.rfl

theorem lt_iff : x.lt y = true ↔ x.value < y.value := by
  rw [lt, Bool.not_eq_true', ← Bool.not_eq_true, le_iff, not_le]

/-! ## §2 Fractions -/

/-- The number less its integer part. The difference is rounded like every other one. -/
def fraction (x : Double) : Option Double :=
  let (n, d) := x.ratio
  ofRatio x.negative (n % d) d

/-- The denominator of a number is a power of two that the format has room for. -/
theorem zpow_le_one_div_ratio (x : Double) : (2 : ℚ) ^ (-1074 : ℤ) ≤ 1 / x.ratio.2 := by
  have hexponent : -1074 ≤ x.exponent := x.canonical.2.1
  unfold ratio scaleByTwo
  split_ifs
  · rw [Nat.cast_one, div_one]
    exact zpow_le_one_of_nonpos₀ (by norm_num) (by norm_num)
  · obtain ⟨k, hk⟩ := Int.eq_ofNat_of_zero_le (by omega : 0 ≤ -x.exponent)
    rw [hk, Int.toNat_natCast, one_mul, Nat.cast_pow, Nat.cast_ofNat, one_div, ← zpow_natCast,
      ← zpow_neg]
    exact zpow_le_zpow_right₀ (by norm_num) (by omega)

/-- What the integer part leaves over is less than one, and nothing or at least the least positive
number of the format. -/
theorem rest_bounds (x : Double) :
    ((x.ratio.1 % x.ratio.2 : ℕ) : ℚ) / x.ratio.2 < 1 ∧
      (x.ratio.1 % x.ratio.2 ≠ 0 →
        (2 : ℚ) ^ (-1074 : ℤ) ≤ ((x.ratio.1 % x.ratio.2 : ℕ) : ℚ) / x.ratio.2) := by
  have hpos : (0 : ℚ) < x.ratio.2 := by exact_mod_cast x.ratio_snd_pos
  constructor
  · rw [div_lt_one hpos]
    exact_mod_cast Nat.mod_lt _ x.ratio_snd_pos
  · intro hrest
    have hone : (1 : ℚ) ≤ (x.ratio.1 % x.ratio.2 : ℕ) := by
      exact_mod_cast Nat.pos_of_ne_zero hrest
    refine x.zpow_le_one_div_ratio.trans ?_
    gcongr

/-- **Fractions.** There always is one, and however small a fraction is, it is not rounded to
zero. -/
theorem exists_fraction (x : Double) :
    ∃ f, x.fraction = some f ∧ (f.isZero = true ↔ x.isWhole = true) := by
  have hwhole : x.isWhole = true ↔ x.ratio.1 % x.ratio.2 = 0 := by
    rw [isWhole]
    exact beq_iff_eq
  obtain ⟨hlt, hleast⟩ := x.rest_bounds
  rw [hwhole]
  by_cases hrest : x.ratio.1 % x.ratio.2 = 0
  · have hzero : x.fraction = some (zero x.negative) := by
      show ofRatio x.negative (x.ratio.1 % x.ratio.2) x.ratio.2 = _
      rw [hrest]
      rfl
    exact ⟨zero x.negative, hzero, iff_of_true rfl hrest⟩
  · have hone : (1 : ℚ) < 2 ^ (1023 : ℤ) := one_lt_zpow₀ one_lt_two (by norm_num)
    have hsmall := hlt.trans hone
    obtain ⟨f, hf, -, hpowers⟩ := exists_ofRatio x.negative x.ratio_snd_pos hsmall
    -- what is at least the least positive number is rounded to something that is so too
    have hmagnitude := (hpowers (-1074) le_rfl).2 (hleast hrest)
    refine ⟨f, hf, iff_of_false ?_ hrest⟩
    intro hzero
    have hsignificand : f.significand = 0 := by simpa [isZero] using hzero
    rw [magnitude, hsignificand, Nat.cast_zero, zero_mul] at hmagnitude
    have : (0 : ℚ) < 2 ^ (-1074 : ℤ) := by positivity
    linarith

/-! ## §3 Integers of 64 signed bits -/

/-- Whether a number lies between the ends of the 64 signed bits, each rounded to a float. -/
def isInInt64 (x : Double) : Bool :=
  (ofInt (-2 ^ 63)).any (fun least => least.le x) &&
    (ofInt (2 ^ 63 - 1)).any fun greatest => x.lt greatest

/-- The integer part as 64 signed bits; what is beyond an end becomes this end. -/
def toInt64 (x : Double) : ℤ :=
  max (-2 ^ 63) (min (2 ^ 63 - 1) x.truncate)

/-- The lower end is a float. -/
theorem ofInt_least : ofInt (-2 ^ 63) = some ⟨true, 2 ^ 52, 11, by decide⟩ := by rfl

/-- The upper end is rounded to the next power of two. -/
theorem ofInt_greatest : ofInt (2 ^ 63 - 1) = some ⟨false, 2 ^ 52, 11, by decide⟩ := by rfl

/-- Rounding the ends changes nothing, as the comparison with the upper one is strict. -/
theorem isInInt64_iff : x.isInInt64 = true ↔ -2 ^ 63 ≤ x.value ∧ x.value < 2 ^ 63 := by
  have hleast : value ⟨true, 2 ^ 52, 11, by decide⟩ = -2 ^ 63 := by norm_num [value]
  have hgreatest : value ⟨false, 2 ^ 52, 11, by decide⟩ = 2 ^ 63 := by norm_num [value]
  rw [isInInt64, ofInt_least, ofInt_greatest, Bool.and_eq_true, Option.any_some, Option.any_some,
    le_iff, lt_iff, hleast, hgreatest]

/-- Of an integer between the ends, the conversion is the integer part. -/
theorem toInt64_of_isInInt64 (hwhole : x.isWhole = true) (hrange : x.isInInt64 = true) :
    x.toInt64 = x.truncate := by
  obtain ⟨hlow, hhigh⟩ := isInInt64_iff.mp hrange
  rw [value_of_isWhole hwhole] at hlow hhigh
  have hlow : -2 ^ 63 ≤ x.truncate := by exact_mod_cast hlow
  have hhigh : x.truncate < 2 ^ 63 := by exact_mod_cast hhigh
  unfold toInt64
  omega

end Double

/-! ## §4 The cast of a float -/

namespace Schema

variable {x : Double}

/-- Whether a float is converted: it has no fraction and is between the ends. -/
def isConverted (x : Double) : Bool :=
  x.fraction.any Double.isZero && x.isInInt64

/-- The cast of a float, with each step as binary64 arithmetic does it. -/
def castInSteps? (x : Double) : Option Number :=
  if isConverted x then Number.ofInt? x.toInt64
  else if x.fraction.any Double.isZero then some (.float x)
  else none

theorem any_isZero_fraction (x : Double) : x.fraction.any Double.isZero = x.isWhole := by
  obtain ⟨f, hf, hzero⟩ := x.exists_fraction
  rw [hf, Option.any_some, Bool.eq_iff_iff]
  exact hzero

/-- A float is converted if its value is an integer of 64 signed bits. -/
theorem isConverted_iff :
    isConverted x = true ↔ ∃ k : ℤ, x.value = k ∧ -2 ^ 63 ≤ k ∧ k < 2 ^ 63 := by
  rw [isConverted, any_isZero_fraction, Bool.and_eq_true, Double.isWhole_iff, Double.isInInt64_iff]
  constructor
  · intro h
    obtain ⟨⟨k, hk⟩, hlow, hhigh⟩ := h
    rw [hk] at hlow hhigh
    exact ⟨k, hk, by exact_mod_cast hlow, by exact_mod_cast hhigh⟩
  · intro h
    obtain ⟨k, hk, hlow, hhigh⟩ := h
    rw [hk]
    exact ⟨⟨k, rfl⟩, by exact_mod_cast hlow, by exact_mod_cast hhigh⟩

/-- The conversion neither saturates nor cuts anything off. -/
theorem toInt64_of_isConverted (h : isConverted x = true) :
    x.toInt64 = x.truncate ∧ (x.truncate : ℚ) = x.value := by
  rw [isConverted, any_isZero_fraction, Bool.and_eq_true] at h
  exact ⟨Double.toInt64_of_isInInt64 h.1 h.2, (Double.value_of_isWhole h.1).symm⟩

/-- **Casts in steps.** They are the casts of the exact values. -/
theorem castInSteps?_eq (x : Double) : castInSteps? x = castFloat? x := by
  unfold castInSteps? castFloat?
  rw [any_isZero_fraction]
  by_cases hwhole : x.isWhole = true
  · have hvalue := Double.value_of_isWhole hwhole
    have hrange : isConverted x = true ↔ -2 ^ 63 ≤ x.truncate ∧ x.truncate < 2 ^ 63 := by
      rw [isConverted, any_isZero_fraction, hwhole, Bool.true_and, Double.isInInt64_iff, hvalue]
      exact_mod_cast Iff.rfl
    rw [if_pos hwhole, if_pos hwhole]
    by_cases hconverted : isConverted x = true
    · rw [if_pos hconverted, if_pos (hrange.mp hconverted), (toInt64_of_isConverted hconverted).1]
    · rw [if_neg hconverted, if_neg fun h => hconverted (hrange.mpr h)]
  · have hconverted : ¬ isConverted x = true := by
      rw [isConverted, any_isZero_fraction, Bool.and_eq_true]
      exact fun h => hwhole h.1
    rw [if_neg hconverted, if_neg hwhole, if_neg hwhole]

end Schema

/-! ## §5 Values -/

/-- The rational number that a JSON number stands for. -/
def Json.Number.value : Number → ℚ
  | .integer n _ => n
  | .float x => x.value

namespace Schema

variable {x : Double} {numeric integer : Bool}

theorem value_of_castFloat? {m : Number} (h : castFloat? x = some m) : m.value = x.value := by
  rcases castFloat?_eq_some_iff.mp h with ⟨k, fits, hk, -, rfl⟩ | ⟨-, rfl⟩
  · exact hk.symm
  · rfl

/-- A float has no cast if its value is no integer. -/
theorem castFloat?_eq_none_iff : castFloat? x = none ↔ ¬ ∃ k : ℤ, x.value = k := by
  constructor
  · intro hnone hinteger
    obtain ⟨k, hk⟩ := hinteger
    by_cases hrange : -2 ^ 63 ≤ k ∧ k < 2 ^ 63
    · have fits : FitsWord k := ⟨hrange.1, by omega⟩
      have hcast := castFloat?_eq_some_iff.mpr (.inl ⟨k, fits, hk, hrange.2, rfl⟩)
      simp [hnone] at hcast
    · have hcast := castFloat?_eq_some_iff.mpr (.inr ⟨⟨k, hk, hrange⟩, rfl⟩)
      simp [hnone] at hcast
  · intro hnone
    rw [Option.eq_none_iff_forall_ne_some]
    intro m hm
    rcases castFloat?_eq_some_iff.mp hm with ⟨k, -, hk, -⟩ | ⟨⟨k, hk, -⟩, -⟩
    · exact hnone ⟨k, hk⟩
    · exact hnone ⟨k, hk⟩

/-- A number is cast to a number of the same value. -/
theorem value_of_validate {n : Number} {w : Value}
    (h : (Schema.number numeric integer).validate (.number n) = .ok w) :
    ∃ m, w = .number m ∧ m.value = n.value := by
  cases n with
  | integer k fits =>
    cases h
    exact ⟨_, rfl, rfl⟩
  | float x =>
    cases integer with
    | false =>
      cases h
      exact ⟨_, rfl, rfl⟩
    | true =>
      obtain ⟨m, hm, rfl⟩ := validate_integer_float_iff.mp h
      exact ⟨m, rfl, value_of_castFloat? hm⟩

/-- A number is rejected if it has to be an integer and is none. -/
theorem validate_number_error_iff {n : Number} :
    (∃ e, (Schema.number numeric integer).validate (.number n) = .error e) ↔
      integer = true ∧ ¬ ∃ k : ℤ, n.value = k := by
  cases n with
  | integer k fits =>
    have haccepted : (Schema.number numeric integer).validate (.number (.integer k fits)) =
        .ok (.number (.integer k fits)) := rfl
    rw [haccepted]
    simp [Number.value]
  | float x =>
    cases integer with
    | false =>
      have haccepted : (Schema.number numeric false).validate (.number (.float x)) =
          .ok (.number (.float x)) := rfl
      rw [haccepted]
      simp
    | true =>
      have hnone : (∃ e, (Schema.number numeric true).validate (.number (.float x)) = .error e) ↔
          castFloat? x = none := by
        simp only [validate_number_float, if_true]
        cases castFloat? x <;> simp
      rw [hnone, castFloat?_eq_none_iff]
      simp [Number.value]

/-- **Casting keeps values.** A number that is accepted is cast to a number of the same value, and
only integer schemas reject a number, namely if its value is no integer. A float is converted only
if its value is an integer of 64 signed bits, and then to this integer: the conversion neither
saturates nor cuts off a fraction. -/
theorem number_cast_value (numeric integer : Bool) (n : Number) :
    (∀ w, (Schema.number numeric integer).validate (.number n) = .ok w →
      ∃ m, w = .number m ∧ m.value = n.value) ∧
    ((∃ e, (Schema.number numeric integer).validate (.number n) = .error e) ↔
      integer = true ∧ ¬ ∃ k : ℤ, n.value = k) ∧
    ∀ x : Double, castFloat? x = castInSteps? x ∧
      (isConverted x = true ↔ ∃ k : ℤ, x.value = k ∧ -2 ^ 63 ≤ k ∧ k < 2 ^ 63) ∧
      (isConverted x = true → x.toInt64 = x.truncate ∧ (x.truncate : ℚ) = x.value) := by
  refine ⟨?_, validate_number_error_iff, ?_⟩
  · intro w h
    exact value_of_validate h
  · intro x
    exact ⟨(castInSteps?_eq x).symm, isConverted_iff, toInt64_of_isConverted⟩

/-- The least integer of 64 signed bits as a float. -/
def leastInt64 : Double :=
  ⟨true, 2 ^ 52, 11, by decide⟩

theorem number_cast_value_leastInt64 :
    (Schema.number false true).validate (.number (.float leastInt64)) =
        .ok (.number (.integer (-2 ^ 63) (by decide))) ∧
      (-2 ^ 63 : ℤ) = leastInt64.value ∧
      isConverted leastInt64 = true ∧ leastInt64.toInt64 = leastInt64.truncate := by
  have hcast : (Schema.number false true).validate (.number (.float leastInt64)) =
      .ok (.number (.integer (-2 ^ 63) (by decide))) := by rfl
  have hconverted : isConverted leastInt64 = true := by decide
  obtain ⟨hvalue, -, hfloats⟩ := number_cast_value false true (.float leastInt64)
  obtain ⟨m, hm, hsame⟩ := hvalue _ hcast
  cases hm
  exact ⟨hcast, hsame, hconverted, ((hfloats leastInt64).2.2 hconverted).1⟩

/-- The first float above the integers of 64 signed bits is kept, and the one below it converted. -/
example : castInSteps? ⟨false, 2 ^ 52, 11, by decide⟩ = some (.float ⟨false, 2 ^ 52, 11, by decide⟩)
    ∧ castInSteps? ⟨false, 2 ^ 53 - 1, 10, by decide⟩ =
      some (.integer (2 ^ 63 - 1024) (by decide)) := by
  decide

end Schema

end WebTrip

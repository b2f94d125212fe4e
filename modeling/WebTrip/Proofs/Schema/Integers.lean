import WebTrip.Proofs.Number.Value
import WebTrip.Proofs.Schema.Traversal

/-!
# What an integer schema accepts

A value denotes an integer if it is one, if it is a whole float, or, where the schema reads numbers
from strings, if it spells a whole decimal. An integer schema accepts exactly the values that denote
an integer. The cast is that integer if there is room for it; a float that has no 64 signed bits to
go into stays the float it was, while a string in the same position is rejected.

## Main definitions

- `Schema.Denotes`: the integer that a value stands for
- `Schema.IsLargeWhole`: a whole float beyond the integers of 64 signed bits

## Main statements

- `Schema.castFloat?_eq_some_iff`, `Schema.numberOfText?_integer_iff`: the two casts to integers
- `Schema.integer_cast_iff`: what an integer schema accepts, and what it makes of it
- `Schema.integer_keeps_float`: a float that comes back as a float
-/

namespace WebTrip

open WebTrip.Json WebTrip.Text

/-! ## §1 Integers as JSON numbers -/

theorem Json.Number.ofInt?_eq_some_iff {k : ℤ} {n : Number} :
    Number.ofInt? k = some n ↔ ∃ fits, n = .integer k fits := by
  unfold Number.ofInt?
  by_cases hfits : FitsWord k
  · rw [dif_pos hfits]
    exact ⟨fun h => ⟨hfits, (Option.some.inj h).symm⟩, fun ⟨_, h⟩ => h ▸ rfl⟩
  · rw [dif_neg hfits]
    exact ⟨nofun, fun ⟨fits, _⟩ => absurd fits hfits⟩

/-- Where only integers are asked for, a decimal has to be whole and to fit. -/
theorem Json.Number.ofDecimal?_integer (d : Decimal) :
    Number.ofDecimal? true d = d.whole?.bind Number.ofInt? := by
  unfold Number.ofDecimal?
  cases d.whole?.bind Number.ofInt? <;> rfl

namespace Schema

/-- The two casts of a string to an integer: it spells a whole decimal, and that fits. -/
theorem numberOfText?_integer_iff {text : String} {n : Number} :
    numberOfText? true text = some n ↔
      ∃ d k fits, Decimal.read? (trim text) = some d ∧ d.whole? = some k ∧
        n = .integer k fits := by
  unfold numberOfText?
  simp only [Option.bind_eq_some_iff, Number.ofDecimal?_integer, Number.ofInt?_eq_some_iff]
  constructor
  · rintro ⟨d, hd, k, hk, fits, rfl⟩
    exact ⟨d, k, fits, hd, hk, rfl⟩
  · rintro ⟨d, k, fits, hd, hk, rfl⟩
    exact ⟨d, hd, k, hk, fits, rfl⟩

/-! ## §2 Floats -/

/-- A whole float beyond the integers of 64 signed bits. -/
def IsLargeWhole (x : Double) : Prop :=
  ∃ n : ℤ, x.value = n ∧ ¬ (-2 ^ 63 ≤ n ∧ n < 2 ^ 63)

/-- A float is cast to its value if that is an integer of 64 signed bits; beyond them a whole float
is its own cast. -/
theorem castFloat?_eq_some_iff {x : Double} {n : Number} :
    castFloat? x = some n ↔
      (∃ k fits, x.value = (k : ℤ) ∧ k < 2 ^ 63 ∧ n = .integer k fits) ∨
        IsLargeWhole x ∧ n = .float x := by
  unfold castFloat?
  by_cases hwhole : x.isWhole = true
  · rw [if_pos hwhole]
    -- from here on the value is an integer, and the integer part is that integer
    have hvalue : x.value = x.truncate := Double.value_of_isWhole hwhole
    have honly : ∀ k : ℤ, x.value = k → k = x.truncate := fun k hk =>
      (Double.truncate_of_value_eq hk).symm
    by_cases hrange : -2 ^ 63 ≤ x.truncate ∧ x.truncate < 2 ^ 63
    · have hnotLarge : ¬ IsLargeWhole x := fun ⟨k, hk, hlarge⟩ => hlarge (honly k hk ▸ hrange)
      simp only [if_pos hrange, Number.ofInt?_eq_some_iff]
      constructor
      · rintro ⟨fits, rfl⟩
        exact .inl ⟨x.truncate, fits, hvalue, hrange.2, rfl⟩
      · rintro (⟨k, fits, hk, -, rfl⟩ | ⟨hlarge, -⟩)
        · obtain rfl := honly k hk
          exact ⟨fits, rfl⟩
        · exact absurd hlarge hnotLarge
    · simp only [if_neg hrange, Option.some.injEq]
      constructor
      · rintro rfl
        exact .inr ⟨⟨x.truncate, hvalue, hrange⟩, rfl⟩
      · rintro (⟨k, fits, hk, hmax, rfl⟩ | ⟨-, rfl⟩)
        · obtain rfl := honly k hk
          exact absurd ⟨fits.1, hmax⟩ hrange
        · rfl
  · -- without a whole value neither case can hold
    have hnone : ∀ k : ℤ, x.value ≠ k := fun k hk =>
      hwhole ((Double.isWhole_iff x).mpr ⟨k, hk⟩)
    rw [if_neg hwhole]
    constructor
    · nofun
    · rintro (⟨k, -, hk, -, -⟩ | ⟨⟨k, hk, -⟩, -⟩)
      · exact absurd hk (hnone k)
      · exact absurd hk (hnone k)

/-! ## §3 Integer schemas -/

/-- The integer that a value stands for under an integer schema. Strings count only where the schema
is a numeric one. -/
inductive Denotes (numeric : Bool) : Value → ℤ → Prop where
  | integer (n : ℤ) (fits : FitsWord n) : Denotes numeric (.number (.integer n fits)) n
  /-- The exact value of a float, however large. -/
  | float {x : Double} {n : ℤ} : x.value = n → Denotes numeric (.number (.float x)) n
  /-- The value of the decimal that is read between the blanks of a string. -/
  | text {text : String} {d : Decimal} {n : ℤ} : numeric = true →
      Decimal.read? (trim text) = some d → d.whole? = some n → Denotes numeric (.string text) n

theorem validate_integer_float_iff {numeric : Bool} {x : Double} {w : Value} :
    (Schema.number numeric true).validate (.number (.float x)) = .ok w ↔
      ∃ n, castFloat? x = some n ∧ w = .number n := by
  simp only [validate_number_float, if_true]
  cases castFloat? x <;> simp [eq_comm]

theorem validate_integer_string_iff {numeric : Bool} {text : String} {w : Value} :
    (Schema.number numeric true).validate (.string text) = .ok w ↔
      numeric = true ∧ ∃ n, numberOfText? true text = some n ∧ w = .number n := by
  cases numeric with
  | false => simp [validate_number_string]
  | true =>
    simp only [validate_number_string, if_true]
    cases numberOfText? true text <;> simp [eq_comm]

/-- A string that spells a number is cast to it by a numeric schema. -/
theorem validate_numeric_string {integer : Bool} {text : String} {n : Number}
    (h : numberOfText? integer text = some n) :
    (Schema.number true integer).validate (.string text) = .ok (.number n) := by
  simp [validate_number_string, h]

/-- **Integer schemas.** A value is accepted if it denotes an integer that fits 64 bits, and is then
cast to it, except that for a float these are the 64 signed bits; or if it is a whole float beyond
them, and then it stays a float. Nothing else is accepted. -/
theorem integer_cast_iff (numeric : Bool) (v w : Value) :
    (Schema.number numeric true).validate v = .ok w ↔
      (∃ n fits, Denotes numeric v n ∧ (∀ x, v = .number (.float x) → n < 2 ^ 63) ∧
          w = .number (.integer n fits)) ∨
        ∃ x, IsLargeWhole x ∧ v = .number (.float x) ∧ w = .number (.float x) := by
  cases v with
  | number m =>
    cases m with
    | integer k fits =>
      constructor
      · intro h
        cases h
        exact .inl ⟨k, fits, .integer k fits, fun _ hx => (by cases hx), rfl⟩
      · rintro (⟨n, _, hn, -, rfl⟩ | ⟨x, -, hx, -⟩)
        · cases hn
          rfl
        · cases hx
    | float x =>
      rw [validate_integer_float_iff]
      constructor
      · rintro ⟨m, hm, rfl⟩
        rcases castFloat?_eq_some_iff.mp hm with ⟨k, fits, hk, hmax, rfl⟩ | ⟨hlarge, rfl⟩
        · exact .inl ⟨k, fits, .float hk, fun _ _ => hmax, rfl⟩
        · exact .inr ⟨x, hlarge, rfl, rfl⟩
      · rintro (⟨n, fits, hn, hmax, rfl⟩ | ⟨y, hlarge, hy, rfl⟩)
        · cases hn with
          | float hvalue =>
            exact ⟨_, castFloat?_eq_some_iff.mpr (.inl ⟨n, fits, hvalue, hmax x rfl, rfl⟩), rfl⟩
        · cases hy
          exact ⟨_, castFloat?_eq_some_iff.mpr (.inr ⟨hlarge, rfl⟩), rfl⟩
  | string text =>
    simp only [validate_integer_string_iff, numberOfText?_integer_iff]
    constructor
    · rintro ⟨hnumeric, n, ⟨d, k, fits, hd, hk, rfl⟩, rfl⟩
      exact .inl ⟨k, fits, .text hnumeric hd hk, fun _ hx => (by cases hx), rfl⟩
    · rintro (⟨n, fits, hn, -, rfl⟩ | ⟨x, -, hx, -⟩)
      · cases hn with
        | text hnumeric hd hk => exact ⟨hnumeric, _, ⟨_, n, fits, hd, hk, rfl⟩, rfl⟩
      · cases hx
  | _ =>
    -- nothing but numbers and strings denotes an integer
    constructor
    · intro h
      cases h
    · rintro (⟨n, fits, hn, -, -⟩ | ⟨x, -, hx, -⟩)
      · cases hn
      · cases hx

/-- Ten to the twentieth as a float. -/
def tenToTheTwentieth : Double :=
  ⟨false, 6103515625000000, 14, by decide⟩

/-- A whole float that fits no 64 bits is accepted by an integer schema, in both of its forms, and
comes back as a float. -/
theorem integer_keeps_float :
    ∃ v w, (∀ numeric, (Schema.number numeric true).validate v = .ok w) ∧
      ¬ ∃ n fits, w = .number (.integer n fits) := by
  refine ⟨.number (.float tenToTheTwentieth), .number (.float tenToTheTwentieth), ?_, ?_⟩
  · intro numeric
    cases numeric <;> rfl
  · rintro ⟨n, fits, h⟩
    cases h

end Schema

end WebTrip

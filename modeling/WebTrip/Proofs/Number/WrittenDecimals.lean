import WebTrip.Proofs.Number.Spelling

/-!
# Decimals as texts

The text of a decimal has all its digits, down to the zeros at its end, and so it is read as the
same decimal again: not only the value comes back, but its number of places too. This holds up to
both limits of a decimal, since no digit of the text is one that there is no room for.

## Main statements

- `exists_digitChars_eq`: the digits of a natural number
- `PlainSpelling.readPlain_exact`: digits that there is room for are read one by one
- `Decimal.read_written`: the text of a decimal is read as this decimal
-/

namespace WebTrip

/-! ## §1 The digits of a natural number -/

theorem exists_digitChar_eq {c : Char} (h : c.isDigit = true) : ∃ d, digitChar d = c := by
  simp only [Char.isDigit, Bool.and_eq_true, decide_eq_true_eq] at h
  obtain ⟨hlow, hhigh⟩ := h
  rw [ge_iff_le, UInt32.le_iff_toNat_le] at hlow
  rw [UInt32.le_iff_toNat_le] at hhigh
  have hlow : 48 ≤ c.toNat := hlow
  have hhigh : c.toNat ≤ 57 := hhigh
  refine ⟨⟨c.toNat - 48, by omega⟩, ?_⟩
  show Char.ofNat (48 + (c.toNat - 48)) = c
  rw [Nat.add_sub_of_le hlow, Char.ofNat_toNat]

theorem exists_digitChars {cs : List Char} (h : ∀ c ∈ cs, c.isDigit = true) :
    ∃ ds, digitChars ds = cs := by
  induction cs with
  | nil => exact ⟨[], rfl⟩
  | cons c cs ih =>
    obtain ⟨hc, hcs⟩ := List.forall_mem_cons.mp h
    obtain ⟨d, rfl⟩ := exists_digitChar_eq hc
    obtain ⟨ds, rfl⟩ := ih hcs
    exact ⟨d :: ds, rfl⟩

/-- The library's reading of digits is the number that they spell. -/
theorem ofDigitChars_digitChars (n : ℕ) (ds : List (Fin 10)) :
    Nat.ofDigitChars 10 (digitChars ds) n = numeral n ds := by
  have hdigit : ∀ d : Fin 10, (digitChar d).toNat - '0'.toNat = d := by decide
  induction ds generalizing n with
  | nil => rfl
  | cons d ds ih =>
    rw [numeral_cons, ← ih, mul_comm n, ← hdigit d]
    rfl

/-- **Digits.** A natural number is written with one digit at least, and with digits that spell
it. -/
theorem exists_digitChars_eq (n : ℕ) :
    ∃ ds, Nat.toDigits 10 n = digitChars ds ∧ ds ≠ [] ∧ numeral 0 ds = n := by
  obtain ⟨ds, hds⟩ := exists_digitChars fun c (hc : c ∈ Nat.toDigits 10 n) =>
    Nat.isDigit_of_mem_toDigits (by omega) (by omega) hc
  refine ⟨ds, hds.symm, ?_, ?_⟩
  · rintro rfl
    have := Nat.length_toDigits_pos (b := 10) (n := n)
    rw [← hds] at this
    exact absurd this (lt_irrefl 0)
  · rw [← ofDigitChars_digitChars, hds, Nat.ofDigitChars_ten_toDigits]

/-! ## §2 Reading without rounding -/

namespace Decimal

namespace Reading

variable {r : Reading} {limited : Bool} {d : Decimal}

/-- A reading that has come to the parts of a decimal is finished with it. -/
theorem finish_eq_ok (hstarted : r.started = true) (hnegative : r.negative = d.negative)
    (hmantissa : r.mantissa = d.mantissa) (hscale : r.scale = d.scale) : r.finish = .ok d := by
  have hmake : make? r.negative r.mantissa r.scale = some d :=
    make?_eq_some_iff.mpr ⟨hnegative.symm, hmantissa.symm, hscale.symm⟩
  rw [finish, if_pos hstarted, hmake]

/-- Digits behind the point that there is room for are taken like those in front of it. -/
theorem readOn_places {ds : List (Fin 10)} (hroom : r.Room limited ds.length)
    (hpoint : r.point = false) (hscale : r.scale = 0) (hlength : ds.length ≤ 28)
    (hfits : numeral r.mantissa ds < 2 ^ 96) :
    r.readOn limited ('.' :: digitChars ds) =
      ({ r with point := true }.take limited ds).finish := by
  have hbehind : Room { r with point := true } limited (ds.length + 0) := hroom.point hpoint hscale
  have hplaces : { r with point := true }.scale + ds.length ≤ 28 := by
    show r.scale + ds.length ≤ 28
    omega
  obtain ⟨-, htake⟩ := readOn_take hbehind (fun _ => hplaces) hfits []
  rw [readOn_point hroom hpoint, ← List.append_nil (digitChars ds), htake]
  rfl

end Reading

end Decimal

namespace PlainSpelling

open Decimal

/-- There is a digit in front of the point or behind it. -/
theorem not_isEmpty_digits (p : PlainSpelling) :
    (!p.whole.isEmpty || !p.places.isEmpty) = true := by
  have hne := p.digits_ne
  show (!p.whole.isEmpty || !(p.fraction.getD []).isEmpty) = true
  cases hwhole : p.whole with
  | cons d ds => rfl
  | nil => simpa [hwhole] using hne

/-- **Exact readings.** A spelling with the parts of a decimal is read as this decimal: its sign,
all its digits and all its places. -/
theorem readPlain_exact {p : PlainSpelling} {d : Decimal} (hsign : p.sign.isMinus = d.negative)
    (hmantissa : numeral 0 (p.whole ++ p.places) = d.mantissa)
    (hscale : p.places.length = d.scale) : readPlain p.chars = .ok d := by
  obtain ⟨limited, hroom, hread⟩ := p.exists_readPlain_eq
  obtain ⟨hrsign, hrmantissa, hrpoint, hrscale, hrstarted⟩ := p.take_start limited
  have hstarted := p.not_isEmpty_digits
  have hfits := d.mantissa_lt
  have hlimit := d.scale_le
  rw [numeral_append] at hmantissa
  rw [← hmantissa] at hfits
  rw [← hscale] at hlimit
  have htake := Reading.readOn_take hroom (fun hp => by cases hp) ((le_numeral _ _).trans_lt hfits)
  set r := p.start.take limited p.whole
  rw [← hrmantissa] at hmantissa hfits
  rw [← hrstarted] at hstarted
  rw [hread, unsigned]
  cases hfraction : p.fraction with
  | none =>
    have hplaces : p.places = [] := by rw [places, hfraction, Option.getD_none]
    rw [hplaces] at hmantissa hscale hstarted
    rw [(htake []).2]
    apply Reading.finish_eq_ok
    · simpa using hstarted
    · rw [hrsign, hsign]
    · exact hmantissa
    · rw [hrscale, ← hscale, List.length_nil]
  | some ds =>
    have hplaces : p.places = ds := by rw [places, hfraction, Option.getD_some]
    rw [hplaces] at hmantissa hscale hstarted hfits hlimit htake
    rw [(htake _).2, Reading.readOn_places (htake []).1 hrpoint hrscale hlimit hfits]
    apply Reading.finish_eq_ok
    · rw [Reading.take_started]
      exact hstarted
    · rw [Reading.take_negative, ← hsign, ← hrsign]
    · rw [Reading.take_mantissa]
      exact hmantissa
    · rw [Reading.take_scale_of_point rfl, ← hscale]
      show r.scale + ds.length = ds.length
      rw [hrscale, Nat.zero_add]

/-! ## §3 Written decimals -/

/-- Digits with a point so many places before their end, if there are any places. -/
def ofDigits (negative : Bool) (ds : List (Fin 10)) (places : ℕ) (h : places < ds.length) :
    PlainSpelling where
  sign := if negative then .minus else .none
  whole := ds.take (ds.length - places)
  fraction := if places = 0 then none else some (ds.drop (ds.length - places))
  digits_ne := by
    have hne : ds.take (ds.length - places) ≠ [] := by
      intro hnil
      have := congrArg List.length hnil
      rw [List.length_take, List.length_nil] at this
      omega
    simp [hne]

section OfDigits

variable {negative : Bool} {ds : List (Fin 10)} {k : ℕ} (h : k < ds.length)

theorem places_ofDigits : (ofDigits negative ds k h).places = ds.drop (ds.length - k) := by
  show (if k = 0 then none else some (ds.drop (ds.length - k))).getD [] = _
  by_cases hk : k = 0
  · rw [if_pos hk, Option.getD_none, hk, Nat.sub_zero, List.drop_length]
  · rw [if_neg hk, Option.getD_some]

theorem whole_append_places :
    (ofDigits negative ds k h).whole ++ (ofDigits negative ds k h).places = ds := by
  rw [places_ofDigits]
  exact List.take_append_drop _ ds

theorem length_places_ofDigits : (ofDigits negative ds k h).places.length = k := by
  rw [places_ofDigits, List.length_drop]
  omega

theorem chars_ofDigits : (ofDigits negative ds k h).chars =
    (if negative then ['-'] else []) ++ (digitChars ds).take (ds.length - k) ++
      if k = 0 then [] else '.' :: (digitChars ds).drop (ds.length - k) := by
  have hsign : (ofDigits negative ds k h).sign.chars = if negative then ['-'] else [] := by
    cases negative <;> rfl
  rw [chars, hsign, unsigned, List.append_assoc, digitChars, digitChars, ← List.map_take,
    ← List.map_drop]
  by_cases hk : k = 0
  · simp [ofDigits, hk]
  · simp [ofDigits, hk, digitChars]

end OfDigits

end PlainSpelling

namespace Decimal

variable (d : Decimal)

/-- What is written is a spelling with the parts of the decimal. -/
theorem exists_spelling : ∃ p : PlainSpelling, d.written = String.ofList p.chars ∧
    p.sign.isMinus = d.negative ∧ numeral 0 (p.whole ++ p.places) = d.mantissa ∧
    p.places.length = d.scale := by
  obtain ⟨ds, hdigits, hne, hnumeral⟩ := exists_digitChars_eq d.mantissa
  -- zeros in front make one digit more than there are places, and change nothing
  set all : List (Fin 10) := List.replicate (d.scale + 1 - ds.length) 0 ++ ds with hall
  have hlength : d.scale < all.length := by
    rw [hall, List.length_append, List.length_replicate]
    omega
  have hvalue : numeral 0 all = d.mantissa := by
    rw [hall, numeral_append, numeral_replicate_zero, Nat.zero_mul, hnumeral]
  have hchars : List.replicate (d.scale + 1 - (Nat.toDigits 10 d.mantissa).length) '0' ++
      Nat.toDigits 10 d.mantissa = digitChars all := by
    rw [hdigits, hall, digitChars, digitChars, List.length_map, List.map_append,
      List.map_replicate]
    rfl
  have hcount : (digitChars all).length = all.length := List.length_map _
  refine ⟨.ofDigits d.negative all d.scale hlength, ?_, ?_, ?_, ?_⟩
  · rw [PlainSpelling.chars_ofDigits, written]
    simp only [hchars, hcount]
  · show (if d.negative then Sign.minus else .none).isMinus = d.negative
    cases d.negative <;> rfl
  · rw [PlainSpelling.whole_append_places, hvalue]
  · exact PlainSpelling.length_places_ofDigits hlength

/-- **Round trip.** The text of a decimal is read as this decimal. -/
theorem read_written : read d.written = .ok d := by
  obtain ⟨p, hwritten, hsign, hmantissa, hscale⟩ := d.exists_spelling
  have hplain : readPlain d.written.toList = .ok d := by
    rw [hwritten, String.toList_ofList]
    exact PlainSpelling.readPlain_exact hsign hmantissa hscale
  rw [read, hplain]

end Decimal

end WebTrip

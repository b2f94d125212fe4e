import Mathlib.Data.List.TakeWhile
import WebTrip.Proofs.Number.Digits
import WebTrip.Proofs.Number.Shift

/-!
# Spelled decimal numbers

A spelling is a text of the usual form for decimal numbers: an optional sign, digits with an
optional point among them, and an optional exponent. It stands for a rational number, of any number
of places. What is read from it is a decimal, so that a number of too many places or digits is
rounded on the way: where its digits are read, where its exponent is applied, or at both times.

## Main definitions

- `PlainSpelling`, `Spelling`: texts without and with an exponent, and the numbers they stand for

## Main statements

- `PlainSpelling.reads`: a text without an exponent is read as its number or a rounding of it
- `Spelling.read?_text`: a text of any form is read as what its exponent makes of the digits
- `Spelling.near_of_whole?`: how far a whole number that is read is from the one that is spelled
- `Spelling.exists_whole?_of_value`: a whole number that is spelled is read
-/

namespace WebTrip

/-! ## §1 Spellings -/

/-- A sign that may be written. -/
inductive Sign where
  | none
  | plus
  | minus
  deriving DecidableEq

/-- The text of a sign. -/
def Sign.chars : Sign → List Char
  | .none => []
  | .plus => ['+']
  | .minus => ['-']

/-- Whether a sign makes a number negative. -/
def Sign.isMinus : Sign → Bool
  | .minus => true
  | _ => false

/-- A sign and digits, among which there may be a point. -/
structure PlainSpelling where
  sign : Sign
  whole : List (Fin 10)
  /-- The digits behind the point, if there is one. -/
  fraction : Option (List (Fin 10))
  /-- There is a digit on one of the two sides of the point. -/
  digits_ne : whole ++ fraction.getD [] ≠ []

namespace PlainSpelling

/-- The digits behind the point. -/
def places (p : PlainSpelling) : List (Fin 10) :=
  p.fraction.getD []

/-- The text behind the sign. -/
def unsigned (p : PlainSpelling) : List Char :=
  digitChars p.whole ++ match p.fraction with
    | none => []
    | some ds => '.' :: digitChars ds

/-- The text of a spelling. -/
def chars (p : PlainSpelling) : List Char :=
  p.sign.chars ++ p.unsigned

/-- The magnitude of the number that is spelled. -/
def magnitude (p : PlainSpelling) : ℚ :=
  numeral 0 (p.whole ++ p.places) / 10 ^ p.places.length

theorem magnitude_nonneg (p : PlainSpelling) : 0 ≤ p.magnitude := by
  unfold magnitude
  positivity

/-- The number that is spelled. -/
def value (p : PlainSpelling) : ℚ :=
  withSign p.sign.isMinus p.magnitude

end PlainSpelling

/-- A mark, a sign and digits. -/
structure Exponent where
  capital : Bool
  sign : Sign
  digits : List (Fin 10)
  digits_ne : digits ≠ []

namespace Exponent

/-- The character in front of an exponent. -/
def mark (e : Exponent) : Char :=
  if e.capital then 'E' else 'e'

theorem mark_eq (e : Exponent) : e.mark = 'e' ∨ e.mark = 'E' := by
  unfold mark
  cases e.capital
  · exact .inl rfl
  · exact .inr rfl

/-- The text of an exponent. -/
def chars (e : Exponent) : List Char :=
  e.mark :: (e.sign.chars ++ digitChars e.digits)

/-- The power of ten that is spelled. -/
def power (e : Exponent) : ℤ :=
  if e.sign.isMinus then -(numeral 0 e.digits : ℤ) else numeral 0 e.digits

end Exponent

/-- A decimal number as a text: an optional sign, digits with an optional fraction of any length,
and an optional exponent. -/
structure Spelling where
  base : PlainSpelling
  exponent : Option Exponent

namespace Spelling

/-- The text of a spelling. -/
def text (l : Spelling) : String :=
  String.ofList (l.base.chars ++ match l.exponent with
    | none => []
    | some e => e.chars)

/-- The power of ten that the digits are multiplied with. -/
def power (l : Spelling) : ℤ :=
  match l.exponent with
  | none => 0
  | some e => e.power

/-- The number that is spelled. -/
def value (l : Spelling) : ℚ :=
  l.base.value * 10 ^ l.power

end Spelling

/-! ## §2 Without an exponent -/

namespace Decimal

theorem length_le_bytes (cs : List Char) (n : ℕ) :
    n + cs.length ≤ (cs.map Char.utf8Size).foldl (· + ·) n := by
  induction cs generalizing n with
  | nil => simp
  | cons c cs ih =>
    have hstep := ih (n + c.utf8Size)
    have hpos := c.utf8Size_pos
    rw [List.map_cons, List.foldl_cons, List.length_cons]
    omega

theorem readPlain_cons {c : Char} (hminus : c ≠ '-') (hplus : c ≠ '+') (rest : List Char) :
    readPlain (c :: rest) =
      Reading.readOn (18 ≤ ((c :: rest).map Char.utf8Size).foldl (· + ·) 0)
        ⟨false, 0, 0, false, false, .narrow⟩ (c :: rest) := by
  unfold readPlain
  split <;> simp_all

end Decimal

namespace PlainSpelling

open Decimal

variable (p : PlainSpelling)

/-- What is known before the first character behind the sign. -/
def start : Reading :=
  ⟨p.sign.isMinus, 0, 0, false, false, .narrow⟩

theorem length_digits_le : p.whole.length + p.places.length ≤ p.chars.length := by
  unfold chars unsigned places
  cases p.fraction with
  | none => simp [digitChars]
  | some ds =>
    simp [digitChars]
    omega

/-- What stands behind the sign is not a sign. -/
theorem exists_unsigned_eq : ∃ c rest, p.unsigned = c :: rest ∧ c ≠ '-' ∧ c ≠ '+' := by
  have hdigit : ∀ d : Fin 10, digitChar d ≠ '-' ∧ digitChar d ≠ '+' := by decide
  have hne := p.digits_ne
  unfold unsigned
  cases hwhole : p.whole with
  | cons d ds => exact ⟨_, _, rfl, hdigit d⟩
  | nil =>
    cases hfraction : p.fraction with
    | some ds => exact ⟨_, _, rfl, by decide, by decide⟩
    | none => simp [hwhole, hfraction] at hne

/-- The sign is read off, and the rest is one reading from the start. -/
theorem exists_readPlain_eq : ∃ limited, p.start.Room limited (p.whole.length + p.places.length) ∧
    readPlain p.chars = p.start.readOn limited p.unsigned := by
  refine ⟨18 ≤ (p.chars.map Char.utf8Size).foldl (· + ·) 0, ?_, ?_⟩
  · by_cases hlong : 18 ≤ (p.chars.map Char.utf8Size).foldl (· + ·) 0
    · rw [decide_eq_true hlong]
      exact .narrow rfl (show 0 < narrowLimit by decide) fun hp => (by cases hp)
    · -- a text of few bytes has few digits
      have hlength := (Nat.zero_add _ ▸ length_le_bytes p.chars 0 : p.chars.length ≤ _)
      have hdigits := p.length_digits_le
      rw [decide_eq_false hlong]
      exact .short rfl (show 0 < 10 ^ 0 by decide) (le_refl 0) (by omega)
  · unfold chars start
    cases p.sign with
    | none =>
      obtain ⟨c, rest, hunsigned, hminus, hplus⟩ := p.exists_unsigned_eq
      rw [hunsigned]
      exact readPlain_cons hminus hplus rest
    | plus => rfl
    | minus => rfl

/-- What is known when the digits in front of the point have been read. -/
theorem take_start (limited : Bool) :
    (p.start.take limited p.whole).negative = p.sign.isMinus ∧
      (p.start.take limited p.whole).mantissa = numeral 0 p.whole ∧
      (p.start.take limited p.whole).point = false ∧
      (p.start.take limited p.whole).scale = 0 ∧
      (p.start.take limited p.whole).started = !p.whole.isEmpty :=
  ⟨Reading.take_negative _, Reading.take_mantissa _, Reading.take_point _,
    Reading.take_scale rfl _, Reading.take_started _⟩

/-- The digits behind the point only add to the number in front of it. -/
theorem whole_le_magnitude : (numeral 0 p.whole : ℚ) ≤ p.magnitude := by
  rw [magnitude, numeral_append, le_div_iff₀ (by positivity), numeral_eq (numeral 0 p.whole)]
  push_cast
  exact le_add_of_nonneg_right (by positivity)

/-- **Texts without an exponent.** However long it is, the text is read as the number that it
spells, or as a rounding of it, unless this number is too large. -/
theorem reads : Reads p.sign.isMinus p.magnitude (readPlain p.chars) := by
  obtain ⟨limited, hroom, hread⟩ := p.exists_readPlain_eq
  have hmagnitude : p.magnitude = numeral (numeral 0 p.whole) p.places / 10 ^ p.places.length := by
    rw [magnitude, numeral_append]
  rw [hread, unsigned]
  by_cases hlarge : 2 ^ 96 ≤ numeral 0 p.whole
  · rw [Reading.readOn_overflow hroom rfl hlarge]
    refine .error ?_
    have hwhole := p.whole_le_magnitude
    have : (2 ^ 96 : ℚ) ≤ numeral 0 p.whole := by exact_mod_cast hlarge
    rw [tooLarge]
    linarith
  · have htake := Reading.readOn_take hroom (fun hp => by cases hp) (not_le.mp hlarge)
    have hroom := (htake []).1
    obtain ⟨hnegative, hmantissa, hpoint, hscale, hstarted⟩ := p.take_start limited
    set r := p.start.take limited p.whole with hr
    have hne := p.digits_ne
    rw [hmagnitude, ← hmantissa, ← hnegative]
    cases hfraction : p.fraction with
    | none =>
      have hwhole : r.started = true := by
        rw [hfraction] at hne
        simpa [hstarted] using hne
      have hself := Reading.finish_reads_self hwhole hroom.mantissa_lt (by omega)
      rw [(htake []).2, places, hfraction]
      rw [hscale] at hself
      exact hself
    | some ds =>
      rw [(htake _).2, places, hfraction, Reading.readOn_point hroom hpoint]
      -- without digits in front of the point there are some behind it
      have hfresh : r.started = true ∨ ds ≠ [] ∧ r.mantissa = 0 ∧ r.scale = 0 := by
        cases hwhole : p.whole with
        | cons d whole => exact .inl (by rw [hstarted, hwhole]; rfl)
        | nil =>
          rw [hwhole, hfraction] at hne
          exact .inr ⟨hne, by rw [hmantissa, hwhole, numeral_nil], hscale⟩
      have hroom : r.Room limited ds.length := by
        simpa [places, hfraction, hr] using (htake []).1
      have hreads := Reading.readOn_fraction (r := { r with point := true })
        (hroom.point hpoint hscale) rfl hfresh
      simpa [hscale] using hreads

/-! ## §3 The characters of a spelling -/

/-- The characters that spellings are made of, digits apart. -/
def isPunctuation (c : Char) : Bool :=
  c == '+' || c == '-' || c == '.'

theorem mem_chars {c : Char} (h : c ∈ p.chars) : isPunctuation c = true ∨ ∃ d, digitChar d = c := by
  unfold chars unsigned at h
  rcases List.mem_append.mp h with hsign | hrest
  · left
    cases hs : p.sign <;> simp_all [Sign.chars, isPunctuation]
  · rcases List.mem_append.mp hrest with hwhole | hfraction
    · obtain ⟨d, -, hd⟩ := List.mem_map.mp hwhole
      exact .inr ⟨d, hd⟩
    · cases hf : p.fraction with
      | none => simp [hf] at hfraction
      | some ds =>
        rw [hf] at hfraction
        rcases List.mem_cons.mp hfraction with rfl | hds
        · exact .inl rfl
        · obtain ⟨d, -, hd⟩ := List.mem_map.mp hds
          exact .inr ⟨d, hd⟩

/-- No character of a spelling without an exponent is the mark of one. -/
theorem not_mark_of_mem {c : Char} (h : c ∈ p.chars) : (c == 'e' || c == 'E') = false := by
  have hdigit : ∀ d : Fin 10, (digitChar d == 'e' || digitChar d == 'E') = false := by decide
  rcases p.mem_chars h with hpunctuation | ⟨d, rfl⟩
  · simp only [isPunctuation, Bool.or_eq_true, beq_iff_eq] at hpunctuation
    rcases hpunctuation with (rfl | rfl) | rfl <;> rfl
  · exact hdigit d

end PlainSpelling

/-! ## §4 With an exponent -/

namespace Decimal

theorem checkRest_eq_error {cs : List Char} {c : Char} (hmem : c ∈ cs)
    (hc : (digit? c).isNone = true ∧ c ≠ '_') (result : Except ReadError Decimal) :
    ∃ e, checkRest cs result = .error e := by
  have hsome : (cs.find? fun c => (digit? c).isNone && c != '_').isSome = true := by
    rw [List.find?_isSome]
    exact ⟨c, hmem, by simpa using hc⟩
  obtain ⟨x, hx⟩ := Option.isSome_iff_exists.mp hsome
  exact ⟨.ofChar x, by rw [checkRest, hx]⟩

/-- A character that is neither a digit nor a point or a separator is a failure wherever it stands,
if nothing else is one before. -/
theorem Reading.readOn_eq_error {cs : List Char} {c : Char} (hmem : c ∈ cs)
    (hc : (digit? c).isNone = true ∧ c ≠ '_') (hpoint : c ≠ '.') (limited : Bool) (r : Reading) :
    ∃ e, r.readOn limited cs = .error e := by
  induction cs generalizing r with
  | nil => cases hmem
  | cons x rest ih =>
    rcases List.mem_cons.mp hmem with rfl | hrest
    · have hnone : digit? c = none := Option.isNone_iff_eq_none.mp hc.1
      unfold readOn
      cases r.stage <;> simp [hnone, hc.2, hpoint]
    · have hcheck := checkRest_eq_error hrest hc
      unfold readOn
      split
      · exact hcheck _
      · split_ifs
        · exact ih hrest _
        · exact hcheck _
        · exact ⟨_, rfl⟩
      · split_ifs
        · exact hcheck _
        · exact ⟨_, rfl⟩
        · exact ih hrest _
      · split_ifs
        · exact ih hrest _
        · exact ih hrest _
        · exact ⟨_, rfl⟩

/-- No text with the mark of an exponent is a plain form. -/
theorem readPlain_eq_error {cs : List Char} {c : Char} (hmem : c ∈ cs)
    (hc : c = 'e' ∨ c = 'E') : ∃ e, readPlain cs = .error e := by
  have hbad : ((digit? c).isNone = true ∧ c ≠ '_') ∧ c ≠ '.' ∧ c ≠ '-' ∧ c ≠ '+' := by
    rcases hc with rfl | rfl <;> decide
  obtain ⟨hnone, hpoint, hminus, hplus⟩ := hbad
  cases cs with
  | nil => cases hmem
  | cons x rest =>
    by_cases hx : x = '-' ∨ x = '+'
    · have hrest : c ∈ rest := by
        refine (List.mem_cons.mp hmem).resolve_left fun h => ?_
        rcases hx with hx | hx
        · exact hminus (h.trans hx)
        · exact hplus (h.trans hx)
      rcases hx with rfl | rfl
      · exact Reading.readOn_eq_error hrest hnone hpoint _ _
      · exact Reading.readOn_eq_error hrest hnone hpoint _ _
    · rw [readPlain_cons (fun h => hx (.inl h)) fun h => hx (.inr h)]
      exact Reading.readOn_eq_error hmem hnone hpoint _ _

/-- Digits spell their number. -/
theorem foldlM_digitChars (n : ℕ) (ds : List (Fin 10)) :
    (digitChars ds).foldlM (fun n c => (digit? c).map (n * 10 + ·)) n = some (numeral n ds) := by
  induction ds generalizing n with
  | nil => rfl
  | cons d ds ih =>
    rw [digitChars, List.map_cons, List.foldlM_cons, digit?_digitChar]
    exact ih _

theorem readNatural?_digitChars {ds : List (Fin 10)} (hne : ds ≠ []) :
    readNatural? (digitChars ds) = some (numeral 0 ds) ∧
      readNatural? ('+' :: digitChars ds) = some (numeral 0 ds) := by
  have hplus : ∀ d : Fin 10, digitChar d ≠ '+' := by decide
  have hempty : (digitChars ds).isEmpty = false := by simpa [digitChars] using hne
  constructor
  · unfold readNatural?
    split
    · rename_i rest heq
      obtain ⟨d, -, hd⟩ := List.mem_map.mp (heq ▸ List.mem_cons_self : '+' ∈ digitChars ds)
      exact absurd hd (hplus d)
    · rw [if_neg (by simp [hempty]), foldlM_digitChars]
  · have hread : readNatural? ('+' :: digitChars ds) =
        if (digitChars ds).isEmpty then none
        else (digitChars ds).foldlM (fun n c => (digit? c).map (n * 10 + ·)) 0 := rfl
    rw [hread, if_neg (by simp [hempty]), foldlM_digitChars]

theorem read?_eq (text : String) :
    read? text = match readPlain text.toList with
      | .ok d => some d
      | .error _ => readScientific? text.toList := by
  unfold read? read
  cases readPlain text.toList with
  | ok d => rfl
  | error e => cases readScientific? text.toList <;> rfl

end Decimal

namespace Exponent

open Decimal

variable (e : Exponent)

/-- An exponent is read as its power, by which the decimal in front of it is shifted. -/
theorem readScientific?_append {cs : List Char}
    (hcs : ∀ c ∈ cs, (c == 'e' || c == 'E') = false) :
    readScientific? (cs ++ e.chars) = (readPlain cs).toOption.bind (·.shift? e.power) := by
  have hmark : (e.mark == 'e' || e.mark == 'E') = true := by
    rcases e.mark_eq with h | h <;> rw [h] <;> rfl
  have hpass : ∀ c ∈ cs, (!(c == 'e' || c == 'E')) = true := fun c hc => by rw [hcs c hc]; rfl
  have hdrop : (cs ++ e.chars).dropWhile (fun c => !(c == 'e' || c == 'E')) = e.chars := by
    rw [List.dropWhile_append_of_pos hpass, chars, List.dropWhile_cons_of_neg (by simp [hmark])]
  have htake : (cs ++ e.chars).takeWhile (fun c => !(c == 'e' || c == 'E')) = cs := by
    rw [List.takeWhile_append_of_pos hpass, chars, List.takeWhile_cons_of_neg (by simp [hmark]),
      List.append_nil]
  have hminus : ∀ x : Fin 10, digitChar x ≠ '-' := by decide
  obtain ⟨hnatural, hnaturalPlus⟩ := readNatural?_digitChars e.digits_ne
  unfold readScientific?
  simp only [hdrop, htake]
  cases readPlain cs with
  | error error => rfl
  | ok b =>
    change _ = b.shift? e.power
    unfold chars power
    cases hsign : e.sign with
    | minus =>
      have hpower := b.shift?_neg_natCast (numeral 0 e.digits)
      simp only [Sign.chars, Sign.isMinus, List.singleton_append, hnatural, Option.bind_eq_bind,
        Option.bind_some, if_true]
      exact hpower.symm
    | plus =>
      have hpower := b.shift?_natCast (numeral 0 e.digits)
      change (readNatural? ('+' :: digitChars e.digits)).bind
        (fun n => if n ≤ maxScale then b.shiftLeft? n else none) = _
      rw [hnaturalPlus]
      exact hpower.symm
    | none =>
      have hpower := b.shift?_natCast (numeral 0 e.digits)
      simp only [Sign.chars, Sign.isMinus, List.nil_append]
      split
      · -- digits do not begin with a minus
        rename_i rest heq
        obtain ⟨x, -, hx⟩ := List.mem_map.mp (heq ▸ List.mem_cons_self : '-' ∈ digitChars e.digits)
        exact absurd hx (hminus x)
      · rw [hnatural]
        exact hpower.symm

end Exponent

namespace Spelling

open Decimal

/-- **Texts of any form.** The number in front of the exponent is read, and shifted by the
exponent. -/
theorem read?_text (l : Spelling) :
    read? l.text = (readPlain l.base.chars).toOption.bind (·.shift? l.power) := by
  have hmarks := fun c => l.base.not_mark_of_mem (c := c)
  rw [read?_eq]
  unfold text power
  rw [String.toList_ofList]
  cases l.exponent with
  | none =>
    -- an exponent that is left out shifts by nothing
    have hnone : l.base.chars.dropWhile (fun c => !(c == 'e' || c == 'E')) = [] :=
      List.dropWhile_eq_nil_iff.mpr fun c hc => by rw [hmarks c hc]; rfl
    rw [List.append_nil]
    cases readPlain l.base.chars with
    | ok d => exact d.shift?_zero.symm
    | error error =>
      unfold readScientific?
      simp only [hnone]
      rfl
  | some e =>
    have hmark : e.mark ∈ l.base.chars ++ e.chars := by simp [Exponent.chars]
    obtain ⟨error, herror⟩ := readPlain_eq_error hmark e.mark_eq
    rw [herror]
    exact e.readScientific?_append hmarks

/-! ## §5 Whole results -/

variable {l : Spelling} {d : Decimal} {n : ℤ}

/-- The number that is spelled, by the magnitude of its digits. -/
theorem value_eq : l.value = withSign l.base.sign.isMinus (l.base.magnitude * 10 ^ l.power) :=
  withSign_mul _ _ _

/-- What is read is a shifted rounding of the digits, with the sign of the text. -/
theorem exists_shift? (h : read? l.text = some d) :
    ∃ b : Decimal, l.base.magnitude < tooLarge ∧ b.Rounds l.base.magnitude ∧
      b.shift? l.power = some d ∧ d.value = withSign l.base.sign.isMinus d.magnitude := by
  have hreads := l.base.reads
  rw [read?_text] at h
  cases hplain : readPlain l.base.chars with
  | error error =>
    rw [hplain] at h
    cases h
  | ok b =>
    rw [hplain] at h hreads
    have hshift : b.shift? l.power = some d := h
    cases hreads with
    | ok hlarge hnegative hrounds =>
      refine ⟨b, hlarge, hrounds, hshift, ?_⟩
      rw [Decimal.value, shift?_negative hshift, hnegative]

/-- **Whole results.** A small integer that is read from a text is the number that this text spells
just if that number, and the one in front of the exponent, are decimals; else it is off by a half at
most, and in the tenth place at the earliest if there is no exponent. -/
theorem near_of_whole? (h : read? l.text = some d) (hwhole : d.whole? = some n)
    (hsmall : |(n : ℚ)| ≤ 2 ^ 64) :
    |l.value - n| ≤ 1 / 2 ∧ (l.exponent = none → |l.value - n| ≤ 1 / (2 * 10 ^ 9)) ∧
      (l.value = n ↔ IsDecimal l.base.value ∧ IsDecimal l.value) := by
  obtain ⟨b, hlarge, hrounds, hshift, hd⟩ := exists_shift? h
  have hvalue : (n : ℚ) = withSign l.base.sign.isMinus d.magnitude := by
    rw [← hd, whole?_eq_some_iff.mp hwhole]
  have hmagnitude : d.magnitude = |(n : ℚ)| := by
    rw [hvalue, abs_withSign, abs_of_nonneg d.magnitude_nonneg]
  have hdistance : |l.value - n| = |d.magnitude - l.base.magnitude * 10 ^ l.power| := by
    rw [value_eq, hvalue, withSign_sub, abs_withSign, abs_sub_comm]
  have hequal : l.value = n ↔ d.magnitude = l.base.magnitude * 10 ^ l.power := by
    rw [value_eq, hvalue, (withSign_injective _).eq_iff, eq_comm]
  rw [← hmagnitude] at hsmall
  refine ⟨hdistance ▸ shift?_near hshift hrounds hsmall, fun hexponent => ?_, ?_⟩
  · -- nothing is shifted, and the rounding of the digits is the only error
    have hpower : l.power = 0 := by
      unfold power
      rw [hexponent]
    rw [hpower, shift?_zero] at hshift
    cases hshift
    rw [hdistance, hpower, zpow_zero, mul_one]
    exact hrounds.near_of_small hsmall
  · rw [hequal, PlainSpelling.value, value_eq, isDecimal_withSign, isDecimal_withSign]
    constructor
    · intro heq
      have hinteger : ∃ k : ℕ, d.magnitude = k :=
        ⟨n.natAbs, by rw [hmagnitude, ← Int.cast_abs, Int.abs_eq_natAbs, Int.cast_natCast]⟩
      have hbound : |l.base.magnitude| < 2 ^ 96 := by
        rw [abs_of_nonneg l.base.magnitude_nonneg]
        rw [tooLarge] at hlarge
        linarith
      exact ⟨isDecimal_of_shift? hshift hbound hinteger heq, heq ▸ d.isDecimal_magnitude⟩
    · rintro ⟨hbase, hproduct⟩
      exact shift?_exact hshift hrounds hbase hproduct

/-- **Exact results.** A small integer that a text spells is read from it, if the number in front of
the exponent is a decimal and the exponent is within its limits. -/
theorem exists_whole?_of_value (hvalue : l.value = n) (hsmall : |(n : ℚ)| ≤ 2 ^ 64)
    (hbase : IsDecimal l.base.value) (hpower : l.power.natAbs ≤ 28) :
    ∃ d, read? l.text = some d ∧ d.whole? = some n := by
  have hreads := l.base.reads
  rw [PlainSpelling.value, isDecimal_withSign] at hbase
  have hlarge : l.base.magnitude < tooLarge :=
    (le_abs_self _).trans_lt (lt_tooLarge_of_isDecimal hbase)
  cases hplain : readPlain l.base.chars with
  | error error =>
    rw [hplain] at hreads
    cases hreads with
    | error hge => exact absurd hlarge (not_lt.mpr hge)
  | ok b =>
    rw [hplain] at hreads
    cases hreads with
    | ok _ hnegative hrounds =>
      have hproduct : IsDecimal (l.base.magnitude * 10 ^ l.power) := by
        have hdecimal : IsDecimal l.value :=
          hvalue ▸ isDecimal_intCast (hsmall.trans_lt (by norm_num))
        rw [value_eq] at hdecimal
        exact isDecimal_withSign.mp hdecimal
      have hbound : b.magnitude * 10 ^ l.power < 2 ^ 96 := by
        have : |l.value| ≤ 2 ^ 64 := hvalue ▸ hsmall
        rw [value_eq, abs_withSign] at this
        rw [hrounds.exact hbase]
        exact ((le_abs_self _).trans this).trans_lt (by norm_num)
      obtain ⟨d, hshift⟩ := Decimal.exists_shift? hpower hbound
      refine ⟨d, ?_, whole?_eq_some_iff.mpr ?_⟩
      · rw [read?_text, hplain]
        exact hshift
      · rw [Decimal.value, shift?_negative hshift, hnegative,
          shift?_exact hshift hrounds hbase hproduct, ← value_eq, hvalue]

end Spelling

end WebTrip

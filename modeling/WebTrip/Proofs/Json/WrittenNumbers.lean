import Mathlib.Data.Nat.Digits.Defs
import WebTrip.Json.Printer
import WebTrip.Proofs.Json.Numerals
import WebTrip.Proofs.Number.ShortestDigits
import WebTrip.Proofs.Number.WrittenDecimals

/-!
# Written numbers

What is written for a number is a JSON number, and who reads it as the nearest number has the same
number again. An integer is written as its digits alone, and so it is an integer again; a binary64
number always has a point or an exponent, and so it is none, even if it is whole. Of the four ways
to lay out its digits each has the value of the shortest digits, and the number is the nearest one
to that value. A reader that rounds more than once may come to another number.

## Main definitions

- `Json.Numeral.nearest`: the number nearest to a numeral
- `Spelling.Writes`: a spelling of a value, with the characters behind its sign

## Main statements

- `exists_writes_lay`: digits that are laid out have a spelling
- `Double.exists_numeral`: a binary64 number is the nearest one to what is written for it
- `Json.Number.exists_numeral`: and so is every number
-/

namespace WebTrip

open WebTrip.Json

/-! ## §1 The nearest number -/

/-- The number nearest to a numeral. An integer that fits 64 bits is itself, and every other number
is rounded once. -/
def Json.Numeral.nearest (n : Numeral) : Option Number :=
  match n.integer? with
  | some integer => some integer
  | none => (Double.ofDecimal n.negative n.digits (n.power - n.places)).map .float

/-! ## §2 Digits without zeros in front -/

/-- A natural number is written without a zero in front, unless it is zero. -/
theorem exists_digitChars_proper (n : ℕ) :
    ∃ ds, Nat.toDigits 10 n = digitChars ds ∧ numeral 0 ds = n ∧
      (ds = [0] ∨ ∃ d rest, ds = d :: rest ∧ d ≠ 0) := by
  obtain ⟨ds, hdigits, hne, hnumeral⟩ := exists_digitChars_eq n
  refine ⟨ds, hdigits, hnumeral, ?_⟩
  cases ds with
  | nil => exact absurd rfl hne
  | cons d rest =>
    by_cases hd : d = 0
    · subst hd
      cases rest with
      | nil => exact .inl rfl
      | cons second rest =>
        -- the digits behind the zero would do
        have hlt : n < 10 ^ (second :: rest).length := by
          rw [← hnumeral]
          exact numeral_lt (second :: rest)
        have hlength := Nat.toDigits_length 10 n _ (by simp) hlt
        rw [hdigits, digitChars, List.length_map] at hlength
        simp at hlength
    · exact .inr ⟨d, rest, rfl, hd⟩

theorem digitChars_append (ds es : List (Fin 10)) :
    digitChars (ds ++ es) = digitChars ds ++ digitChars es :=
  List.map_append

theorem digitChars_replicate_zero (k : ℕ) :
    digitChars (List.replicate k 0) = List.replicate k '0' := by
  rw [digitChars, List.map_replicate]
  rfl

/-! ## §3 Integers -/

/-- The spelling of an integer by its digits. -/
def integerSpelling (negative : Bool) (ds : List (Fin 10)) (h : ds ≠ []) : Spelling where
  base := ⟨if negative then .minus else .none, ds, none, by simpa using h⟩
  exponent := none

theorem toString_int (n : ℤ) :
    toString n = String.ofList ((if n < 0 then ['-'] else []) ++ Nat.toDigits 10 n.natAbs) := by
  cases n with
  | ofNat m =>
    have hsign : ¬ (Int.ofNat m < 0) := not_lt.mpr (Int.natCast_nonneg m)
    rw [if_neg hsign]
    rfl
  | negSucc m =>
    rw [if_pos (Int.negSucc_lt_zero m)]
    show "-" ++ (m + 1).repr = _
    rw [← String.toList_inj]
    simp [Nat.toList_repr]

/-- The digits of an integer and its sign are the integer. -/
theorem Json.Numeral.integer?_integer (n : ℤ) (fits : FitsWord n) :
    Numeral.integer? { negative := decide (n < 0), digits := n.natAbs } =
      some (.integer n fits) := by
  have hsigned : (if decide (n < 0) then -(n.natAbs : ℤ) else n.natAbs) = n := by
    by_cases hneg : n < 0
    · rw [if_pos (decide_eq_true hneg)]
      omega
    · rw [if_neg (by simpa using hneg)]
      omega
  have hzero : (decide (n < 0) && n.natAbs == 0) = false := by
    by_cases hneg : n < 0
    · have hne : n.natAbs ≠ 0 := by omega
      simp [hne]
    · simp [hneg]
  rw [integer?, hsigned, hzero, Number.ofInt?, dif_pos fits]
  rfl

/-- **Integers.** What is written for one is a numeral of this integer. -/
theorem Json.Number.exists_numeral_integer (n : ℤ) (fits : FitsWord n) :
    ∃ numeral : Numeral, Delimited (toString n) [.number numeral] ∧
      numeral.integer? = some (.integer n fits) := by
  obtain ⟨ds, hdigits, hnumeral, hproper⟩ := exists_digitChars_proper n.natAbs
  have hne : ds ≠ [] := by
    rcases hproper with rfl | ⟨d, rest, rfl, -⟩ <;> simp
  let l := integerSpelling (n < 0) ds hne
  have hjson : l.IsJson := by
    refine ⟨?_, hproper, nofun⟩
    show (if decide (n < 0) then Sign.minus else .none) ≠ .plus
    split_ifs <;> simp
  have htext : toString n = l.text := by
    rw [toString_int, hdigits, Spelling.text]
    by_cases hneg : n < 0 <;>
      simp [l, integerSpelling, PlainSpelling.chars, PlainSpelling.unsigned, Sign.chars, hneg]
  have htaken : l.taken = { negative := decide (n < 0), digits := n.natAbs } := by
    by_cases hneg : n < 0 <;>
      simp [l, integerSpelling, Spelling.taken, PlainSpelling.places, Sign.isMinus, hneg, hnumeral]
  refine ⟨l.taken, htext ▸ hjson.delimited, ?_⟩
  rw [htaken, Numeral.integer?_integer n fits]

/-! ## §4 Layouts of digits -/

namespace Spelling

/-- The spelling is a JSON number that is no integer, with these characters behind its sign; its
digits have the value. -/
structure Writes (l : Spelling) (sign : Sign) (chars : List Char) (q : ℚ) : Prop where
  json : l.IsJson
  sign_eq : l.base.sign = sign
  text_eq : l.text = String.ofList (sign.chars ++ chars)
  notPlain : l.taken.plain = false
  value_eq : l.base.magnitude * 10 ^ l.power = q

/-- The number nearest to what is taken from a spelling that is no integer is the one that its
digits are rounded to. -/
theorem nearest_taken {l : Spelling} (h : l.taken.plain = false) :
    l.taken.nearest =
      (Double.ofDecimal l.base.sign.isMinus (WebTrip.numeral 0 (l.base.whole ++ l.base.places))
        (l.power - l.base.places.length)).map .float := by
  have hpower : l.taken.power = l.power := by
    unfold Numeral.power taken power
    cases l.exponent <;> simp [Exponent.power]
  have hinteger : l.taken.integer? = none := by simp [Numeral.integer?, h]
  rw [Numeral.nearest, hinteger, hpower]
  rfl

/-- Who scans what is written for a value has the number that all digits of this value are rounded
to. -/
theorem Writes.nearest_taken {l : Spelling} {sign : Sign} {chars : List Char} {q : ℚ}
    (h : l.Writes sign chars q) {x : Double} (hread : ∀ (digits : ℕ) (exponent : ℤ),
      (digits : ℚ) * 10 ^ exponent = q →
        Double.ofDecimal sign.isMinus digits exponent = some x) :
    l.taken.nearest = some (.float x) := by
  have hvalue : (WebTrip.numeral 0 (l.base.whole ++ l.base.places) : ℚ) *
      10 ^ (l.power - l.base.places.length) = q := by
    rw [← h.value_eq, PlainSpelling.magnitude, zpow_sub₀ (by norm_num), zpow_natCast]
    ring
  rw [Spelling.nearest_taken h.notPlain, h.sign_eq, hread _ _ hvalue]
  rfl

variable {sign : Sign} (hsign : sign ≠ .plus)

include hsign

/-- Zeros and digits behind the point. -/
theorem exists_writes_small (k : ℕ) {ds : List (Fin 10)} (hne : ds ≠ []) :
    ∃ l : Spelling, l.Writes sign (['0', '.'] ++ List.replicate k '0' ++ digitChars ds)
      (numeral 0 ds * 10 ^ (-(k + ds.length : ℤ))) := by
  refine ⟨⟨⟨sign, [0], some (List.replicate k 0 ++ ds), by simp⟩, none⟩, ?_⟩
  refine ⟨⟨hsign, .inl rfl, by simp [hne]⟩, rfl, ?_, by simp [taken], ?_⟩
  · simp only [text, PlainSpelling.chars, PlainSpelling.unsigned, digitChars_append,
      digitChars_replicate_zero]
    simp [digitChars, digitChar]
  · have hnumeral : numeral 0 ([0] ++ (List.replicate k 0 ++ ds)) = numeral 0 ds := by
      rw [List.singleton_append, numeral_cons, numeral_append, numeral_replicate_zero]
      simp
    simp only [power, PlainSpelling.magnitude, PlainSpelling.places, Option.getD_some, hnumeral,
      List.length_append, List.length_replicate]
    rw [zpow_neg, ← Nat.cast_add, zpow_natCast, zpow_zero, mul_one, div_eq_mul_inv]

/-- Digits and zeros before the point. -/
theorem exists_writes_whole (k : ℕ) {d : Fin 10} (hd : d ≠ 0) (ds : List (Fin 10)) :
    ∃ l : Spelling, l.Writes sign (digitChars (d :: ds) ++ List.replicate k '0' ++ ['.', '0'])
      (numeral 0 (d :: ds) * 10 ^ k) := by
  refine ⟨⟨⟨sign, d :: ds ++ List.replicate k 0, some [0], by simp⟩, none⟩, ?_⟩
  refine ⟨⟨hsign, .inr ⟨d, _, rfl, hd⟩, by simp⟩, rfl, ?_, by simp [taken], ?_⟩
  · simp only [text, PlainSpelling.chars, PlainSpelling.unsigned, digitChars_append,
      digitChars_replicate_zero]
    simp [digitChars, digitChar]
  · simp only [power, PlainSpelling.magnitude, PlainSpelling.places, Option.getD_some,
      numeral_append, numeral_replicate_zero]
    simp

/-- Digits on both sides of the point, which stands behind the first one at the earliest. -/
theorem exists_writes_split {d : Fin 10} (hd : d ≠ 0) {ds : List (Fin 10)} {point : ℕ}
    (hpos : 0 < point) (hlt : point < (d :: ds).length) :
    ∃ l : Spelling, l.Writes sign
      ((digitChars (d :: ds)).take point ++ ['.'] ++ (digitChars (d :: ds)).drop point)
      (numeral 0 (d :: ds) * 10 ^ (point - (d :: ds).length : ℤ)) := by
  obtain ⟨k, rfl⟩ : ∃ k, point = k + 1 := ⟨point - 1, by omega⟩
  have hne : ds.drop k ≠ [] := by
    rw [Ne, List.drop_eq_nil_iff]
    simpa using hlt
  refine ⟨⟨⟨sign, d :: ds.take k, some (ds.drop k), by simp⟩, none⟩, ?_⟩
  refine ⟨⟨hsign, .inr ⟨d, _, rfl, hd⟩, by simpa using hne⟩, rfl, ?_, by simp [taken], ?_⟩
  · simp only [text, PlainSpelling.chars, PlainSpelling.unsigned]
    simp [digitChars, List.map_take, List.map_drop]
  · have hexponent : ((k + 1 : ℕ) : ℤ) - ((d :: ds).length : ℕ) = -((ds.drop k).length : ℤ) := by
      rw [List.length_drop]
      simp only [List.length_cons] at hlt ⊢
      omega
    simp only [power, PlainSpelling.magnitude, PlainSpelling.places, Option.getD_some]
    rw [List.cons_append, List.take_append_drop, hexponent, zpow_neg, zpow_natCast, zpow_zero,
      mul_one, div_eq_mul_inv]

/-- One digit before the point, and an exponent with its sign. -/
theorem exists_writes_scientific {d : Fin 10} (hd : d ≠ 0) (ds : List (Fin 10)) (power : ℤ) :
    ∃ l : Spelling, l.Writes sign
      (digitChar d :: (if ds.isEmpty then [] else '.' :: digitChars ds) ++
        (if power < 0 then ['e', '-'] else ['e', '+']) ++ Nat.toDigits 10 power.natAbs)
      (numeral 0 (d :: ds) * 10 ^ (power - ds.length)) := by
  obtain ⟨es, hdigits, hne, hnumeral⟩ := exists_digitChars_eq power.natAbs
  let exponent : Exponent := ⟨false, if power < 0 then .minus else .plus, es, hne⟩
  have hpower : exponent.power = power := by
    show (if (if power < 0 then Sign.minus else .plus).isMinus then -(numeral 0 es : ℤ)
      else numeral 0 es) = power
    rw [hnumeral]
    by_cases hneg : power < 0
    · simp only [hneg, if_true, Sign.isMinus]
      omega
    · simp only [hneg, if_false, Sign.isMinus, Bool.false_eq_true]
      omega
  refine ⟨⟨⟨sign, [d], if ds.isEmpty then none else some ds, by simp⟩, some exponent⟩, ?_⟩
  refine ⟨⟨hsign, .inr ⟨d, [], rfl, hd⟩, ?_⟩, rfl, ?_, by simp [taken], ?_⟩
  · cases ds <;> simp
  · rw [hdigits]
    cases ds <;> by_cases hneg : power < 0 <;>
      simp [text, PlainSpelling.chars, PlainSpelling.unsigned, Exponent.chars, Exponent.mark,
        exponent, Sign.chars, digitChars, hneg]
  · have hplaces : (if ds.isEmpty then none else some ds).getD [] = ds := by
      cases ds <;> simp
    show (numeral 0 ([d] ++ (if ds.isEmpty then none else some ds).getD []) : ℚ) /
      10 ^ ((if ds.isEmpty then none else some ds).getD []).length * 10 ^ exponent.power = _
    rw [hplaces, hpower, zpow_sub₀ (by norm_num), zpow_natCast]
    simp only [List.singleton_append]
    ring

/-- **Layouts.** Digits are laid out as a JSON number of their value. -/
theorem exists_writes_lay {d : Double.Digits} (hd : d.digits ≠ 0) :
    ∃ l : Spelling, l.Writes sign (Double.jsonLayout.lay d) d.value := by
  obtain ⟨ds, hdigits, hnumeral, hproper⟩ := exists_digitChars_proper d.digits
  obtain ⟨first, rest, rfl, hfirst⟩ : ∃ first rest, ds = first :: rest ∧ first ≠ 0 := by
    rcases hproper with rfl | hfirst
    · exact absurd hnumeral.symm hd
    · exact hfirst
  set ds := first :: rest with hds
  have hvalue : d.value = numeral 0 ds * 10 ^ d.exponent := by rw [hnumeral, Double.Digits.value]
  have hcount : ((digitChars ds).length : ℤ) = ds.length := by rw [digitChars, List.length_map]
  unfold Double.NumberLayout.lay
  simp only [hdigits, hcount]
  by_cases hpositional : Double.jsonLayout.leastPositional < (ds.length : ℤ) + d.exponent ∧
      (ds.length : ℤ) + d.exponent ≤ Double.jsonLayout.positionalEnd
  · rw [if_pos hpositional]
    split_ifs with hsmall hwhole
    · have hne : ds ≠ [] := List.cons_ne_nil first rest
      obtain ⟨l, hl⟩ := exists_writes_small hsign (-((ds.length : ℤ) + d.exponent)).toNat hne
      have hexponent : -((-((ds.length : ℤ) + d.exponent)).toNat + ds.length : ℤ) = d.exponent := by
        omega
      rw [hexponent, ← hvalue] at hl
      exact ⟨l, hl⟩
    · obtain ⟨l, hl⟩ := exists_writes_whole hsign
        ((ds.length : ℤ) + d.exponent - ds.length).toNat hfirst rest
      have hexponent : (((ds.length : ℤ) + d.exponent - ds.length).toNat : ℤ) = d.exponent := by
        omega
      rw [← hds, ← zpow_natCast, hexponent, ← hvalue] at hl
      exact ⟨l, hl⟩
    · -- the point stands among the digits
      have hpoint : (((ds.length : ℤ) + d.exponent).toNat : ℤ) = ds.length + d.exponent := by omega
      have hpos : 0 < ((ds.length : ℤ) + d.exponent).toNat := by omega
      have hlt : ((ds.length : ℤ) + d.exponent).toNat < (first :: rest).length := by
        rw [← hds]
        omega
      obtain ⟨l, hl⟩ := exists_writes_split hsign hfirst hpos hlt
      rw [← hds, hpoint, add_sub_cancel_left, ← hvalue] at hl
      exact ⟨l, hl⟩
  · rw [if_neg hpositional]
    obtain ⟨l, hl⟩ := exists_writes_scientific hsign hfirst rest ((ds.length : ℤ) + d.exponent - 1)
    have hexponent : (ds.length : ℤ) + d.exponent - 1 - rest.length = d.exponent := by
      rw [hds, List.length_cons]
      push_cast
      omega
    rw [hexponent, ← hds, ← hvalue] at hl
    have hmark : (if (ds.length : ℤ) + d.exponent - 1 < 0 then Double.jsonLayout.negativeMark
          else Double.jsonLayout.positiveMark).toList =
        if (ds.length : ℤ) + d.exponent - 1 < 0 then ['e', '-'] else ['e', '+'] := by
      split_ifs <;> rfl
    rw [← hmark] at hl
    refine ⟨l, ?_⟩
    -- a single digit has no point behind it
    clear_value ds
    subst hds
    cases rest
    · exact hl
    · exact hl

end Spelling

/-! ## §5 Numbers -/

namespace Double

/-- The sign that is written for a number. -/
def sign (x : Double) : Sign :=
  if x.negative then .minus else .none

variable (x : Double)

theorem sign_ne_plus : x.sign ≠ .plus := by
  unfold sign
  split_ifs <;> simp

theorem isMinus_sign : x.sign.isMinus = x.negative := by
  unfold sign
  cases x.negative <;> rfl

theorem written_eq :
    x.written = String.ofList (x.sign.chars ++
      if x.isZero then ['0', '.', '0'] else jsonLayout.lay x.shortest) := by
  have hchars : x.sign.chars = if x.negative then ['-'] else [] := by
    unfold sign
    cases x.negative <;> rfl
  rw [hchars]
  rfl

/-- All digits of the value zero are read as the zero of the sign. -/
theorem ofDecimal_of_value_zero (hx : x.isZero = true) {digits : ℕ} {exponent : ℤ}
    (h : (digits : ℚ) * 10 ^ exponent = 0) : ofDecimal x.negative digits exponent = some x := by
  have hten : (10 : ℚ) ^ exponent ≠ 0 := by positivity
  have hdigits : digits = 0 := by
    rcases mul_eq_zero.mp h with hdigits | hpower
    · exact_mod_cast hdigits
    · exact absurd hpower hten
  have hsignificand : x.significand = 0 := by simpa [isZero] using hx
  conv_rhs => rw [x.eq_zero_of_significand hsignificand]
  rw [ofDecimal, if_pos hdigits]

/-- **Binary64 numbers.** What is written for one is a numeral, to which this number is the nearest
one. It is never the numeral of an integer. -/
theorem exists_numeral :
    ∃ numeral : Numeral, Delimited x.written [.number numeral] ∧
      numeral.nearest = some (.float x) := by
  rw [written_eq]
  by_cases hzero : x.isZero = true
  · obtain ⟨l, hl⟩ := Spelling.exists_writes_small x.sign_ne_plus 0 (List.cons_ne_nil 0 [])
    rw [if_pos hzero]
    refine ⟨l.taken, hl.text_eq ▸ hl.json.delimited, hl.nearest_taken fun digits exponent h => ?_⟩
    -- a zero keeps its sign, which no digits could tell
    rw [x.isMinus_sign]
    exact x.ofDecimal_of_value_zero hzero (h.trans (by simp))
  · obtain ⟨l, hl⟩ := Spelling.exists_writes_lay x.sign_ne_plus
      (x.shortest_digits_ne_zero (by simpa using hzero))
    rw [if_neg hzero]
    refine ⟨l.taken, hl.text_eq ▸ hl.json.delimited, hl.nearest_taken fun digits exponent h => ?_⟩
    rw [x.isMinus_sign]
    exact x.ofDecimal_of_value_eq h

end Double

/-- **Numbers.** What is written for a number is a numeral, to which this number is the nearest
one. -/
theorem Json.Number.exists_numeral (n : Number) :
    ∃ numeral : Numeral, Delimited n.written [.number numeral] ∧ numeral.nearest = some n := by
  cases n with
  | integer n fits =>
    obtain ⟨numeral, hdelimited, hinteger⟩ := exists_numeral_integer n fits
    exact ⟨numeral, hdelimited, by rw [Numeral.nearest, hinteger]⟩
  | float x => exact x.exists_numeral

/-- Rounded twice, what is written for a binary64 number may be read as its neighbour. -/
example :
    Numeral.nearest { digits := 31245270191439438, places := 15, plain := false } =
        some (.float ⟨false, 8794761699453570, -48, by decide⟩) ∧
      Numeral.value { digits := 31245270191439438, places := 15, plain := false } =
        some (.float ⟨false, 8794761699453571, -48, by decide⟩) := by
  decide +kernel

end WebTrip

import WebTrip.Proofs.Json.Spelling
import WebTrip.Proofs.Number.Spelling

/-!
# Scanning numerals

A JSON number is a spelling of a decimal number with some restrictions: it has no plus in front,
digits on both sides of a point, and no zero in front of other digits. The scanner reads such a
spelling as one number, and it has taken from it exactly the digits, the count of those behind the
point, and the exponent.

## Main definitions

- `Spelling.IsJson`: the spellings that are JSON numbers
- `Spelling.taken`: what the scanner takes from a spelling
- `Leads`: a text that takes the scanner from one part of a number to another

## Main statements

- `leads_digits`: the digits of a part, whichever part it is
- `leads_whole`, `leads_fraction`, `leads_exponent`: the parts of a number
- `Spelling.IsJson.delimited`: a spelling is the numeral that was taken from it
-/

namespace WebTrip

open WebTrip.Json

/-! ## §1 Numerals of spellings -/

namespace Spelling

/-- The spelling is a JSON number. -/
structure IsJson (l : Spelling) : Prop where
  sign : l.base.sign ≠ .plus
  /-- There are digits before the point, and a zero is the first one only if it is the only one. -/
  whole : l.base.whole = [0] ∨ ∃ d ds, l.base.whole = d :: ds ∧ d ≠ 0
  fraction : l.base.fraction ≠ some []

/-- What the scanner takes from a spelling. -/
def taken (l : Spelling) : Numeral where
  negative := l.base.sign.isMinus
  digits := numeral 0 (l.base.whole ++ l.base.places)
  places := l.base.places.length
  exponentNegative := l.exponent.any (·.sign.isMinus)
  exponent := (l.exponent.map fun e => numeral 0 e.digits).getD 0
  plain := l.base.fraction.isNone && l.exponent.isNone

end Spelling

namespace Json

namespace Numeral

variable (n : Numeral) (d : Fin 10)

/-- The numeral with one more digit, -/
def withDigit : Numeral :=
  { n with digits := n.digits * 10 + d }

/-- with one more digit behind the point, -/
def withPlace : Numeral :=
  { n with digits := n.digits * 10 + d, places := n.places + 1 }

/-- and with one more digit of the exponent. -/
def withPower : Numeral :=
  { n with exponent := n.exponent * 10 + d }

variable (ds : List (Fin 10))

theorem foldl_withDigit : ds.foldl withDigit n = { n with digits := numeral n.digits ds } := by
  induction ds generalizing n with
  | nil => rfl
  | cons d ds ih =>
    rw [List.foldl_cons, ih]
    rfl

theorem foldl_withPlace :
    ds.foldl withPlace n =
      { n with digits := numeral n.digits ds, places := n.places + ds.length } := by
  induction ds generalizing n with
  | nil => rfl
  | cons d ds ih =>
    have hcount : n.places + 1 + ds.length = n.places + (ds.length + 1) := by omega
    rw [List.foldl_cons, ih, List.length_cons, ← hcount]
    rfl

theorem foldl_withPower : ds.foldl withPower n = { n with exponent := numeral n.exponent ds } := by
  induction ds generalizing n with
  | nil => rfl
  | cons d ds ih =>
    rw [List.foldl_cons, ih]
    rfl

end Numeral

/-! ## §2 Parts of a number -/

/-- The text takes the scanner from a numeral in one part of a number to a numeral in another. -/
def Leads (text : List Char) (part : NumberPart) (n : Numeral) (part' : NumberPart) (n' : Numeral) :
    Prop :=
  ∀ before : List Token,
    text.foldl Scanner.read ⟨before, .number part n⟩ = ⟨before, .number part' n'⟩

section Leads

variable {part part' part'' : NumberPart} {n n' n'' : Numeral}

theorem leads_nil : Leads [] part n part n :=
  fun _ => rfl

theorem Leads.append {a b : List Char} (ha : Leads a part n part' n')
    (hb : Leads b part' n' part'' n'') : Leads (a ++ b) part n part'' n'' := by
  intro before
  rw [List.foldl_append, ha, hb]

theorem leads_cons {c : Char} {rest : List Char} (hc : n.extend part c = some (n', part'))
    (hrest : Leads rest part' n' part'' n'') : Leads (c :: rest) part n part'' n'' := by
  intro before
  rw [List.foldl_cons, read_number hc, hrest]

theorem digitChar_bounds (d : Fin 10) : '0' ≤ digitChar d ∧ digitChar d ≤ '9' := by
  revert d
  decide

theorem toNat_digitChar (d : Fin 10) : (digitChar d).toNat - 0x30 = d := by
  revert d
  decide

theorem digitChar_ne_zero {d : Fin 10} (h : d ≠ 0) : digitChar d ≠ '0' := by
  revert d
  decide

/-- **Digits.** If each digit does the same to a numeral and leads into one part, all of them do
what they do one after the other. -/
theorem leads_digits {step : Numeral → Fin 10 → Numeral}
    (hstay : ∀ n d, n.extend part' (digitChar d) = some (step n d, part')) (n : Numeral)
    (ds : List (Fin 10)) : Leads (digitChars ds) part' n part' (ds.foldl step n) := by
  induction ds generalizing n with
  | nil => exact leads_nil
  | cons d ds ih => exact leads_cons (hstay n d) (ih (step n d))

theorem leads_first_digit {step : Numeral → Fin 10 → Numeral}
    (hstay : ∀ n d, n.extend part' (digitChar d) = some (step n d, part')) {d : Fin 10}
    (hfirst : n.extend part (digitChar d) = some (step n d, part')) (ds : List (Fin 10)) :
    Leads (digitChars (d :: ds)) part n part' ((d :: ds).foldl step n) :=
  leads_cons hfirst (leads_digits hstay (step n d) ds)

theorem extend_integer (n : Numeral) (d : Fin 10) :
    n.extend .integer (digitChar d) = some (n.withDigit d, .integer) := by
  simp [Numeral.extend, digitChar_bounds d, toNat_digitChar, Numeral.withDigit]

theorem extend_fraction (n : Numeral) (d : Fin 10) :
    n.extend .fraction (digitChar d) = some (n.withPlace d, .fraction) := by
  simp [Numeral.extend, digitChar_bounds d, toNat_digitChar, Numeral.withPlace]

theorem extend_exponent (n : Numeral) (d : Fin 10) :
    n.extend .exponent (digitChar d) = some (n.withPower d, .exponent) := by
  simp [Numeral.extend, digitChar_bounds d, toNat_digitChar, Numeral.withPower]

/-- The digits before the point. -/
theorem leads_whole {l : Spelling} (h : l.IsJson) (hn : n.digits = 0) :
    ∃ part, (part = .leadingZero ∨ part = .integer) ∧
      Leads (digitChars l.base.whole) .minus n part
        { n with digits := numeral 0 l.base.whole } := by
  rcases h.whole with hzero | ⟨d, ds, hwhole, hd⟩
  · -- a zero in front leaves the digits as they are, but no digit may follow it
    refine ⟨.leadingZero, .inl rfl, ?_⟩
    rw [hzero]
    have hsame : { n with digits := numeral 0 [0] } = n := by
      cases n
      cases hn
      rfl
    rw [hsame]
    exact fun _ => rfl
  · refine ⟨.integer, .inr rfl, ?_⟩
    have hfirst : n.extend .minus (digitChar d) = some (n.withDigit d, .integer) := by
      simp [Numeral.extend, digitChar_ne_zero hd, digitChar_bounds d, toNat_digitChar,
        Numeral.withDigit]
    have hdigits := leads_first_digit extend_integer hfirst ds
    rwa [Numeral.foldl_withDigit, hn, ← hwhole] at hdigits

/-- The point and the digits behind it, if there are any. -/
theorem leads_fraction {fraction : Option (List (Fin 10))} (hne : fraction ≠ some [])
    (hpart : part = .leadingZero ∨ part = .integer) (hplain : n.plain = true)
    (hplaces : n.places = 0) :
    ∃ part', (part' = .leadingZero ∨ part' = .integer ∨ part' = .fraction) ∧
      (part' = .fraction → fraction.isNone = false) ∧
      Leads (match fraction with | none => [] | some ds => '.' :: digitChars ds) part n part'
        { n with
          digits := numeral n.digits (fraction.getD [])
          places := (fraction.getD []).length
          plain := fraction.isNone } := by
  match fraction with
  | none =>
    refine ⟨part, hpart.imp_right .inl, ?_, ?_⟩
    · rintro rfl
      simp at hpart
    · have hsame : { n with digits := numeral n.digits [], places := 0, plain := true } = n := by
        cases n
        cases hplain
        cases hplaces
        rfl
      exact hsame.symm ▸ leads_nil
  | some [] => exact absurd rfl hne
  | some (d :: ds) =>
    have hpoint : n.extend part '.' = some ({ n with plain := false }, .point) := by
      rcases hpart with rfl | rfl <;> rfl
    have hfirst : Numeral.extend { n with plain := false } .point (digitChar d) =
        some (Numeral.withPlace { n with plain := false } d, .fraction) := by
      simp [Numeral.extend, digitChar_bounds d, toNat_digitChar, Numeral.withPlace]
    have hdigits := leads_first_digit extend_fraction hfirst ds
    rw [Numeral.foldl_withPlace] at hdigits
    refine ⟨.fraction, .inr (.inr rfl), fun _ => rfl, leads_cons hpoint ?_⟩
    simpa [hplaces] using hdigits

/-- The exponent, if there is one. -/
theorem leads_exponent (exponent : Option Exponent)
    (hpart : part = .leadingZero ∨ part = .integer ∨ part = .fraction)
    (hplain : part = .fraction → n.plain = false) (hnegative : n.exponentNegative = false)
    (hpower : n.exponent = 0) :
    ∃ part', part'.isFinal = true ∧
      Leads (match exponent with | none => [] | some e => e.chars) part n part'
        { n with
          exponentNegative := exponent.any (·.sign.isMinus)
          exponent := (exponent.map fun e => numeral 0 e.digits).getD 0
          plain := n.plain && exponent.isNone } := by
  cases exponent with
  | none =>
    refine ⟨part, by rcases hpart with rfl | rfl | rfl <;> rfl, ?_⟩
    have hsame : { n with exponentNegative := false, exponent := 0, plain := n.plain && true } =
        n := by
      cases n
      cases hnegative
      cases hpower
      simp
    exact hsame.symm ▸ leads_nil
  | some e =>
    have hmark : n.extend part e.mark = some ({ n with plain := false }, .mark) := by
      rcases hpart with rfl | rfl | rfl
      · rcases e.mark_eq with hmark | hmark <;> simp [Numeral.extend, hmark]
      · rcases e.mark_eq with hmark | hmark <;> simp [Numeral.extend, hmark]
      · -- behind a point the numeral is no longer plain anyway
        have hsame : { n with plain := false } = n := by
          cases n
          cases hplain rfl
          rfl
        rw [hsame]
        rcases e.mark_eq with hmark | hmark <;> simp [Numeral.extend, hmark]
    have hdigits : ∀ (m : Numeral) (part : NumberPart), part = .mark ∨ part = .markSign →
        m.exponent = 0 → Leads (digitChars e.digits) part m .exponent
          { m with exponent := numeral 0 e.digits } := by
      intro m part hpart hm
      cases hds : e.digits with
      | nil => exact absurd hds e.digits_ne
      | cons d ds =>
        have hfirst : m.extend part (digitChar d) = some (m.withPower d, .exponent) := by
          rcases hpart with rfl | rfl <;>
            simp [Numeral.extend, digitChar_bounds d, toNat_digitChar, Numeral.withPower]
        have hall := leads_first_digit extend_exponent hfirst ds
        rwa [Numeral.foldl_withPower, hm] at hall
    refine ⟨.exponent, rfl, leads_cons hmark ?_⟩
    -- a sign comes between the mark and the digits, and only a minus leaves a trace
    cases hsign : e.sign with
    | none =>
      have hrest := hdigits { n with plain := false } .mark (.inl rfl) hpower
      simpa [hsign, Sign.chars, Sign.isMinus, hnegative] using hrest
    | plus =>
      have hplus : Leads ['+'] .mark { n with plain := false } .markSign
          { n with plain := false } :=
        fun _ => rfl
      have hrest := hplus.append (hdigits _ .markSign (.inr rfl) hpower)
      simpa [hsign, Sign.chars, Sign.isMinus, hnegative] using hrest
    | minus =>
      have hminus : Leads ['-'] .mark { n with plain := false } .markSign
          { n with plain := false, exponentNegative := true } :=
        fun _ => rfl
      have hrest := hminus.append (hdigits _ .markSign (.inr rfl) hpower)
      simpa [hsign, Sign.chars, Sign.isMinus] using hrest

end Leads

/-! ## §3 Whole numbers -/

/-- The scanner is at the first digit of a spelling, with the sign taken. -/
theorem foldl_read_start {l : Spelling} (h : l.IsJson) (before : List Token) (rest : List Char) :
    (l.base.sign.chars ++ (digitChars l.base.whole ++ rest)).foldl Scanner.read ⟨before, .between⟩ =
      (digitChars l.base.whole ++ rest).foldl Scanner.read
        ⟨before, .number .minus { negative := l.base.sign.isMinus }⟩ := by
  obtain ⟨d, ds, hwhole⟩ : ∃ d ds, l.base.whole = d :: ds := by
    rcases h.whole with hzero | ⟨d, ds, hwhole, -⟩
    · exact ⟨0, [], hzero⟩
    · exact ⟨d, ds, hwhole⟩
  cases hsign : l.base.sign with
  | none =>
    rw [hwhole]
    show (digitChar d :: (digitChars ds ++ rest)).foldl _ _ =
      (digitChar d :: (digitChars ds ++ rest)).foldl _ _
    rw [List.foldl_cons, List.foldl_cons, read_first_digit (digitChar_bounds d)]
    rfl
  | plus => exact absurd hsign h.sign
  | minus => rfl

end Json

/-- **Numbers.** A spelling is one token, with what was taken from it. -/
theorem Spelling.IsJson.delimited {l : Spelling} (h : l.IsJson) :
    Delimited l.text [.number l.taken] := by
  let signed : Numeral := { negative := l.base.sign.isMinus }
  let whole : Numeral := { signed with digits := numeral 0 l.base.whole }
  let plain : Numeral :=
    { whole with
      digits := numeral whole.digits l.base.places
      places := l.base.places.length
      plain := l.base.fraction.isNone }
  obtain ⟨part₁, hpart₁, h₁⟩ := leads_whole (n := signed) h rfl
  obtain ⟨part₂, hpart₂, hplain, h₂⟩ := leads_fraction (n := whole) h.fraction hpart₁ rfl rfl
  obtain ⟨part₃, hfinal, h₃⟩ :=
    leads_exponent (n := plain) l.exponent hpart₂ hplain rfl rfl
  have hall := h₁.append (h₂.append h₃)
  have htaken : l.taken = { plain with
      exponentNegative := l.exponent.any (·.sign.isMinus)
      exponent := (l.exponent.map fun e => numeral 0 e.digits).getD 0
      plain := plain.plain && l.exponent.isNone } := by
    simp only [Spelling.taken, numeral_append, plain, whole, signed]
  intro before c hc
  have htext : l.text.toList = l.base.sign.chars ++ (digitChars l.base.whole ++
      ((match l.base.fraction with | none => [] | some ds => '.' :: digitChars ds) ++
        match l.exponent with | none => [] | some e => e.chars)) := by
    cases hfraction : l.base.fraction <;> cases hexponent : l.exponent <;>
      simp [Spelling.text, PlainSpelling.chars, PlainSpelling.unsigned, hfraction, hexponent]
  rw [htext, foldl_read_start h, hall before, ← htaken, read_number_delimiter hfinal _ hc]
  rfl

end WebTrip

import Mathlib.Tactic.Common
import WebTrip.Text.Uppercase

/-!
# Which texts have Latin capitals

The uppercase mapping takes small and capital letters alike to the capital letters A to Z, and a few
characters beyond ASCII too: the dotless i, the long s, the sharp s, and the ligatures of Latin
letters. A word of capital letters is the uppercase form of exactly those texts that are put
together from such spellings of its letters.

## Main definitions

- `IsCapital`: the letters A to Z
- `furtherSpellings`: the characters beyond ASCII whose uppercase form is made of capital letters
- `SpellsCapitals`: texts put together from spellings
- `EqualUpToCase`: texts that differ in the case of ASCII letters only

## Main statements

- `capital_cases`: how a character comes to have capital letters for its uppercase form
- `uppercase_eq_iff`: the texts whose uppercase form is a word of capital letters
- `spellsCapitals_iff_of_ascii`: among ASCII texts these are the texts that are equal up to case
-/

namespace WebTrip.Text

/-! ## §1 Capital letters -/

/-- A letter from A to Z. -/
def IsCapital (c : Char) : Prop :=
  0x41 ≤ c.toNat ∧ c.toNat ≤ 0x5a

instance (c : Char) : Decidable (IsCapital c) :=
  inferInstanceAs (Decidable (_ ∧ _))

/-- The characters beyond ASCII whose uppercase form is made of capital letters, with that form. -/
def furtherSpellings : List (Char × List Char) :=
  [('ı', ['I']), ('ſ', ['S']), ('ß', ['S', 'S']), ('ﬀ', ['F', 'F']), ('ﬁ', ['F', 'I']),
    ('ﬂ', ['F', 'L']), ('ﬃ', ['F', 'F', 'I']), ('ﬄ', ['F', 'F', 'L']), ('ﬅ', ['S', 'T']),
    ('ﬆ', ['S', 'T'])]

/-- A text that spells a word of capital letters: each letter by itself or by its small letter, or
some letters together by one further character. -/
inductive SpellsCapitals : List Char → List Char → Prop where
  | nil : SpellsCapitals [] []
  | letter {c l : Char} {cs word : List Char} : IsCapital l → (c = l ∨ c = l.toLower) →
      SpellsCapitals cs word → SpellsCapitals (c :: cs) (l :: word)
  | further {c : Char} {letters cs word : List Char} : (c, letters) ∈ furtherSpellings →
      SpellsCapitals cs word → SpellsCapitals (c :: cs) (letters ++ word)

/-- The texts differ in the case of ASCII letters only. -/
def EqualUpToCase (s t : String) : Prop :=
  s.toList.map Char.toUpper = t.toList.map Char.toUpper

instance (s t : String) : Decidable (EqualUpToCase s t) :=
  inferInstanceAs (Decidable (_ = _))

/-! ## §2 The uppercase form of one character -/

/-- What holds of the 128 ASCII characters can be checked for each of them. -/
theorem ascii_forall (P : Char → Prop) (h : ∀ n < 0x80, P (Char.ofNat n)) {c : Char}
    (hc : c.toNat < 0x80) : P c := by
  have hchar := h c.toNat hc
  rwa [Char.ofNat_toNat] at hchar

theorem IsCapital.toNat_lt {c : Char} (h : IsCapital c) : c.toNat < 0x80 :=
  Nat.lt_of_le_of_lt h.2 (by decide)

theorem toNat_ofNat_of_isCapital {n : Nat} (h : IsCapital (Char.ofNat n)) :
    (Char.ofNat n).toNat = n := by
  by_cases hvalid : n.isValidChar
  · rw [Char.ofNat, dif_pos hvalid]
    rfl
  · -- what is no character is taken for NUL, which is no letter
    rw [Char.ofNat, dif_neg hvalid] at h
    exact absurd h.1 (by simp)

/-- The sequences of the table that are made of capital letters. -/
theorem mem_furtherSpellings_of_sequence {n : Nat} {ns : List Nat}
    (h : capitalSequences.lookup n = some ns) (hns : ∀ l ∈ ns.map Char.ofNat, IsCapital l) :
    (Char.ofNat n, ns.map Char.ofNat) ∈ furtherSpellings := by
  obtain ⟨before, after, htable, -⟩ := List.lookup_eq_some_iff.mp h
  have hmem : (n, ns) ∈ capitalSequences := by simp [htable]
  have hall : (capitalSequences.all fun entry =>
      !(entry.2.map Char.ofNat).all (fun l => decide (IsCapital l)) ||
        furtherSpellings.contains (Char.ofNat entry.1, entry.2.map Char.ofNat)) = true := by
    decide +kernel
  have hentry := List.all_eq_true.mp hall _ hmem
  have hcapitals : (ns.map Char.ofNat).all (fun l => decide (IsCapital l)) = true := by
    simpa using hns
  rw [hcapitals, Bool.not_true, Bool.false_or] at hentry
  exact List.contains_iff_mem.mp hentry

/-- The spans of the table that lead to capital letters: the small letters and two more. -/
theorem mem_furtherSpellings_of_span {n k : Nat} (hn : 0x80 ≤ n)
    (h : capitalSpans.findSome? (spanCapital n) = some k) (hk : IsCapital (Char.ofNat k)) :
    (Char.ofNat n, [Char.ofNat k]) ∈ furtherSpellings := by
  obtain ⟨⟨first, last, stride, capital⟩, hmem, hspan⟩ := List.exists_of_findSome?_eq_some h
  obtain ⟨⟨hfirst, hlast, -⟩, hvalue⟩ := Option.ite_none_right_eq_some.mp hspan
  obtain rfl : capital + (n - first) = k := Option.some.inj hvalue
  have hbound : capital ≤ 0x5a := by
    have := hk.2
    rw [toNat_ofNat_of_isCapital hk] at this
    omega
  have hall : ∀ span ∈ capitalSpans, span.2.2.2 ≤ 0x5a → 0x80 ≤ span.2.1 →
      span.1 = span.2.1 ∧ (Char.ofNat span.1, [Char.ofNat span.2.2.2]) ∈ furtherSpellings := by
    decide +kernel
  -- both spans that are left are of one character
  obtain ⟨hsingle, hfurther⟩ := hall _ hmem hbound (by simpa using Nat.le_trans hn hlast)
  obtain rfl : n = first := by simp only at hsingle; omega
  simpa using hfurther

/-- **One character.** Its uppercase form is made of capital letters only if it is one of these
letters in either case, or one of the further characters. -/
theorem capital_cases {c : Char} (h : ∀ l ∈ capital c, IsCapital l) :
    (∃ l, IsCapital l ∧ (c = l ∨ c = l.toLower) ∧ capital c = [l]) ∨
      (c, capital c) ∈ furtherSpellings := by
  by_cases hascii : c.toNat < 0x80
  · have hcapital : capital c = [c.toUpper] := if_pos hascii
    have hupper : IsCapital c.toUpper := h _ (by simp [hcapital])
    have hcase := ascii_forall
      (fun c => IsCapital c.toUpper → c = c.toUpper ∨ c = c.toUpper.toLower)
      (by decide +kernel) hascii
    exact .inl ⟨c.toUpper, hupper, hcase hupper, hcapital⟩
  · right
    rw [capital, if_neg hascii] at h ⊢
    split at h
    · rename_i ns hsequence
      simpa [hsequence] using mem_furtherSpellings_of_sequence hsequence h
    · rename_i hsequence
      split at h
      · rename_i k hspan
        simpa [hsequence, hspan] using
          mem_furtherSpellings_of_span (Nat.not_lt.mp hascii) hspan (by simpa using h)
      · -- a character that is mapped to itself is no capital letter this far up
        have hself : IsCapital c := by simpa using h
        exact absurd hself.2 (by omega)

theorem capital_of_isCapital {c l : Char} (hl : IsCapital l) (hc : c = l ∨ c = l.toLower) :
    capital c = [l] := by
  have hboth := ascii_forall (fun l => IsCapital l → capital l = [l] ∧ capital l.toLower = [l])
    (by decide +kernel) hl.toNat_lt
  rcases hc with rfl | rfl
  · exact (hboth hl).1
  · exact (hboth hl).2

theorem capital_of_mem_furtherSpellings {c : Char} {letters : List Char}
    (h : (c, letters) ∈ furtherSpellings) : capital c = letters := by
  have hall : ∀ entry ∈ furtherSpellings, capital entry.1 = entry.2 := by decide +kernel
  exact hall _ h

/-! ## §3 Words -/

/-- **Words of capital letters.** They are the uppercase forms of the texts that spell them. -/
theorem flatMap_capital_eq_iff {cs word : List Char} (hword : ∀ l ∈ word, IsCapital l) :
    cs.flatMap capital = word ↔ SpellsCapitals cs word := by
  constructor
  · intro h
    subst h
    induction cs with
    | nil => exact .nil
    | cons c rest ih =>
      rw [List.flatMap_cons] at hword ⊢
      -- the letters of the word are those of the first character and those of the rest
      have hrest : SpellsCapitals rest (rest.flatMap capital) :=
        ih fun l hl => hword l (List.mem_append_right _ hl)
      rcases capital_cases fun l hl => hword l (List.mem_append_left _ hl) with
        ⟨l, hl, hc, hcapital⟩ | hfurther
      · rw [hcapital]
        exact .letter hl hc hrest
      · exact .further hfurther hrest
  · intro h
    clear hword
    induction h with
    | nil => rfl
    | letter hl hc _ ih =>
      rw [List.flatMap_cons, capital_of_isCapital hl hc, ih]
      rfl
    | further hfurther _ ih =>
      rw [List.flatMap_cons, capital_of_mem_furtherSpellings hfurther, ih]

theorem uppercase_eq_iff {s word : String} (hword : ∀ l ∈ word.toList, IsCapital l) :
    uppercase s = word ↔ SpellsCapitals s.toList word.toList := by
  rw [← flatMap_capital_eq_iff hword, uppercase, ← String.toList_inj, String.toList_ofList]

/-! ## §4 ASCII texts -/

theorem flatMap_capital_of_ascii {cs : List Char} (h : ∀ c ∈ cs, c.toNat < 0x80) :
    cs.flatMap capital = cs.map Char.toUpper := by
  induction cs with
  | nil => rfl
  | cons c rest ih =>
    obtain ⟨hc, hrest⟩ := List.forall_mem_cons.mp h
    rw [List.flatMap_cons, List.map_cons, ih hrest, capital, if_pos hc]
    rfl

/-- Only ASCII letters are capital letters up to case. -/
theorem toNat_lt_of_isCapital_toUpper {c : Char} (h : IsCapital c.toUpper) : c.toNat < 0x80 := by
  by_contra hc
  have hsame : c.toUpper = c := by
    unfold Char.toUpper
    apply dif_neg
    intro hsmall
    exact hc (Nat.lt_of_le_of_lt hsmall.2 (by decide))
  rw [hsame] at h
  exact hc h.toNat_lt

section Ascii

variable {s word : String} (hword : ∀ l ∈ word.toList, IsCapital l)

include hword

theorem map_toUpper_eq_self : word.toList.map Char.toUpper = word.toList := by
  have hself : ∀ l ∈ word.toList, l.toUpper = l := by
    intro l hl
    exact ascii_forall (fun l => IsCapital l → l.toUpper = l) (by decide +kernel)
      (hword l hl).toNat_lt (hword l hl)
  rw [List.map_congr_left hself, List.map_id']

/-- Among ASCII texts, the texts that spell a word are those that are equal to it up to case. -/
theorem spellsCapitals_iff_of_ascii (hs : ∀ c ∈ s.toList, c.toNat < 0x80) :
    SpellsCapitals s.toList word.toList ↔ EqualUpToCase s word := by
  rw [← flatMap_capital_eq_iff hword, flatMap_capital_of_ascii hs, EqualUpToCase,
    map_toUpper_eq_self hword]

/-- A text that is equal to a word up to case is an ASCII text, and spells it. -/
theorem spellsCapitals_of_equalUpToCase (h : EqualUpToCase s word) :
    SpellsCapitals s.toList word.toList := by
  refine (spellsCapitals_iff_of_ascii hword fun c hc => ?_).mpr h
  apply toNat_lt_of_isCapital_toUpper
  apply hword
  rw [EqualUpToCase, map_toUpper_eq_self hword] at h
  rw [← h]
  exact List.mem_map_of_mem hc

end Ascii

end WebTrip.Text

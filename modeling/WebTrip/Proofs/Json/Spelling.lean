import WebTrip.Proofs.Json.Scanning

/-!
# Scanning any spelling

The scanner reads every text of the grammar as the tokens that are spelled by it, whatever blanks,
escapes and numerals it is made of.

## Main definitions

- `Extends`: a text that goes on with a number
- `commas`: tokens of several items, with commas between them

## Main statements

- `spells_string`: every spelling of a string is one token with the string as its content
- `exists_delimited_number`: every number is one token
- `spells_enclosed`, `delimited_member`: containers and their members
-/

namespace WebTrip.Json

/-! ## §1 Strings -/

theorem hexDigit?_of_isHexDigit {c : Char} {n : ℕ} (h : IsHexDigit c n) :
    hexDigit? c = some n := by
  have hlower : ∀ n < 16, ("0123456789abcdef".toList[n]?).bind hexDigit? = some n := by decide
  have hupper : ∀ n < 16, ("0123456789ABCDEF".toList[n]?).bind hexDigit? = some n := by decide
  rcases h with h | h
  · obtain ⟨hlt, -⟩ := List.getElem?_eq_some_iff.mp h
    rw [← hlower n hlt, h, Option.bind_some]
  · obtain ⟨hlt, -⟩ := List.getElem?_eq_some_iff.mp h
    rw [← hupper n hlt, h, Option.bind_some]

section String

variable (before : List Token) (l : Literal)

theorem read_unescaped {c : Char} (h : IsUnescaped c) :
    Scanner.read ⟨before, .string .plain l⟩ c = ⟨before, .string .plain (l.push c)⟩ := by
  obtain ⟨hquote, hslash, hcontrol⟩ := h
  simp [Scanner.read, Scanner.readString, hquote, hslash, Nat.not_lt.mpr hcontrol]

theorem foldl_read_short {letter c : Char} (h : (letter, c) ∈ shortEscapes) :
    ['\\', letter].foldl Scanner.read ⟨before, .string .plain l⟩ =
      ⟨before, .string .plain (l.push c)⟩ := by
  simp only [shortEscapes, List.mem_cons, Prod.mk.injEq, List.not_mem_nil, or_false] at h
  rcases h with ⟨rfl, rfl⟩ | ⟨rfl, rfl⟩ | ⟨rfl, rfl⟩ | ⟨rfl, rfl⟩ | ⟨rfl, rfl⟩ | ⟨rfl, rfl⟩ |
    ⟨rfl, rfl⟩ | ⟨rfl, rfl⟩ <;> rfl

/-- Four hexadecimal digits are taken for the number they spell. -/
theorem foldl_read_numericEscape {text : String} {n : ℕ} (h : NumericEscape text n) :
    text.toList.foldl Scanner.read ⟨before, .string .plain l⟩ =
      ⟨before, .string .plain (l.pushUnit n)⟩ := by
  cases h with
  | digits ha hb hc hd =>
    simp only [String.toList_ofList, List.foldl_cons, List.foldl_nil, Scanner.read,
      Scanner.readString, hexDigit?_of_isHexDigit ha, hexDigit?_of_isHexDigit hb,
      hexDigit?_of_isHexDigit hc, hexDigit?_of_isHexDigit hd]
    simp

/-- A number that is a character's is taken for that character. -/
theorem pushUnit_toNat (content : List Char) (c : Char) :
    Literal.pushUnit ⟨content, none, true⟩ c.toNat = ⟨c :: content, none, true⟩ := by
  have hvalid : c.toNat < 0xd800 ∨ 0xdfff < c.toNat := by
    rcases c.valid with h | h
    · exact .inl h
    · exact .inr h.1
  unfold Literal.pushUnit
  rw [if_neg (by omega), if_neg (by omega), Char.ofNat_toNat]
  rfl

/-- Two surrogates are taken for the character they are the halves of. -/
theorem pushUnit_surrogates (content : List Char) {c : Char} {high low : ℕ} (hhigh : 0xd800 ≤ high)
    (hhigh' : high < 0xdc00) (hlow : 0xdc00 ≤ low) (hlow' : low < 0xe000)
    (hc : c.toNat = 0x10000 + (high - 0xd800) * 0x400 + (low - 0xdc00)) :
    (Literal.pushUnit ⟨content, none, true⟩ high).pushUnit low = ⟨c :: content, none, true⟩ := by
  have hpending : Literal.pushUnit ⟨content, none, true⟩ high = ⟨content, some high, true⟩ := by
    unfold Literal.pushUnit
    rw [if_neg (by omega), if_pos (by omega)]
    rfl
  rw [hpending]
  unfold Literal.pushUnit
  rw [if_pos (by omega)]
  simp only [← hc, Char.ofNat_toNat]

/-- Every spelling of a character is taken for that character. -/
theorem foldl_read_spellsChar (content : List Char) {c : Char} {text : String}
    (h : SpellsChar c text) :
    text.toList.foldl Scanner.read ⟨before, .string .plain ⟨content, none, true⟩⟩ =
      ⟨before, .string .plain ⟨c :: content, none, true⟩⟩ := by
  cases h with
  | itself hc =>
    rw [String.toList_singleton, List.foldl_cons, List.foldl_nil, read_unescaped before _ hc]
    rfl
  | short hletter =>
    rw [String.toList_ofList, foldl_read_short before _ hletter]
    rfl
  | numeric hnumeric => rw [foldl_read_numericEscape before _ hnumeric, pushUnit_toNat]
  | surrogates htext htext' hhigh hhigh' hlow hlow' hc =>
    rw [String.toList_append, List.foldl_append, foldl_read_numericEscape before _ htext,
      foldl_read_numericEscape before _ htext',
      pushUnit_surrogates content hhigh hhigh' hlow hlow' hc]

/-- Every piece of a string is read. Whether it makes a character is seen at the end only. -/
theorem exists_foldl_read_piece {piece : String} (h : IsPiece piece) :
    ∃ l' : Literal, ∀ before, piece.toList.foldl Scanner.read ⟨before, .string .plain l⟩ =
      ⟨before, .string .plain l'⟩ := by
  cases h with
  | @itself c hc =>
    refine ⟨l.push c, fun before => ?_⟩
    rw [String.toList_singleton, List.foldl_cons, List.foldl_nil, read_unescaped before l hc]
  | @short letter c hletter =>
    refine ⟨l.push c, fun before => ?_⟩
    rw [String.toList_ofList, foldl_read_short before l hletter]
  | numeric hnumeric => exact ⟨_, fun before => foldl_read_numericEscape before l hnumeric⟩

end String

/-- What stands between two quotes is one token. -/
theorem spells_quoted {content : String} {l : Literal}
    (h : ∀ before, content.toList.foldl Scanner.read ⟨before, .string .plain {}⟩ =
      ⟨before, .string .plain l⟩) :
    Spells ("\"" ++ content ++ "\"") [.string l.value] := by
  intro before
  have hopen : Scanner.read ⟨before, .between⟩ '\"' = ⟨before, .string .plain {}⟩ := rfl
  have hclose : Scanner.read ⟨before, .string .plain l⟩ '\"' =
      ⟨.string l.value :: before, .between⟩ := rfl
  have hquote : "\"".toList = ['\"'] := rfl
  simp only [String.toList_append, List.foldl_append, hquote, List.foldl_cons, List.foldl_nil,
    hopen, h, hclose]
  rfl

/-- **Strings.** Every spelling of a string is one token, and its content is the string. -/
theorem spells_string {s text : String} (h : SpellsString s text) :
    Spells text [.string (some s)] := by
  obtain ⟨pieces, hpieces, rfl⟩ := h
  -- the content so far is kept latest first, and no surrogate is pending between two characters
  have hread : ∀ (content : List Char) (before : List Token),
      (String.join pieces).toList.foldl Scanner.read
          ⟨before, .string .plain ⟨content, none, true⟩⟩ =
        ⟨before, .string .plain ⟨s.toList.reverse ++ content, none, true⟩⟩ := by
    generalize s.toList = cs at hpieces
    induction hpieces with
    | nil => exact fun content before => rfl
    | cons hfirst _ ih =>
      intro content before
      rw [String.join_cons, String.toList_append, List.foldl_append,
        foldl_read_spellsChar before content hfirst, ih, List.reverse_cons, List.append_assoc]
      rfl
  have hstring := spells_quoted (hread [])
  have hvalue : Literal.value ⟨s.toList.reverse ++ [], none, true⟩ = some s := by
    simp [Literal.value]
  rwa [hvalue] at hstring

/-- Any string is one token, which may be without content. -/
theorem exists_spells_string {text : String} (h : IsString text) :
    ∃ content, Spells text [.string content] := by
  obtain ⟨pieces, hpieces, rfl⟩ := h
  -- a surrogate may be pending between two pieces, so that the literal is any one
  have hread : ∀ l : Literal, ∃ l' : Literal, ∀ before,
      (String.join pieces).toList.foldl Scanner.read ⟨before, .string .plain l⟩ =
        ⟨before, .string .plain l'⟩ := by
    induction pieces with
    | nil => exact fun l => ⟨l, fun before => rfl⟩
    | cons piece rest ih =>
      intro l
      obtain ⟨hpiece, hrest⟩ := List.forall_mem_cons.mp hpieces
      obtain ⟨l₁, h₁⟩ := exists_foldl_read_piece l hpiece
      obtain ⟨l₂, h₂⟩ := ih hrest l₁
      refine ⟨l₂, fun before => ?_⟩
      rw [String.join_cons, String.toList_append, List.foldl_append, h₁, h₂]
  obtain ⟨l, hl⟩ := hread {}
  exact ⟨l.value, spells_quoted hl⟩

/-! ## §2 Numbers -/

/-- From a part of a number the scanner gets to another part by reading the text. -/
def Extends (text : String) (part part' : NumberPart) : Prop :=
  ∀ numeral : Numeral, ∃ numeral' : Numeral, ∀ before,
    text.toList.foldl Scanner.read ⟨before, .number part numeral⟩ =
      ⟨before, .number part' numeral'⟩

theorem Extends.append {a b : String} {part part' part'' : NumberPart} (ha : Extends a part part')
    (hb : Extends b part' part'') : Extends (a ++ b) part part'' := by
  intro numeral
  obtain ⟨numeral', ha⟩ := ha numeral
  obtain ⟨numeral'', hb⟩ := hb numeral'
  refine ⟨numeral'', fun before => ?_⟩
  rw [String.toList_append, List.foldl_append, ha, hb]

theorem extends_empty (part : NumberPart) : Extends "" part part :=
  fun numeral => ⟨numeral, fun _ => rfl⟩

theorem read_number {part part' : NumberPart} {numeral numeral' : Numeral} {c : Char}
    (h : numeral.extend part c = some (numeral', part')) (before : List Token) :
    Scanner.read ⟨before, .number part numeral⟩ c = ⟨before, .number part' numeral'⟩ := by
  simp only [Scanner.read, h]

/-- Further digits stay in a part that may go on with digits. -/
theorem exists_foldl_read_digits {part : NumberPart}
    (hstay : ∀ (numeral : Numeral) (c : Char), '0' ≤ c ∧ c ≤ '9' →
      ∃ numeral', numeral.extend part c = some (numeral', part))
    {digits : List Char} (hdigits : ∀ c ∈ digits, '0' ≤ c ∧ c ≤ '9') (numeral : Numeral) :
    ∃ numeral' : Numeral, ∀ before,
      digits.foldl Scanner.read ⟨before, .number part numeral⟩ =
        ⟨before, .number part numeral'⟩ := by
  induction digits generalizing numeral with
  | nil => exact ⟨numeral, fun _ => rfl⟩
  | cons c rest ih =>
    obtain ⟨hc, hrest⟩ := List.forall_mem_cons.mp hdigits
    obtain ⟨next, hnext⟩ := hstay numeral c hc
    obtain ⟨last, hlast⟩ := ih hrest next
    exact ⟨last, fun before => by rw [List.foldl_cons, read_number hnext, hlast]⟩

/-- The first digit leads into a part, and the others stay there. -/
theorem extends_digits {text : String} {part part' : NumberPart} (h : IsDigits text)
    (hfirst : ∀ (numeral : Numeral) (c : Char), text.toList.head? = some c → '0' ≤ c ∧ c ≤ '9' →
      ∃ numeral', numeral.extend part c = some (numeral', part'))
    (hstay : ∀ (numeral : Numeral) (c : Char), '0' ≤ c ∧ c ≤ '9' →
      ∃ numeral', numeral.extend part' c = some (numeral', part')) :
    Extends text part part' := by
  obtain ⟨hne, hdigits⟩ := h
  intro numeral
  cases hchars : text.toList with
  | nil => exact absurd (String.toList_eq_nil_iff.mp hchars) hne
  | cons c rest =>
    rw [hchars] at hdigits hfirst
    obtain ⟨hc, hrest⟩ := List.forall_mem_cons.mp hdigits
    obtain ⟨first, hread⟩ := hfirst numeral c rfl hc
    obtain ⟨last, hlast⟩ := exists_foldl_read_digits hstay hrest first
    exact ⟨last, fun before => by rw [List.foldl_cons, read_number hread, hlast]⟩

theorem exists_extends_whole {text : String} (h : IsWhole text) :
    ∃ part, (part = .leadingZero ∨ part = .integer) ∧ Extends text .minus part := by
  rcases h with rfl | ⟨hdigits, hzero⟩
  · exact ⟨.leadingZero, .inl rfl, fun numeral => ⟨numeral, fun _ => rfl⟩⟩
  · refine ⟨.integer, .inr rfl, extends_digits hdigits ?_ ?_⟩
    · intro numeral c hc hdigit
      have hne : c ≠ '0' := by
        rintro rfl
        exact hzero hc
      simp [Numeral.extend, hne, hdigit]
    · intro numeral c hdigit
      simp [Numeral.extend, hdigit]

theorem exists_extends_fraction {text : String} (h : IsFraction text) {part : NumberPart}
    (hpart : part = .leadingZero ∨ part = .integer) :
    ∃ part', (part' = .leadingZero ∨ part' = .integer ∨ part' = .fraction) ∧
      Extends text part part' := by
  rcases h with rfl | ⟨digits, hdigits, rfl⟩
  · exact ⟨part, by tauto, extends_empty part⟩
  · have hpoint : Extends "." part .point := by
      intro numeral
      rcases hpart with rfl | rfl <;> exact ⟨_, fun _ => rfl⟩
    refine ⟨.fraction, .inr (.inr rfl), hpoint.append (extends_digits hdigits ?_ ?_)⟩
    · intro numeral c _ hdigit
      simp [Numeral.extend, hdigit]
    · intro numeral c hdigit
      simp [Numeral.extend, hdigit]

theorem exists_extends_exponent {text : String} (h : IsExponent text) {part : NumberPart}
    (hpart : part = .leadingZero ∨ part = .integer ∨ part = .fraction) :
    ∃ part', part'.isFinal = true ∧ Extends text part part' := by
  rcases h with rfl | ⟨mark, sign, digits, hmark, hsign, hdigits, rfl⟩
  · exact ⟨part, by rcases hpart with rfl | rfl | rfl <;> rfl, extends_empty part⟩
  · have hmark' : Extends mark part .mark := by
      intro numeral
      rcases hmark with rfl | rfl <;> rcases hpart with rfl | rfl | rfl <;>
        exact ⟨_, fun _ => rfl⟩
    have hdigits' : ∀ part, part = .mark ∨ part = .markSign → Extends digits part .exponent := by
      intro part hpart
      refine extends_digits hdigits ?_ ?_
      · intro numeral c _ hdigit
        rcases hpart with rfl | rfl <;> simp [Numeral.extend, hdigit]
      · intro numeral c hdigit
        simp [Numeral.extend, hdigit]
    refine ⟨.exponent, rfl, ?_⟩
    rcases hsign with rfl | rfl | rfl
    · rw [String.append_empty]
      exact hmark'.append (hdigits' .mark (.inl rfl))
    · have hplus : Extends "+" .mark .markSign := fun numeral => ⟨_, fun _ => rfl⟩
      exact (hmark'.append hplus).append (hdigits' .markSign (.inr rfl))
    · have hminus : Extends "-" .mark .markSign := fun numeral => ⟨_, fun _ => rfl⟩
      exact (hmark'.append hminus).append (hdigits' .markSign (.inr rfl))

/-- A number that may end does so before a delimiter. -/
theorem read_number_delimiter {part : NumberPart} (hpart : part.isFinal = true) (numeral : Numeral)
    {c : Char} (hc : IsDelimiter c) (before : List Token) :
    Scanner.read ⟨before, .number part numeral⟩ c =
      Scanner.read ⟨.number numeral :: before, .between⟩ c := by
  have hends : numeral.extend part c = none ∧ part.endsBefore c = true := by
    simp only [IsDelimiter, List.mem_cons, List.not_mem_nil, or_false] at hc
    cases part <;> cases hpart <;> rcases hc with rfl | rfl | rfl | rfl | rfl | rfl | rfl <;>
      exact ⟨rfl, rfl⟩
  simp only [Scanner.read, hends.1, hends.2, if_true]
  rfl

/-- A digit between two tokens begins a number as it would behind a sign. -/
theorem read_first_digit {c : Char} (h : '0' ≤ c ∧ c ≤ '9') (before : List Token) :
    Scanner.read ⟨before, .between⟩ c = Scanner.read ⟨before, .number .minus {}⟩ c := by
  have hother : ∀ other : Char, ¬ ('0' ≤ other ∧ other ≤ '9') → c ≠ other := by
    rintro other hother rfl
    exact hother h
  obtain ⟨⟨numeral, part⟩, hnext⟩ : ∃ next, Numeral.extend {} .minus c = some next := by
    by_cases hzero : c = '0'
    · exact ⟨_, by rw [Numeral.extend, if_pos hzero]⟩
    · exact ⟨_, by rw [Numeral.extend, if_neg hzero, if_pos h]⟩
  have hstart : Scanner.start ⟨before, .between⟩ c = ⟨before, .number part numeral⟩ := by
    unfold Scanner.start
    simp only [hother ' ' (by decide), hother '\t' (by decide), hother '\n' (by decide),
      hother '\r' (by decide), hother '[' (by decide), hother ']' (by decide),
      hother '\x7b' (by decide), hother '\x7d' (by decide), hother ',' (by decide),
      hother ':' (by decide), hother '\"' (by decide), hother 'n' (by decide),
      hother 't' (by decide), hother 'f' (by decide), hother '-' (by decide), or_self, if_false,
      hnext]
  rw [read_number hnext]
  exact hstart

theorem exists_first_digit {text : String} (h : IsWhole text) :
    ∃ c rest, text.toList = c :: rest ∧ '0' ≤ c ∧ c ≤ '9' := by
  rcases h with rfl | ⟨⟨hne, hdigits⟩, -⟩
  · exact ⟨'0', [], rfl, by decide⟩
  · cases hchars : text.toList with
    | nil => exact absurd (String.toList_eq_nil_iff.mp hchars) hne
    | cons c rest => exact ⟨c, rest, rfl, hdigits c (by simp [hchars])⟩

/-- **Numbers.** Every number is one token. -/
theorem exists_delimited_number {text : String} (h : IsNumber text) :
    ∃ numeral, Delimited text [.number numeral] := by
  obtain ⟨sign, whole, fraction, exponent, hsign, hwhole, hfraction, hexponent, rfl⟩ := h
  obtain ⟨part₁, hpart₁, h₁⟩ := exists_extends_whole hwhole
  obtain ⟨part₂, hpart₂, h₂⟩ := exists_extends_fraction hfraction hpart₁
  obtain ⟨part₃, hfinal, h₃⟩ := exists_extends_exponent hexponent hpart₂
  have hrest := (h₁.append h₂).append h₃
  -- with a sign or without, the scanner is where a whole part may begin
  obtain ⟨start, hstart⟩ : ∃ start : Numeral, ∀ before,
      (sign ++ whole ++ fraction ++ exponent).toList.foldl Scanner.read ⟨before, .between⟩ =
        (whole ++ fraction ++ exponent).toList.foldl Scanner.read
          ⟨before, .number .minus start⟩ := by
    rcases hsign with rfl | rfl
    · obtain ⟨c, rest, hchars, hc⟩ := exists_first_digit hwhole
      refine ⟨{}, fun before => ?_⟩
      simp only [String.empty_append, String.toList_append, hchars, List.cons_append,
        List.foldl_cons, read_first_digit hc]
    · refine ⟨{ negative := true }, fun before => ?_⟩
      rw [String.append_assoc, String.append_assoc, String.toList_append, List.foldl_append,
        ← String.append_assoc]
      rfl
  obtain ⟨numeral, hnumeral⟩ := hrest start
  refine ⟨numeral, fun before c hc => ?_⟩
  rw [hstart, hnumeral, read_number_delimiter hfinal numeral hc]
  rfl

/-! ## §3 Containers -/

/-- Two lists that go along with a third one go along with each other. -/
theorem forall₂_along {α β γ : Type} {R : α → β → Prop} {S : α → γ → Prop} {T : β → γ → Prop}
    {as : List α} {bs : List β} {cs : List γ} (hb : List.Forall₂ R as bs)
    (hc : List.Forall₂ S as cs) (h : ∀ a b c, R a b → S a c → T b c) : List.Forall₂ T bs cs := by
  induction hb generalizing cs with
  | nil => cases hc; exact .nil
  | cons hfirst _ ih =>
    cases hc with
    | cons hother hrest => exact .cons (h _ _ _ hfirst hother) (ih hrest)

/-- The tokens of several items, with commas between them. -/
def commas (items : List (List Token)) : List Token :=
  [Token.comma].intercalate items

theorem commas_cons (first : List Token) (rest : List (List Token)) :
    commas (first :: rest) = first ++ rest.flatMap (.comma :: ·) := by
  induction rest generalizing first with
  | nil => simp [commas]
  | cons second rest ih =>
    have hstep : commas (first :: second :: rest) = first ++ .comma :: commas (second :: rest) := by
      simp [commas, List.intercalate_cons_cons]
    rw [hstep, ih, List.flatMap_cons, List.cons_append]

theorem spells_comma : Spells "," [.comma] := fun _ => rfl

variable {texts : List String} {items : List (List Token)}

/-- Texts between commas. The last one is still to be delimited. -/
theorem delimited_intercalate (h : List.Forall₂ Delimited texts items) (hne : texts ≠ []) :
    Delimited (",".intercalate texts) (commas items) := by
  have hcomma : StartsDelimited "," := ⟨',', [], rfl, by simp [IsDelimiter]⟩
  induction h with
  | nil => exact absurd rfl hne
  | cons htext hrest ih =>
    cases hrest with
    | nil => simpa [commas] using htext
    | cons hsecond hrest =>
      rw [String.intercalate_cons_cons, commas, List.intercalate_cons_cons]
      exact (htext.append spells_comma hcomma).append_delimited (ih (List.cons_ne_nil _ _))

/-- **Containers.** The closing mark delimits the last item. -/
theorem spells_enclosed {opening closing text : String} {first last : Token}
    (hopening : Spells opening [first]) (hclosing : Spells closing [last])
    (hend : StartsDelimited closing) (hitems : List.Forall₂ Delimited texts items)
    (h : Enclosed opening closing texts text) :
    Spells text (first :: commas items ++ [last]) := by
  cases h with
  | empty hblanks =>
    -- no item that the closing mark would delimit
    cases hitems
    exact (hopening.append (spells_blanks hblanks)).append hclosing
  | @items texts padded hne hpadded =>
    have hdelimited : List.Forall₂ Delimited padded items :=
      forall₂_along hpadded hitems fun _ _ _ hpadded hitem => hitem.padded hpadded
    have hne' : padded ≠ [] := by
      rintro rfl
      cases hpadded
      exact hne rfl
    have hinside := hopening.append_delimited (delimited_intercalate hdelimited hne')
    exact hinside.append hclosing hend

theorem delimited_member {name value text : String} {content : Option String}
    {tokens : List Token} (hname : Spells name [.string content]) (hvalue : Delimited value tokens)
    (h : IsMember name value text) : Delimited text (.string content :: .colon :: tokens) := by
  obtain ⟨before, after, hbefore, hafter, rfl⟩ := h
  have hcolon : Spells ":" [.colon] := fun _ => rfl
  have hfront := ((hname.append (spells_blanks hbefore)).append hcolon).append
    (spells_blanks hafter)
  exact hfront.append_delimited hvalue

end WebTrip.Json

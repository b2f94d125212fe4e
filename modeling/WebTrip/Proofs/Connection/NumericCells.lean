import WebTrip.Connection.Cell
import WebTrip.Proofs.Number.DecimalDouble
import WebTrip.Proofs.Number.WrittenDecimals
import WebTrip.Proofs.Schema.NumericStrings

/-!
# Decimals in cells and in strings

A decimal comes to a client in two ways: in a cell of a numeric column, or as a string where a
schema asks for a number. Either way it is the same JSON number. It is always a number: the text of
the decimal, which a cell would fall back to, is never needed, since a decimal that is no integer of
64 bits has a binary64 form.

## Main definitions

- `Cell.Holds`: a cell of a numeric column holds a decimal

## Main statements

- `Text.decodeUtf8_ascii`: bytes of ASCII characters are decoded one by one
- `Json.Number.exists_ofDecimal?`: every decimal stands for a number
- `Cell.decode_of_holds`: what a cell that holds a decimal is decoded into
- `Schema.validate_written`: what the text of a decimal is cast to
- `numeric_cell_cast`: the two agree
-/

namespace WebTrip

open WebTrip.Json WebTrip.Text

/-! ## §1 ASCII characters -/

namespace Text

/-- A byte below 128 is a character of its own. -/
theorem decodeUtf8From_ascii {cs : List Char} (h : ∀ c ∈ cs, c.toNat < 0x80) (index : ℕ)
    (done : List Char) :
    decodeUtf8From index done (cs.map Char.toNat) = .ok (done.reverse ++ cs) := by
  induction cs generalizing index done with
  | nil =>
    rw [List.map_nil, decodeUtf8From, List.append_nil]
  | cons c cs ih =>
    obtain ⟨hc, hcs⟩ := List.forall_mem_cons.mp h
    have hlead : leadLength? c.toNat = some 1 := if_pos hc
    have hstep : decodeUtf8From index done (c.toNat :: cs.map Char.toNat) =
        decodeUtf8From (index + 1) (Char.ofNat c.toNat :: done) (cs.map Char.toNat) := by
      conv_lhs => unfold decodeUtf8From
      simp only [hlead]
    rw [List.map_cons, hstep, ih hcs, Char.ofNat_toNat, List.reverse_cons, List.append_assoc]
    rfl

theorem decodeUtf8_ascii {text : String} (h : ∀ c ∈ text.toList, c.toNat < 0x80) :
    decodeUtf8 (text.toList.map Char.toNat) = .ok text := by
  rw [decodeUtf8, decodeUtf8From_ascii h]
  show Except.ok (String.ofList text.toList) = _
  rw [String.ofList_toList]

end Text

/-- The characters of a spelling are ASCII characters. -/
theorem PlainSpelling.toNat_lt_of_mem {p : PlainSpelling} {c : Char} (h : c ∈ p.chars) :
    c.toNat < 0x80 := by
  have hdigit : ∀ d : Fin 10, (digitChar d).toNat < 0x80 := by decide
  rcases p.mem_chars h with hpunctuation | ⟨d, rfl⟩
  · simp only [isPunctuation, Bool.or_eq_true, beq_iff_eq] at hpunctuation
    rcases hpunctuation with (rfl | rfl) | rfl <;> simp
  · exact hdigit d

/-! ## §2 The number of a decimal -/

section Decimals

variable (d : Decimal)

/-- **No decimal without a number.** It is an integer that fits 64 bits or it has a binary64
form. -/
theorem Json.Number.exists_ofDecimal? : ∃ n, Number.ofDecimal? false d = some n := by
  unfold Number.ofDecimal?
  cases d.whole?.bind Number.ofInt? with
  | some n => exact ⟨n, rfl⟩
  | none =>
    obtain ⟨x, hx⟩ := d.exists_toDouble
    exact ⟨.float x, by rw [hx]; rfl⟩

theorem Decimal.toNat_lt_of_mem_written : ∀ c ∈ d.written.toList, c.toNat < 0x80 := by
  obtain ⟨p, hwritten, -⟩ := d.exists_spelling
  rw [hwritten, String.toList_ofList]
  intro c hc
  exact PlainSpelling.toNat_lt_of_mem hc

theorem Decimal.trim_written : trim d.written = d.written := by
  obtain ⟨p, hwritten, -⟩ := d.exists_spelling
  let l : Spelling := ⟨p, none⟩
  have hl : d.written = l.text := by simp [hwritten, l, Spelling.text]
  rw [hl, l.trim_text]

/-- The text of a decimal spells the number that the decimal stands for. -/
theorem Schema.numberOfText?_written (integerOnly : Bool) :
    numberOfText? integerOnly d.written = Number.ofDecimal? integerOnly d := by
  have hread : Decimal.read? d.written = some d := by
    rw [Decimal.read?, d.read_written]
  rw [numberOfText?, d.trim_written, hread, Option.bind_some]

variable {d} {n : Number} (hn : Number.ofDecimal? false d = some n)

include hn in
/-- The text of a decimal is cast to the number of the decimal. -/
theorem Schema.validate_written :
    (Schema.number true false).validate (.string d.written) = .ok (.number n) := by
  apply validate_numeric_string
  rw [numberOfText?_written, hn]

/-! ## §3 Cells -/

/-- A cell of a numeric column whose text is read as a decimal. -/
def Cell.Holds (cell : Cell) (d : Decimal) : Prop :=
  cell.type = "NUMERIC" ∧ ∃ bytes text, cell.content = some bytes ∧
    decodeUtf8 bytes = .ok text ∧ Decimal.read text = .ok d

include hn in
/-- A cell that holds a decimal is decoded into the number of the decimal. -/
theorem Cell.decode_of_holds {cell : Cell} (h : cell.Holds d) : cell.decode = .ok (.number n) := by
  obtain ⟨htype, bytes, text, hcontent, hbytes, htext⟩ := h
  have hvalue : decimalValue d = .number n := by rw [decimalValue, hn]
  have hnumeric : readNumeric text = .ok (.number n) := by
    simp only [readNumeric, htext, hvalue]
  have hcell : readCell "NUMERIC" text = readNumeric text := by rfl
  simp only [decode, hcontent, hbytes]
  rw [htype, hcell, hnumeric]

/-- A numeric column with the text of a decimal. -/
def Cell.ofDecimal (column : String) (d : Decimal) : Cell where
  column := column
  type := "NUMERIC"
  content := some (d.written.toList.map Char.toNat)

theorem Cell.holds_ofDecimal (column : String) (d : Decimal) : (ofDecimal column d).Holds d :=
  ⟨rfl, _, _, rfl, decodeUtf8_ascii d.toNat_lt_of_mem_written, d.read_written⟩

end Decimals

/-- **Cells and strings agree.** A decimal is the same number wherever it comes from: every cell
that holds it is decoded into the number that its text is cast to, and each column can have such a
cell. -/
theorem numeric_cell_cast (d : Decimal) :
    ∃ n, (Schema.number true false).validate (.string d.written) = .ok (.number n) ∧
      (∀ cell : Cell, cell.Holds d → cell.decode = .ok (.number n)) ∧
      ∀ column, (Cell.ofDecimal column d).Holds d := by
  obtain ⟨n, hn⟩ := Number.exists_ofDecimal? d
  refine ⟨n, Schema.validate_written hn, ?_, fun column => Cell.holds_ofDecimal column d⟩
  intro cell hcell
  exact Cell.decode_of_holds hn hcell

/-- `-7.9228162514264337593543950335`, with the greatest mantissa and all places. -/
def leastWithAllPlaces : Decimal :=
  ⟨true, 2 ^ 96 - 1, 28, by decide, by decide⟩

/-- A numeric cell with zeros that the text of the decimal does not have. -/
def paddedCell : Cell where
  column := "total"
  type := "NUMERIC"
  content := some ("-007.9228162514264337593543950335".toList.map Char.toNat)

theorem numeric_cell_cast_padded :
    paddedCell.Holds leastWithAllPlaces ∧
      (Schema.number true false).validate (.string "-7.9228162514264337593543950335") =
        .ok (.number (.float ⟨true, 8920298079412249, -50, by decide⟩)) ∧
      paddedCell.decode = .ok (.number (.float ⟨true, 8920298079412249, -50, by decide⟩)) := by
  have hwritten : leastWithAllPlaces.written = "-7.9228162514264337593543950335" := by rfl
  have hholds : paddedCell.Holds leastWithAllPlaces :=
    ⟨rfl, _, "-007.9228162514264337593543950335", rfl, by rfl, by rfl⟩
  have hcast : (Schema.number true false).validate (.string leastWithAllPlaces.written) =
      .ok (.number (.float ⟨true, 8920298079412249, -50, by decide⟩)) := by rfl
  obtain ⟨n, hstring, hcells, -⟩ := numeric_cell_cast leastWithAllPlaces
  -- the number is the one of the string, and so the cell need not be computed
  cases hcast.symm.trans hstring
  rw [hwritten] at hcast
  exact ⟨hholds, hcast, hcells paddedCell hholds⟩

end WebTrip

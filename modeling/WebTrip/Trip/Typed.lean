import WebTrip.Json.Failure
import WebTrip.Trip.Run

/-!
# Typed rows

Validated rows are read into a list of rows whose columns all have one type.

* `ColumnType` names the types of columns, `ColumnType.rowsName` that of the rows in full.
* `RowType` is the type of rows, which may be one of the caller's own.
* `RowType.read` reads the validated rows; the cause of a failure is that of the first cell that
  does not have the type.
* `Trip.extrapolate` runs a trip and reads its rows.
-/

namespace WebTrip

open WebTrip.Json

/-! ## §1 Types -/

/-- The type of all columns of a row. -/
inductive ColumnType where
  | string
  | integer
  | float
  /-- A truth value or null. -/
  | maybeBool
  deriving DecidableEq

/-- The type of rows. -/
inductive RowType where
  /-- Any value. -/
  | anything
  /-- Rows whose columns have one type. -/
  | columns (type : ColumnType)
  /-- A type of the caller's own: its full name, and how it is read. What is read is given as the
  data it stands for, and a failure as its message. -/
  | own (name : String) (read : Value → Except String Value)

/-- The full name of a column type. -/
def ColumnType.typeName : ColumnType → String
  | .string => "alloc::string::String"
  | .integer => "i64"
  | .float => "f64"
  | .maybeBool => "core::option::Option<bool>"

/-- The full name of the type of rows whose columns have a type. -/
def ColumnType.rowsName (type : ColumnType) : String :=
  "alloc::vec::Vec<alloc::collections::btree::map::BTreeMap<alloc::string::String, "
    ++ type.typeName ++ ">>"

/-! ## §2 Reading -/

/-- What a value is, in place of what is wanted. -/
def foundOf : Value → Found
  | .null => .null
  | .bool b => .bool b
  | .number n => .number n
  | .string s => .string s
  | .array _ => .sequence
  | .object _ => .map

/-- A value is not of the type that is wanted. -/
def wrongType {α : Type} (v : Value) (wanted : String) : Except Json.DataError α :=
  .error (.wrongType (foundOf v) wanted)

/-- Reads a cell. An integer column takes integers of 64 signed bits; a float column takes integers
too and rounds them. -/
def ColumnType.read : ColumnType → Value → Except Json.DataError Value
  | .string, .string s => .ok (.string s)
  | .string, v => wrongType v "a string"
  | .integer, .number (.integer n fits) =>
    if n < 2 ^ 63 then .ok (.number (.integer n fits)) else .error (.wrongValue n "i64")
  | .integer, v => wrongType v "i64"
  | .float, .number (.integer n fits) =>
    match Double.ofInt n with
    | some x => .ok (.number (.float x))
    | none => wrongType (.number (.integer n fits)) "f64"
  | .float, .number (.float x) => .ok (.number (.float x))
  | .float, v => wrongType v "f64"
  | .maybeBool, .null => .ok .null
  | .maybeBool, .bool b => .ok (.bool b)
  | .maybeBool, v => wrongType v "a boolean"

/-- Reads a row. -/
def ColumnType.readRow (type : ColumnType) : Value → Except Json.DataError Value
  | .object fields => do
    let cells ← fields.mapM fun (name, v) => return (name, ← type.read v)
    return .object cells
  | v => wrongType v "a map"

/-- Reads a list of rows. -/
def ColumnType.readRows (type : ColumnType) : Value → Except Json.DataError Value
  | .array rows => .array <$> rows.mapM type.readRow
  | v => wrongType v "a sequence"

/-- Reads validated rows. A value that does not have the type is a mismatch at the root. -/
def RowType.read : RowType → Value → Except ValidationError Value
  | .anything, v => .ok v
  | .columns type, v =>
    match type.readRows v with
    | .ok typed => .ok typed
    | .error cause => .error ⟨"$", type.rowsName, cause.message⟩
  | .own name read, v =>
    match read v with
    | .ok typed => .ok typed
    | .error message => .error ⟨"$", name, message⟩

/-! ## §3 Typed runs -/

/-- Reads the result of a run. -/
def readTyped (type : RowType) (result : Except Error Value) : Except Error Value := do
  let v ← result
  (type.read v).mapError .validation

/-- **Running a trip for typed rows.** Whenever the run fails, its own error is the result. -/
def Trip.extrapolate {m : Type → Type} [Monad m] (executor : Executor m) (type : RowType)
    (schema : Schema) (t : Trip) : m (Except Error Value) := do
  return readTyped type (← t.run executor schema)

end WebTrip

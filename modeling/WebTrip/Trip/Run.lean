import WebTrip.Error
import WebTrip.Trip.Call

/-!
# Running trips

A trip is run by an executor, which takes the text of a program and answers with rows or an error.
The rows are validated as one JSON array.

* `Executor` is the capability to run programs, in any monad.
* `Trip.run` compiles, sends and validates.
-/

namespace WebTrip

open WebTrip.Json

/-- A result row: its columns in ascending order of their names. -/
abbrev Row := Fields

/-- The rows of a result as one value. -/
def rowsValue (rows : List Row) : Value :=
  .array (rows.map .object)

/-- Something that runs programs. -/
structure Executor (m : Type → Type) where
  /-- Runs a program and answers with its rows. -/
  execute : String → m (Except Error (List Row))

/-- Validates rows against a schema. -/
def validateRows (schema : Schema) (rows : List Row) : Except Error Value :=
  match schema.validate (rowsValue rows) with
  | .ok v => .ok v
  | .error mismatch => .error (.validation mismatch.report)

namespace Trip

/-- **Running a trip.** The program is sent once. An error of the executor is the result, and the
schema is not looked at; otherwise the result is the cast of the rows, or the first mismatch. -/
def run {m : Type → Type} [Monad m] (executor : Executor m) (schema : Schema) (t : Trip) :
    m (Except Error Value) := do
  match ← executor.execute t.program with
  | .error e => return .error e
  | .ok rows => return validateRows schema rows

end Trip

end WebTrip

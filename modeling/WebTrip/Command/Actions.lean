import WebTrip.Command.Docs
import WebTrip.Command.Error
import WebTrip.Instruction.Json
import WebTrip.Program
import WebTrip.Trip.Run

/-!
# What the commands do

Each command is a function on texts.

* `compilePlan` compiles a log of instructions that is given as JSON.
* `documentation` finds the page of an operation.
* `executeQuery` runs a program and writes its rows as JSON.
-/

namespace WebTrip

open WebTrip.Json WebTrip.Text

/-- **Compiling a plan.** The program of the log that a JSON text spells. -/
def compilePlan (plan : String) : Except CommandError String :=
  if isBlankText plan then .error .noInput
  else match Instruction.parseLog plan with
    | .ok log => .ok (compile .topLevel log)
    | .error cause => .error (.invalidPlan cause)

/-- The page on the operation with a name. -/
def documentation (name : String) : Except CommandError String :=
  match Operation.ofName? name with
  | some op => .ok (Docs.page op)
  | none => .error (.unknownOperation name)

/-- Rows as JSON text. -/
def renderRows (pretty : Bool) (rows : List Row) : String :=
  if pretty then (rowsValue rows).pretty else (rowsValue rows).compact

/-- **Executing a query.** A blank one is refused; any other is sent once, without the blanks around
it. -/
def executeQuery {m : Type → Type} [Monad m] (executor : Executor m) (pretty : Bool)
    (query : String) : m (Except CommandError String) := do
  if isBlankText query then return .error .noInput
  else
    match ← executor.execute (trim query) with
    | .error e => return .error (.trip e)
    | .ok rows => return .ok (renderRows pretty rows)

end WebTrip

import WebTrip.Error
import WebTrip.Json.Failure

/-!
# Errors of the command line

* `CommandError` and its message.
-/

namespace WebTrip

/-- What can go wrong in a command. -/
inductive CommandError where
  /-- The text of a plan is not a log of instructions. -/
  | invalidPlan (cause : Json.Failure)
  /-- The run failed. -/
  | trip (cause : Error)
  /-- Something could not be read, for the given reason. -/
  | io (reason : String)
  | noInput
  | unknownOperation (name : String)
  deriving DecidableEq

/-- The wording of a text that could not be read as data. -/
def Json.Failure.message : Json.Failure → String
  | .syntaxError => "not a JSON text"
  | .dataError cause => cause.message

/-- The wording of an error. -/
def CommandError.message : CommandError → String
  | .invalidPlan cause => "invalid plan: " ++ cause.message
  | .trip cause => cause.message
  | .io reason => "IO error: " ++ reason
  | .noInput => "no input provided, pass it as an argument or pipe it to stdin"
  | .unknownOperation name =>
    "unknown operation: '" ++ name ++ "'\nRun 'lsd docs' to see available operations."

end WebTrip

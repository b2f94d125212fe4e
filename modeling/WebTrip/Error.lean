import WebTrip.Operation
import WebTrip.Schema.Validate

/-!
# Errors

What can go wrong when credentials are resolved, a program is run, or its rows are validated.
Building and compiling a trip never fails.

* `Error` and its message.
* `NameError` is for names of operations and targets that do not exist.
-/

namespace WebTrip

/-! ## §1 Names -/

/-- A name that stands for nothing. -/
inductive NameError where
  | unknownOperation (name : String)
  | unknownTarget (name : String)
  deriving DecidableEq

/-- The wording of a wrong name. -/
def NameError.message : NameError → String
  | .unknownOperation name => "unknown operation '" ++ name ++ "'"
  | .unknownTarget name =>
    "unknown target '" ++ name ++ "' (expected BROWSER or TRAVERSER)"

/-- The operation with a name. -/
def Operation.parse (name : String) : Except NameError Operation :=
  match Operation.ofName? name with
  | some op => .ok op
  | none => .error (.unknownOperation name)

/-- The target with a name. -/
def Target.parse (name : String) : Except NameError Target :=
  match Target.ofName? name with
  | some target => .ok target
  | none => .error (.unknownTarget name)

/-! ## §2 Configuration -/

/-- Why a configuration file cannot be used. -/
inductive ConfigFault where
  /-- Its text is not a configuration. -/
  | malformed
  /-- It cannot be read, for the given reason. -/
  | unreadable (reason : String)
  deriving DecidableEq

/-- The wording of a fault. -/
def ConfigFault.message : ConfigFault → String
  | .malformed => "not a TOML document with the texts user and password"
  | .unreadable reason => reason

/-- Why there are no credentials. -/
inductive ConfigurationError where
  /-- There is no user; the file named last was looked at. -/
  | missingUser (configFile : String)
  | missingPassword (configFile : String)
  /-- The file that had to be looked at cannot be used. -/
  | unusableFile (path : String) (fault : ConfigFault)
  deriving DecidableEq

/-- The wording of a missing credential. -/
def missingMessage (what envName configFile : String) : String :=
  "missing an LSD " ++ what ++ ", specify [" ++ what
    ++ "] in the configuration object, set the [" ++ envName
    ++ "] environment variable or add it to " ++ configFile

/-- The wording of a configuration error. -/
def ConfigurationError.message : ConfigurationError → String
  | .missingUser configFile => missingMessage "user" "LSD_USER" configFile
  | .missingPassword configFile =>
    missingMessage "password" "LSD_PASSWORD" configFile
  | .unusableFile path fault =>
    "could not read config file " ++ path ++ ": " ++ fault.message

/-! ## §3 Errors of a run -/

/-- A value that does not have its shape, as it is reported. -/
structure ValidationError where
  /-- The place in text. -/
  path : String
  expected : String
  actual : String
  deriving DecidableEq

/-- The report of a mismatch. -/
def Mismatch.report (m : Mismatch) : ValidationError :=
  ⟨m.place.written, m.expected, m.actual⟩

/-- What can go wrong in a run. -/
inductive Error where
  | configuration (cause : ConfigurationError)
  /-- The interpreter cannot be reached. -/
  | connectivity (host message : String)
  /-- The interpreter refused or failed the program. -/
  | execution (message : String)
  /-- The rows do not have the declared shape. -/
  | validation (cause : ValidationError)
  deriving DecidableEq

/-- The wording of an error. -/
def Error.message : Error → String
  | .configuration cause => cause.message
  | .connectivity host message => "could not reach " ++ host ++ ": " ++ message
  | .execution message => "query failed: " ++ message
  | .validation cause =>
    "validation failed at " ++ cause.path ++ ": expected " ++ cause.expected ++ ", got "
      ++ cause.actual

end WebTrip

import WebTrip.Json.Outline
import WebTrip.Json.Printer
import WebTrip.Text.Quoted

/-!
# Why JSON text is not the data that was asked for

Either the text is not JSON, or it is JSON of another shape.

* `Json.Failure` is the cause.
* `Json.DataError.message` is the wording of a wrong shape.
-/

namespace WebTrip.Json

open WebTrip.Text

/-! ## §1 Causes -/

/-- What was found in place of the data asked for. -/
inductive Found where
  | null
  | bool (value : Bool)
  | number (value : Number)
  | string (value : String)
  | sequence
  | map
  deriving DecidableEq

/-- In what way well-formed JSON is not the data asked for. -/
inductive DataError where
  | missingField (name : String)
  | duplicateField (name : String)
  | unknownVariant (name : String) (known : List String)
  /-- A sequence is too short to hold a record of the given length. -/
  | wrongLength (found : Nat) (record : String) (length : Nat)
  | wrongType (found : Found) (wanted : String)
  /-- An integer is out of the range of the type asked for. -/
  | wrongValue (found : Int) (wanted : String)
  deriving DecidableEq

/-- Why a text could not be read. -/
inductive Failure where
  /-- The text is not JSON, or not within the limits of a reader. -/
  | syntaxError
  | dataError (cause : DataError)
  deriving DecidableEq

/-! ## §2 Wording -/

/-- A text between grave accents. -/
def graved (s : String) : String :=
  "\x60" ++ s ++ "\x60"

/-- What was found, in words. -/
def Found.description : Found → String
  | .null => "null"
  | .bool true => "boolean " ++ graved "true"
  | .bool false => "boolean " ++ graved "false"
  | .number (.integer n _) => "integer " ++ graved (toString n)
  | .number (.float x) => "floating point " ++ graved x.written
  | .string s => "string " ++ quoted s
  | .sequence => "sequence"
  | .map => "map"

/-- The wording of a wrong shape. -/
def DataError.message : DataError → String
  | .missingField name => "missing field " ++ graved name
  | .duplicateField name => "duplicate field " ++ graved name
  | .unknownVariant name known =>
    "unknown variant " ++ graved name ++ ", expected one of " ++ ", ".intercalate (known.map graved)
  | .wrongLength found record length =>
    "invalid length " ++ toString found ++ ", expected struct " ++ record ++ " with "
      ++ toString length ++ " elements"
  | .wrongType found wanted => "invalid type: " ++ found.description ++ ", expected " ++ wanted
  | .wrongValue found wanted =>
    "invalid value: integer " ++ graved (toString found) ++ ", expected " ++ wanted

/-! ## §3 Complaints about an outline -/

/-- The failure to read an outline as what is wanted. A container is named by its first character;
anything else has to be read whole before it can be named. -/
def Outline.notA (wanted : String) : Outline → Failure
  | .null => .dataError (.wrongType .null wanted)
  | .bool b => .dataError (.wrongType (.bool b) wanted)
  | .number numeral =>
    match numeral.value with
    | some n => .dataError (.wrongType (.number n) wanted)
    | none => .syntaxError
  | .string (some s) => .dataError (.wrongType (.string s) wanted)
  | .array _ => .dataError (.wrongType .sequence wanted)
  | .object _ => .dataError (.wrongType .map wanted)
  | .string none | .broken | .misplaced _ => .syntaxError

/-- Reads a document with a reader for its outline; nothing may follow. -/
def Document.read {α : Type} (reader : Outline → Except Failure α) (d : Document) :
    Except Failure α := do
  let value ← reader d.root
  if d.complete then .ok value else .error .syntaxError

end WebTrip.Json

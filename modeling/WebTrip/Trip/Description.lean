import WebTrip.Text.Quoted
import WebTrip.Trip.Call

/-!
# Describing trips

The description of a trip for people who look into a program: every field of every instruction,
texts in quotes.

* `Trip.description` is the description.
-/

namespace WebTrip

open WebTrip.Text

/-- Texts in brackets, with commas between them. -/
def describedList (items : List String) : String :=
  "[" ++ ", ".intercalate items ++ "]"

/-- A record: its name, and its fields in braces. -/
def describedRecord (name : String) (fields : List (String × String)) : String :=
  name ++ " \x7b " ++ ", ".intercalate (fields.map fun field => field.1 ++ ": " ++ field.2)
    ++ " \x7d"

/-- The name of an operation in descriptions: its keyword with only the first letter large. -/
def Operation.title (op : Operation) : String :=
  match op.keyword.toList with
  | [] => ""
  | c :: rest => String.ofList (c :: rest.map Char.toLower)

/-- The description of an extraction. -/
def Extraction.description (e : Extraction) : String :=
  let name := match e.name with
    | none => "None"
    | some name => "Some(" ++ quoted name ++ ")"
  describedRecord "SelectionPair" [("selecting", quoted e.selector), ("alias", name)]

/-- The description of an instruction. -/
def Instruction.description (i : Instruction) : String :=
  let texts := fun (items : List String) => describedList (items.map quoted)
  describedRecord "Instruction" [
    ("operation", i.operation.title),
    ("args", texts i.args),
    ("aliased_args", describedList (i.extractions.map Extraction.description)),
    ("conditional_args", texts i.conditions),
    ("then_flow", texts i.thenFlow),
    ("else_flow", texts i.elseFlow)]

/-- The description of a trip: its instructions, and dots for what is not shown. -/
def Trip.description (t : Trip) : String :=
  "Trip \x7b instructions: " ++ describedList (t.log.map Instruction.description) ++ ", .. \x7d"

end WebTrip

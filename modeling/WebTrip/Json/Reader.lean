import WebTrip.Json.Failure

/-!
# Reading JSON values

A text is read into a value if it is JSON, no string lacks half of a surrogate pair, no number is
out of range, and nothing is nested deeper than 127 levels.

* `Json.Value.ofOutlineBy?` reads an outline, given how numerals are read and how many levels are
  left.
* `Json.Value.ofOutline?` reads an outline with the values of its numerals.
* `Json.Value.parse` reads a text.
-/

namespace WebTrip.Json

/-- How many containers may stand inside each other. -/
def maxDepth : Nat := 127

mutual

/-- The value of an outline in which `depth` containers may stand inside each other, by a reading of
numerals. -/
def Value.ofOutlineBy? (number : Numeral → Option Number) (depth : Nat) : Outline → Option Value
  | .null => some .null
  | .bool b => some (.bool b)
  | .number numeral => (number numeral).map .number
  | .string s => s.map .string
  | .array items =>
    if depth = 0 then none else (elementsOf? number (depth - 1) items).map .array
  | .object members =>
    if depth = 0 then none
    else (fieldsOf? number (depth - 1) members).map fun fields => .object (sortFields fields)
  | .broken | .misplaced _ => none

/-- The values of elements. -/
def elementsOf? (number : Numeral → Option Number) (depth : Nat) :
    List Outline → Option (List Value)
  | [] => some []
  | o :: rest => do
    let v ← Value.ofOutlineBy? number depth o
    let vs ← elementsOf? number depth rest
    return v :: vs

/-- The names and values of members, in the order of the text. -/
def fieldsOf? (number : Numeral → Option Number) (depth : Nat) :
    List (Option String × Outline) → Option (List (String × Value))
  | [] => some []
  | (name, o) :: rest => do
    let name ← name
    let v ← Value.ofOutlineBy? number depth o
    let fields ← fieldsOf? number depth rest
    return (name, v) :: fields

end

/-- The value of an outline in which `depth` containers may stand inside each other. -/
def Value.ofOutline? (depth : Nat) : Outline → Option Value :=
  Value.ofOutlineBy? Numeral.value depth

/-- The value that an outline describes. -/
def Value.read (o : Outline) : Except Failure Value :=
  match Value.ofOutline? maxDepth o with
  | some v => .ok v
  | none => .error .syntaxError

/-- The value that a text spells. -/
def Value.parse (text : String) : Except Failure Value :=
  (Document.ofText text).read Value.read

end WebTrip.Json

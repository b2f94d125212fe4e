/-!
# Places in a value

A place is the sequence of field names and indexes that leads from the root of a JSON value to one
of its parts.

* `Place` and `Place.written`, its text.
-/

namespace WebTrip

/-- One step into a value. -/
inductive Step where
  | field (name : String)
  | index (position : Nat)
  deriving DecidableEq

/-- The way from the root of a value to a part of it. -/
abbrev Place := List Step

/-- A step in text: a dot and the name, or the index in brackets. -/
def Step.written : Step → String
  | .field name => "." ++ name
  | .index position => "[" ++ toString position ++ "]"

/-- A place in text: a dollar sign for the root, and its steps. -/
def Place.written (place : Place) : String :=
  "$" ++ String.join (place.map Step.written)

end WebTrip

import WebTrip.Json.Printer
import WebTrip.Number.Decimal.Reader
import WebTrip.Schema.Basic
import WebTrip.Schema.Place
import WebTrip.Text.Blank
import WebTrip.Text.Quoted

/-!
# Validation

A value is checked against a schema and cast into its shape. The cast leaves out the fields that the
schema does not declare, turns strings that spell numbers into these numbers where the schema asks
for that, and whole floats into integers where it asks for integers. Everything else stays as it is.
The first mismatch in the order of the schema's fields and the array's elements is reported.

* `Mismatch` is the place of a mismatch with what was expected and what was found.
* `Walk` is a check that keeps the place of the value at hand on a path.
* `Schema.walk` checks and casts on the way, and `Schema.validate` does so from the root on.
-/

namespace WebTrip

open WebTrip.Json WebTrip.Text

/-- Where a value does not have its shape, what was expected there and what was found. -/
structure Mismatch where
  place : Place
  expected : String
  actual : String
  deriving DecidableEq

namespace Schema

/-! ## §1 Numbers -/

/-- The number that a string spells between blanks, if it spells one. -/
def numberOfText? (integerOnly : Bool) (text : String) : Option Number :=
  (Decimal.read? (trim text)).bind (Number.ofDecimal? integerOnly)

/-- A float under an integer schema: an integer if it is whole and has one of 64 signed bits, itself
if it is whole and beyond that range, and nothing if it is not whole. -/
def castFloat? (x : Double) : Option Number :=
  if x.isWhole then
    let n := x.truncate
    if -2 ^ 63 ≤ n ∧ n < 2 ^ 63 then Number.ofInt? n else some (.float x)
  else none

/-! ## §2 The path -/

/-- The mismatch of a value that was found at a place. -/
def mismatch (s : Schema) (place : Place) (actual : String) : Mismatch :=
  ⟨place, s.expectation, actual⟩

end Schema

/-- A check that has the place of the value at hand on a path, onto which it pushes steps and from
which it pops them. A check that ends with a mismatch leaves the path as it is at that moment. -/
abbrev Walk (α : Type) := ExceptT Mismatch (StateM Place) α

namespace Walk

variable {α : Type}

/-- The outcome of a check that begins with a path, and the path that it leaves. -/
def run (x : Walk α) (path : Place) : Except Mismatch α × Place :=
  StateT.run (ExceptT.run x) path

/-- The outcome of a check that begins with a path. -/
def outcome (x : Walk α) (path : Place) : Except Mismatch α :=
  (x.run path).1

/-- Pushes a step onto the path. -/
def push (step : Step) : Walk Unit :=
  modify (· ++ [step])

/-- Pops the last step from the path. -/
def pop : Walk Unit :=
  modify List.dropLast

/-- Ends with a mismatch between a schema and the value at the path. -/
def reject (s : Schema) (actual : String) : Walk α := do
  throw (s.mismatch (← get) actual)

/-- A check of what is one step further down. -/
def within (step : Step) (x : Walk α) : Walk α := do
  push step
  let a ← x
  pop
  return a

end Walk

/-! ## §3 Validation -/

namespace Schema

open Walk

/-- Checks the elements of an array from an index on, up to the first mismatch. -/
def walkElements (walk : Value → Walk Value) : Nat → List Value → Walk (List Value)
  | _, [] => return []
  | index, v :: rest => do
    let cast ← within (.index index) (walk v)
    let casts ← walkElements walk (index + 1) rest
    return cast :: casts

mutual

/-- Checks a value that stands at the path. -/
def walk : Schema → Value → Walk Value
  | .any, v => return v
  | .optional inner, v => walk inner v
  | .nullable inner, v =>
    match v with
    | .null => return .null
    | v => walk inner v
  | .string pattern, v =>
    match v with
    | .string s =>
      if pattern.all (·.isMatch s) then return .string s
      else reject (.string pattern) (quoted s)
    | v => reject (.string pattern) v.kind
  | .number numeric integer, v =>
    match v with
    | .number (.float x) =>
      if integer then
        match castFloat? x with
        | some n => return .number n
        | none => reject (.number numeric integer) ("number " ++ x.written)
      else return .number (.float x)
    | .number n => return .number n
    | .string s =>
      if numeric then
        match numberOfText? integer s with
        | some n => return .number n
        | none => reject (.number numeric integer) ("string " ++ quoted s)
      else reject (.number numeric integer) v.kind
    | v => reject (.number numeric integer) v.kind
  | .boolean, v =>
    match v with
    | .bool b => return .bool b
    | v => reject .boolean v.kind
  | .array item, v =>
    match v with
    | .array elements => return .array (← walkElements (walk item) 0 elements)
    | v => reject (.array item) v.kind
  | .object fields, v =>
    match v with
    | .object found => return .object (← walkFields found [] fields)
    | v => reject (.object fields) v.kind

/-- Checks the declared fields of an object in order and collects their casts. A name that is
declared more than once is checked every time, and its last cast stays. -/
def walkFields (found casts : Fields) : List (String × Schema) → Walk Fields
  | [] => return casts
  | (name, s) :: rest => do
    let casts ← within (.field name) <|
      match field? name found with
      | some v => return insert name (← walk s v) casts
      | none => if s.acceptsMissing then return casts else reject s "missing"
    walkFields found casts rest

end

/-- **Validation.** The cast of a value, or its first mismatch with the schema. -/
def validate (s : Schema) (v : Value) : Except Mismatch Value :=
  (s.walk v).outcome []

end Schema

end WebTrip

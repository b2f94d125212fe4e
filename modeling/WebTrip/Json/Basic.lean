import WebTrip.Number.Decimal

/-!
# JSON values

Numbers keep apart what JSON text keeps apart: integers that fit 64 bits, and binary64 numbers. The
fields of an object are kept in ascending order of their names, each name once.

* `Json.Number` and `Json.Value` are the values.
* `Json.insert` puts a field into its place; a later value for the same name replaces an earlier
  one.
* `Json.Value.Sorted` says that every object at every depth is in order.
-/

namespace WebTrip.Json

/-! ## §1 Numbers -/

/-- The integers that fit 64 bits, signed or unsigned. -/
def FitsWord (n : Int) : Prop :=
  -2 ^ 63 ≤ n ∧ n < 2 ^ 64

instance (n : Int) : Decidable (FitsWord n) := by
  unfold FitsWord; infer_instance

/-- A JSON number. -/
inductive Number where
  /-- An integer that fits 64 bits, signed or unsigned. -/
  | integer (value : Int) (fits : FitsWord value)
  /-- Any other number. -/
  | float (value : Double)
  deriving DecidableEq

namespace Number

/-- The integer as a JSON number, if it fits. -/
def ofInt? (n : Int) : Option Number :=
  if h : FitsWord n then some (.integer n h) else none

/-- The number a decimal stands for: an integer if it is whole and fits, else a float, unless only
integers are asked for. -/
def ofDecimal? (integerOnly : Bool) (d : Decimal) : Option Number :=
  match d.whole?.bind ofInt? with
  | some n => some n
  | none => if integerOnly then none else d.toDouble.map .float

end Number

/-! ## §2 Values -/

/-- A JSON value. -/
inductive Value where
  | null
  | bool (value : Bool)
  | number (value : Number)
  | string (value : String)
  | array (elements : List Value)
  /-- The fields are in ascending order of their names. -/
  | object (fields : List (String × Value))
  deriving Inhabited

/-- The fields of an object: names and values, in ascending order of the names. -/
abbrev Fields := List (String × Value)

/-- The kind of a value, as messages name it. -/
def Value.kind : Value → String
  | .null => "null"
  | .bool _ => "boolean"
  | .number _ => "number"
  | .string _ => "string"
  | .array _ => "array"
  | .object _ => "object"

/-! ## §3 Fields in order -/

/-- Puts a field into its place among fields in order. The order of names is that of their code
points, which is also that of their UTF-8 bytes. -/
def insert {α : Type} (name : String) (value : α) : List (String × α) → List (String × α)
  | [] => [(name, value)]
  | (other, found) :: rest =>
    if name < other then (name, value) :: (other, found) :: rest
    else if name = other then (name, value) :: rest
    else (other, found) :: insert name value rest

/-- The fields of a list in order; of fields with one name the last one stays. -/
def sortFields {α : Type} (fields : List (String × α)) : List (String × α) :=
  fields.foldl (fun sorted field => insert field.1 field.2 sorted) []

/-- The value of a field. -/
def field? (name : String) (fields : Fields) : Option Value :=
  fields.lookup name

mutual

/-- Every object at every depth has its names in strictly ascending order. -/
def Value.Sorted : Value → Prop
  | .array elements => SortedAll elements
  | .object fields => (fields.map Prod.fst).Pairwise (· < ·) ∧ SortedFields fields
  | _ => True

/-- Every element is sorted. -/
def SortedAll : List Value → Prop
  | [] => True
  | v :: rest => v.Sorted ∧ SortedAll rest

/-- Every field's value is sorted. -/
def SortedFields : List (String × Value) → Prop
  | [] => True
  | (_, v) :: rest => v.Sorted ∧ SortedFields rest

end

end WebTrip.Json

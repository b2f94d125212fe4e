import WebTrip.Json.Basic
import WebTrip.Pattern.Reader

/-!
# Schemas

A schema describes the shape that returned rows must have.

* `Schema` is the type of schemas.
* `Schema.expectation` says in words what a schema asks for.
* `Schema.acceptsMissing` holds of the schemas whose field may be absent.
-/

namespace WebTrip

/-- The shape of a JSON value. -/
inductive Schema where
  /-- Anything. -/
  | any
  /-- A string, which may have to match a pattern. -/
  | string (pattern : Option Pattern)
  /-- A number. If `numeric`, a string that spells a number will do; if `integer`, only integers. -/
  | number (numeric integer : Bool)
  | boolean
  /-- An array of elements that each have the same shape. -/
  | array (item : Schema)
  /-- An object with these fields, in the order of their declaration. -/
  | object (fields : List (String × Schema))
  /-- A field that may be absent. -/
  | optional (inner : Schema)
  /-- A value that may be null. -/
  | nullable (inner : Schema)
  deriving Inhabited

namespace Schema

/-- Lets a number schema accept strings that spell numbers; other schemas stay as they are. -/
def asNumeric : Schema → Schema
  | number _ integer => number true integer
  | s => s

/-- What a schema asks for, in words. -/
def expectation : Schema → String
  | any => "any value"
  | string (some pattern) => "string matching /" ++ pattern.source ++ "/"
  | string none => "string"
  | number true true => "integer or integer string"
  | number true false => "number or numeric string"
  | number false true => "integer"
  | number false false => "number"
  | boolean => "boolean"
  | array _ => "array"
  | object _ => "object"
  | optional inner => inner.expectation
  | nullable inner => inner.expectation ++ " or null"

/-- Whether a field of this shape may be absent: one of its outer wrappers is `optional`. -/
def acceptsMissing : Schema → Bool
  | optional _ => true
  | nullable inner => inner.acceptsMissing
  | _ => false

end Schema

end WebTrip

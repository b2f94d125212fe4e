import WebTrip.Json.Basic
import WebTrip.Number.Shortest

/-!
# Writing JSON

Two layouts: *compact*, with no blanks at all, and *pretty*, with one element or field per line and
two spaces of indentation per level.

* `Json.writtenString` writes a string with its escapes.
* `Json.Value.compact` and `Json.Value.pretty` write a value.
* `Json.Layout` is the choice between the two, for what is written without being a value first.
-/

namespace WebTrip.Json

/-! ## §1 Numbers and strings -/

/-- The text of a number. -/
def Number.written : Number → String
  | .integer n _ => toString n
  | .float x => x.written

/-- The hexadecimal digit of a number below sixteen. -/
def hexDigit (n : Nat) : Char :=
  if n < 10 then Char.ofNat (0x30 + n) else Char.ofNat (0x57 + n)

/-- One character of a string. Controls without a short escape are written by number; everything
else stands for itself. -/
def escaped (c : Char) : List Char :=
  if c = '\"' then ['\\', '\"']
  else if c = '\\' then ['\\', '\\']
  else if c = '\x08' then ['\\', 'b']
  else if c = '\x0c' then ['\\', 'f']
  else if c = '\n' then ['\\', 'n']
  else if c = '\r' then ['\\', 'r']
  else if c = '\t' then ['\\', 't']
  else if c.toNat < 0x20 then
    ['\\', 'u', '0', '0', hexDigit (c.toNat / 16), hexDigit (c.toNat % 16)]
  else [c]

/-- A string in quotes. -/
def writtenString (s : String) : String :=
  String.ofList ('\"' :: s.toList.flatMap escaped ++ ['\"'])

/-! ## §2 Compact layout -/

/-- Texts between brackets, with commas between them. -/
def bracketed (items : List String) : String :=
  "[" ++ ",".intercalate items ++ "]"

/-- Texts between braces, with commas between them. -/
def braced (items : List String) : String :=
  "\x7b" ++ ",".intercalate items ++ "\x7d"

mutual

/-- The compact text of a value. -/
def Value.compact : Value → String
  | .null => "null"
  | .bool true => "true"
  | .bool false => "false"
  | .number n => n.written
  | .string s => writtenString s
  | .array elements => bracketed (compactElements elements)
  | .object fields => braced (compactFields fields)

/-- The compact texts of elements. -/
def compactElements : List Value → List String
  | [] => []
  | v :: rest => v.compact :: compactElements rest

/-- The compact texts of fields. -/
def compactFields : List (String × Value) → List String
  | [] => []
  | (name, v) :: rest => (writtenString name ++ ":" ++ v.compact) :: compactFields rest

end

/-! ## §3 Pretty layout -/

/-- The start of a line at a depth. -/
def lineStart (depth : Nat) : String :=
  String.ofList ('\n' :: List.replicate (2 * depth) ' ')

/-- Texts between two marks, each on its own line one level deeper than `depth`; the marks alone if
there are none. -/
def onLines (depth : Nat) (opening closing : String) (items : List String) : String :=
  if items.isEmpty then opening ++ closing
  else
    opening ++ lineStart (depth + 1) ++ ("," ++ lineStart (depth + 1)).intercalate items
      ++ lineStart depth ++ closing

mutual

/-- The pretty text of a value that stands at a depth. -/
def Value.prettyAt (depth : Nat) : Value → String
  | .array elements => onLines depth "[" "]" (prettyElements (depth + 1) elements)
  | .object fields => onLines depth "\x7b" "\x7d" (prettyFields (depth + 1) fields)
  | .null => "null"
  | .bool true => "true"
  | .bool false => "false"
  | .number n => n.written
  | .string s => writtenString s

/-- The pretty texts of elements. -/
def prettyElements (depth : Nat) : List Value → List String
  | [] => []
  | v :: rest => v.prettyAt depth :: prettyElements depth rest

/-- The pretty texts of fields. -/
def prettyFields (depth : Nat) : List (String × Value) → List String
  | [] => []
  | (name, v) :: rest =>
    (writtenString name ++ ": " ++ v.prettyAt depth) :: prettyFields depth rest

end

/-- The pretty text of a value. -/
def Value.pretty (v : Value) : String :=
  v.prettyAt 0

/-! ## §4 Either layout -/

/-- The two layouts. -/
inductive Layout where
  | compact
  | pretty
  deriving DecidableEq

/-- An array that stands at a depth, from the texts of its elements. -/
def Layout.array (layout : Layout) (depth : Nat) (elements : List String) : String :=
  match layout with
  | .compact => bracketed elements
  | .pretty => onLines depth "[" "]" elements

/-- An object that stands at a depth, from the texts of its fields. -/
def Layout.object (layout : Layout) (depth : Nat) (fields : List String) : String :=
  match layout with
  | .compact => braced fields
  | .pretty => onLines depth "\x7b" "\x7d" fields

/-- A field of an object, from its name and the text of its value. -/
def Layout.field (layout : Layout) (name value : String) : String :=
  match layout with
  | .compact => writtenString name ++ ":" ++ value
  | .pretty => writtenString name ++ ": " ++ value

end WebTrip.Json

import WebTrip.Json.Token

/-!
# Outlines of JSON text

The nesting of a text, as far as it is JSON. Where the text breaks off, the outline has a `broken`
node in the place of what should have come, and nothing after it. A reader of typed data that walks
an outline from left to right therefore meets its own complaints and the faults of the text in the
order of the text.

* `Json.Outline` and `Json.Document.ofText`.
* `Json.Assembly.read` assembles an outline from tokens with an explicit stack.
* `Json.Outline.intact` holds when nothing in an outline is broken.
-/

namespace WebTrip.Json

/-- The nesting of a text. -/
inductive Outline where
  | null
  | bool (value : Bool)
  /-- A number, which may be out of range. -/
  | number (numeral : Numeral)
  /-- A string; `none` when a surrogate in it has no partner. -/
  | string (value : Option String)
  | array (items : List Outline)
  /-- Names and values in the order of the text. A name of `none` is one that cannot be read. -/
  | object (members : List (Option String × Outline))
  /-- The text stops being JSON. -/
  | broken
  /-- The text stops being JSON at a value, of which the first token is known, where the name of a
  member should stand. -/
  | misplaced (value : Outline)
  deriving Inhabited

/-- A whole text: its outline, and whether nothing follows it. -/
structure Document where
  root : Outline
  complete : Bool

/-! ## §1 Assembly -/

/-- A container that is being read; its contents so far are latest first. -/
inductive Frame where
  /-- An array. -/
  | array (items : List Outline)
  /-- An object between two members. -/
  | object (members : List (Option String × Outline))
  /-- An object with the name of a member whose value is being read. -/
  | member (members : List (Option String × Outline)) (name : Option String)

/-- What must come next. -/
inductive Expected where
  | value
  /-- The first element of an array, or its end. -/
  | firstItem
  /-- The first member of an object, or its end. -/
  | firstName
  | name
  | colon
  /-- A comma, or the end of the container. -/
  | separator
  deriving DecidableEq

/-- A text that has been read up to some token. -/
inductive Assembly where
  | reading (stack : List Frame) (expected : Expected)
  | finished (document : Document)

namespace Assembly

/-- Closes all containers around a fault. -/
def collapse : List Frame → Outline → Outline
  | [], fault => fault
  | .array items :: rest, fault => collapse rest (.array (fault :: items).reverse)
  | .object members :: rest, fault => collapse rest (.object ((none, fault) :: members).reverse)
  | .member members name :: rest, fault =>
    collapse rest (.object ((name, fault) :: members).reverse)

/-- Ends the text at a fault. -/
def stop (stack : List Frame) : Assembly :=
  .finished ⟨collapse stack .broken, true⟩

/-- What begins with a token. -/
def begun : Token → Outline
  | .null => .null
  | .bool b => .bool b
  | .number n => .number n
  | .string s => .string s
  | .openArray => .array []
  | .openObject => .object []
  | _ => .broken

/-- Puts a value that has been read into the container around it. -/
def plug : List Frame → Outline → Assembly
  | [], o => .finished ⟨o, true⟩
  | .array items :: rest, o => .reading (.array (o :: items) :: rest) .separator
  | .member members name :: rest, o =>
    .reading (.object ((name, o) :: members) :: rest) .separator
  | .object members :: rest, _ => stop (.object members :: rest)

/-- Reads the first token of a value. -/
def readValue (stack : List Frame) : Token → Assembly
  | .null => plug stack .null
  | .bool b => plug stack (.bool b)
  | .number n => plug stack (.number n)
  | .string s => plug stack (.string s)
  | .openArray => .reading (.array [] :: stack) .firstItem
  | .openObject => .reading (.object [] :: stack) .firstName
  | _ => stop stack

/-- Reads the name of a member. -/
def readName : List Frame → Token → Assembly
  | .object members :: rest, .string name => .reading (.member members name :: rest) .colon
  | stack, t => .finished ⟨collapse stack (.misplaced (begun t)), true⟩

/-- Reads the token after an element or a member. -/
def readSeparator : List Frame → Token → Assembly
  | .array items :: rest, .closeArray => plug rest (.array items.reverse)
  | .array items :: rest, .comma => .reading (.array items :: rest) .value
  | .object members :: rest, .closeObject => plug rest (.object members.reverse)
  | .object members :: rest, .comma => .reading (.object members :: rest) .name
  | stack, _ => stop stack

/-- Reads one token. Anything after the end of the outermost value makes the text incomplete. -/
def read (a : Assembly) (t : Token) : Assembly :=
  match a with
  | .finished document => .finished { document with complete := false }
  | .reading stack expected =>
    match expected, t with
    | .value, t => readValue stack t
    | .firstItem, .closeArray => readSeparator stack .closeArray
    | .firstItem, t => readValue stack t
    | .firstName, .closeObject => readSeparator stack .closeObject
    | .firstName, t => readName stack t
    | .name, t => readName stack t
    | .colon, .colon => .reading stack .value
    | .colon, _ => stop stack
    | .separator, t => readSeparator stack t

/-- Ends the text. -/
def finish : Assembly → Document
  | .finished document => document
  | .reading stack _ => ⟨collapse stack .broken, true⟩

end Assembly

/-- The outline of a token sequence. -/
def Document.ofTokens (tokens : List Token) : Document :=
  (tokens.foldl Assembly.read (.reading [] .value)).finish

/-- The outline of a text. -/
def Document.ofText (text : String) : Document :=
  ofTokens (Token.ofText text)

/-! ## §2 Intact outlines -/

mutual

/-- Whether the text of an outline is JSON throughout. Strings without content and numerals without
a value are no faults here. -/
def Outline.intact : Outline → Bool
  | .broken | .misplaced _ => false
  | .array items => intactItems items
  | .object members => intactMembers members
  | _ => true

/-- Whether all elements are intact. -/
def intactItems : List Outline → Bool
  | [] => true
  | o :: rest => o.intact && intactItems rest

/-- Whether all members are intact. -/
def intactMembers : List (Option String × Outline) → Bool
  | [] => true
  | (_, o) :: rest => o.intact && intactMembers rest

end

end WebTrip.Json

import WebTrip.Toml.Scalar

/-!
# Reading TOML

A document is a sequence of lines: keys with values, and headers that open tables. Arrays may run
over several lines, inline tables may not.

* `Toml.Table.parse?` reads a document; there is none if anything in the text is not TOML 1.0.
-/

namespace WebTrip.Toml

/-- How deep arrays and inline tables may be nested, and how many names a key may have. -/
def maxDepth : Nat := 79

/-! ## §1 Keys -/

/-- Reads a key: names with dots between them, and blanks around these. `fuel` bounds the number of
names. -/
def readKey? : Nat → List Char → Option (List String × List Char)
  | 0, _ => none
  | fuel + 1, cs => do
    let (name, rest) ← readName? (skipSpaces cs)
    match skipSpaces rest with
    | '.' :: rest => do
      let (names, rest) ← readKey? fuel rest
      return (name :: names, rest)
    | rest => return ([name], rest)

/-- The names of a key before the last one, and the last one. -/
def splitKey (names : List String) : List String × String :=
  (names.dropLast, names.getLast?.getD "")

/-! ## §2 Values -/

/-- Reads a comment, if there is one, up to the end of its line. -/
def skipComment : List Char → List Char
  | '#' :: rest => rest.dropWhile isVisible
  | rest => rest

/-- Passes over blanks, line ends and comments between the elements of an array. `fuel` bounds the
number of rounds. -/
def skipFiller : Nat → List Char → List Char
  | 0, cs => cs
  | fuel + 1, cs =>
    let rest := skipComment (skipSpaces cs)
    match readNewline? rest with
    | some rest => skipFiller fuel rest
    | none => rest

/-- Reads the elements of an array up to its closing bracket, with a reader for values. `fuel`
bounds their number. -/
def readElements? (readValue : List Char → Option (Value × List Char)) :
    Nat → List Char → Option (List Char)
  | 0, _ => none
  | fuel + 1, cs =>
    match skipFiller (cs.length + 1) cs with
    | ']' :: rest => some rest
    | cs => do
      let (_, rest) ← readValue cs
      match skipFiller (rest.length + 1) rest with
      | ',' :: rest => readElements? readValue fuel rest
      | ']' :: rest => some rest
      | _ => none

/-- Reads the members of an inline table up to its closing brace, with a reader for values. `fuel`
bounds their number. -/
def readMembers? (readValue : List Char → Option (Value × List Char)) :
    Nat → Table → List Char → Option (List Char)
  | 0, _, _ => none
  | fuel + 1, t, cs => do
    let (names, rest) ← readKey? maxDepth cs
    let (v, rest) ← readValue (skipSpaces (← readChar? '=' (skipSpaces rest)))
    let (path, name) := splitKey names
    let t ← t.insert? path name v
    match skipSpaces rest with
    | ',' :: rest => readMembers? readValue fuel t rest
    | '\x7d' :: rest => some rest
    | _ => none

/-- Reads a value in which containers may be nested so deep. -/
def readValue? : Nat → List Char → Option (Value × List Char)
  | depth, cs =>
    match cs with
    | '\"' :: _ | '\x27' :: _ => do
      let (s, rest) ← readText? cs
      return (.text s, rest)
    | '[' :: rest =>
      match depth with
      | 0 => none
      | depth + 1 => do return (.other, ← readElements? (readValue? depth) (rest.length + 1) rest)
    | '\x7b' :: rest =>
      match depth with
      | 0 => none
      | depth + 1 =>
        match skipSpaces rest with
        | '\x7d' :: rest => some (.other, rest)
        | rest => do
          let rest ← readMembers? (readValue? depth) (rest.length + 1) (.mk false false []) rest
          return (.other, rest)
    | cs => do return (.other, ← readScalar? cs)

/-! ## §3 Documents -/

/-- A document that has been read up to some line. -/
structure Reading where
  root : Table := .mk false false []
  /-- The names that lead to the table that keys are added to. -/
  current : List String := []

/-- Reads the rest of a line: blanks, a comment, and the line end or the end of the text. -/
def endLine? (cs : List Char) : Option (List Char) :=
  match skipComment (skipSpaces cs) with
  | [] => some []
  | rest => readNewline? rest

/-- Reads a header after its opening brackets: `marks` of them close it. -/
def readHeader? (marks : Nat) (cs : List Char) : Option (List String × List Char) := do
  let (names, rest) ← readKey? maxDepth cs
  let rest ← readWord? (List.replicate marks ']') rest
  return (names, ← endLine? rest)

/-- Reads one line. -/
def Reading.readLine? (r : Reading) (cs : List Char) : Option (Reading × List Char) :=
  match skipSpaces cs with
  | [] => some (r, [])
  | '#' :: _ | '\n' :: _ | '\r' :: _ => do return (r, ← endLine? cs)
  | '[' :: '[' :: rest => do
    let (names, rest) ← readHeader? 2 rest
    let (path, name) := splitKey names
    return (⟨← r.root.update? false (Table.appendHere? name) path, names⟩, rest)
  | '[' :: rest => do
    let (names, rest) ← readHeader? 1 rest
    let (path, name) := splitKey names
    return (⟨← r.root.update? false (Table.openHere? name) path, names⟩, rest)
  | cs => do
    let (names, rest) ← readKey? maxDepth cs
    let (v, rest) ← readValue? maxDepth (skipSpaces (← readChar? '=' (skipSpaces rest)))
    let rest ← endLine? rest
    let (path, name) := splitKey names
    let root ← r.root.update? false (fun t => t.insert? path name v) r.current
    return (⟨root, r.current⟩, rest)

/-- Reads lines to the end of the text. `fuel` bounds their number. -/
def Reading.readAll? : Nat → Reading → List Char → Option Table
  | 0, _, _ => none
  | fuel + 1, r, cs =>
    match cs with
    | [] => some r.root
    | cs => do
      let (r, rest) ← r.readLine? cs
      r.readAll? fuel rest

/-- The table that a document describes. A byte order mark may stand before it. -/
def Table.parse? (text : String) : Option Table :=
  let cs := match text.toList with
    | '\ufeff' :: rest => rest
    | cs => cs
  Reading.readAll? (cs.length + 1) {} cs

end WebTrip.Toml

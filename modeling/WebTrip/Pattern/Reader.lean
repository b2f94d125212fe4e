import WebTrip.Pattern.Bracket

/-!
# Reading patterns

The pattern language: literals, classes, assertions, groups, alternatives and repetitions, with
modes that are switched for the rest of a group.

* `Pattern` is a text together with the expression that it spells.
* `Pattern.ofText?` reads a pattern.
* `Pattern.isMatch` searches a text.

Groups that are open are kept on a stack. Expressions carry their size and the depth of their
nesting, so that a pattern beyond the limits is refused before it is expanded. Each round of the
reader consumes at least one character.
-/

namespace WebTrip

open WebTrip.Text

/-- A pattern: its text, and the expression that it spells. -/
structure Pattern where
  source : String
  regex : Pattern.Regex

namespace Pattern

/-! ## §1 Limits -/

/-- How deep the parts of a pattern may be nested. -/
def maxNesting : Nat := 250

/-- How large an expanded expression may be. -/
def maxSize : Nat := 327680

/-! ## §2 What has been read -/

/-- An expression with its size when expanded and its depth of nesting. -/
structure Part where
  regex : Regex
  size : Nat
  depth : Nat
  deriving Inhabited

/-- An item of a sequence: an expression, or a switch of modes, which cannot be repeated. -/
inductive Item where
  | part (p : Part)
  | switch

/-- The expressions among items that are latest first, in their order. -/
def Item.parts (items : List Item) : List Part :=
  items.reverse.filterMap fun
    | .part p => some p
    | .switch => none

/-- Items that follow each other as one expression. -/
def Part.sequence (items : List Item) : Part :=
  let parts := Item.parts items
  let inner := (parts.map (·.depth)).foldl max 0
  ⟨Regex.seqAll (parts.map (·.regex)), (parts.map (·.size)).foldl (· + ·) 0,
    if items.length ≤ 1 then inner else 1 + inner⟩

/-- Alternatives as one expression. -/
def Part.alternatives : List Part → Part
  | [p] => p
  | ps =>
    ⟨Regex.altAll (ps.map (·.regex)), 1 + (ps.map (·.size)).foldl (· + ·) 0,
      1 + (ps.map (·.depth)).foldl max 0⟩

/-- A group that is being read; `outer` are the modes to go back to at its end. -/
structure Group where
  outer : Flags
  /-- The alternatives that are complete, latest first. -/
  alternatives : List Part := []
  /-- The items of the last alternative, latest first. -/
  items : List Item := []

/-- Adds an expression. -/
def Group.add (g : Group) (p : Part) : Group :=
  { g with items := .part p :: g.items }

/-- Begins another alternative. -/
def Group.alternate (g : Group) : Group :=
  { g with alternatives := Part.sequence g.items :: g.alternatives, items := [] }

/-- The expression of a group that is complete. -/
def Group.close (g : Group) : Part :=
  Part.alternatives (Part.sequence g.items :: g.alternatives).reverse

/-! ## §3 Single items -/

/-- How much a set counts toward the size of an expression: one unit if it holds ASCII characters
only, else two units per range beside a fixed part. -/
def setSize (s : CodePoints) : Nat :=
  if s.ranges.all fun range => range.2 ≤ 0x7f then 1 else 8 + 2 * s.ranges.size

/-- The expression for a set of code points. Without Unicode a set may not hold bytes that are no
characters. -/
def setPart? (flags : Flags) (s : CodePoints) (depth : Nat) : Option Part :=
  if !flags.unicode && s.ranges.any (fun range => 0x7f < range.2) then none
  else some ⟨.set s, setSize s, depth⟩

/-- The expression for a character. -/
def literalPart? (flags : Flags) (c : Char) (byte : Bool) : Option Part :=
  if !flags.unicode && byte && 0x7f < c.toNat then none
  else
    let s := CodePoints.singleton c.toNat
    some ⟨.set (if flags.unicode || c.toNat < 0x80 then flags.fold s else s), 1, 0⟩

/-- The expression for an assertion. -/
def lookPart (flags : Flags) (l : Look) : Part :=
  ⟨.look l (!flags.unicode), 1, 0⟩

/-- The expression for a dot: any character but the ends of lines. -/
def dotPart? (flags : Flags) : Option Part :=
  if !flags.unicode then none
  else
    let ends := if flags.dotMatchesAll then []
      else if flags.anyLineEnd then [(0x0a, 0x0a), (0x0d, 0x0d)]
      else [(0x0a, 0x0a)]
    setPart? flags ((CodePoints.ofRanges ends).complement flags.last) 0

/-- The expression for a primitive. -/
def primitivePart? (flags : Flags) : Primitive → Option Part
  | .literal c byte => literalPart? flags c byte
  | .dot => dotPart? flags
  | .class s => setPart? flags s 0
  | .look l => some (lookPart flags l)

/-- What the mark for a start asserts. -/
def startLook (flags : Flags) : Look :=
  if flags.multiLine then if flags.anyLineEnd then .anyLineStart else .lineStart else .textStart

/-- What the mark for an end asserts. -/
def endLook (flags : Flags) : Look :=
  if flags.multiLine then if flags.anyLineEnd then .anyLineEnd else .lineEnd else .textEnd

/-! ## §4 Repetitions -/

/-- Repeats the last item of a group, if it is an expression and the result is not too large. -/
def Group.repeatLast? (g : Group) (least : Nat) (most : Option Nat) : Option Group :=
  match g.items with
  | .part p :: items =>
    let size := 1 + p.size * max least (most.getD (least + 1))
    if maxSize < size then none
    else some { g with items := .part ⟨p.regex.repeated least most, size, 1 + p.depth⟩ :: items }
  | _ => none

/-- Passes over the mark of a lazy repetition. -/
def skipLazyMark : List Char → List Char
  | '?' :: rest => rest
  | cs => cs

/-- Reads a count with blanks around it. -/
def readCount? (cs : List Char) : Option (Nat × List Char) :=
  let cs := cs.dropWhile isBlank
  let ds := cs.takeWhile Char.isDigit
  let n := ds.foldl (fun n c => n * 10 + (c.toNat - 0x30)) 0
  if ds.isEmpty || 2 ^ 32 ≤ n then none
  else some (n, (cs.dropWhile Char.isDigit).dropWhile isBlank)

/-- Reads the bounds of a repetition after the opening brace. -/
def readBounds? (flags : Flags) (cs : List Char) : Option (Nat × Option Nat × List Char) := do
  let (least, rest) ← readCount? (flags.skip cs)
  let finish := fun (most : Option Nat) (rest : List Char) =>
    if most.all (least ≤ ·) then some (least, most, skipLazyMark (flags.skip rest)) else none
  match rest with
  | '\x7d' :: rest => finish (some least) rest
  | ',' :: rest =>
    match flags.skip rest with
    | '\x7d' :: rest => finish none rest
    | rest => do
      let (most, rest) ← readCount? rest
      match rest with
      | '\x7d' :: rest => finish (some most) rest
      | _ => none
  | _ => none

/-! ## §5 Groups -/

/-- The flags with one mode switched. -/
def Flags.switch? (flags : Flags) (mode : Char) (on : Bool) : Option Flags :=
  if mode = 'i' then some { flags with ignoreCase := on }
  else if mode = 'm' then some { flags with multiLine := on }
  else if mode = 's' then some { flags with dotMatchesAll := on }
  else if mode = 'U' then some { flags with swapGreed := on }
  else if mode = 'u' then some { flags with unicode := on }
  else if mode = 'R' then some { flags with anyLineEnd := on }
  else if mode = 'x' then some { flags with verbose := on }
  else none

/-- Reads letters of modes up to a colon or a closing parenthesis; each may occur once, and so may
the hyphen before those to switch off, which may not be the last. -/
def readModes? (flags : Flags) (seen : List Char) :
    List Char → Option (Flags × List Char × List Char)
  | [] => none
  | c :: rest =>
    if c = ':' ∨ c = ')' then
      if seen.head? = some '-' then none else some (flags, seen, c :: rest)
    else if seen.contains c then none
    else if c = '-' then readModes? flags (c :: seen) rest
    else do
      let flags ← flags.switch? c (!seen.contains '-')
      readModes? flags (c :: seen) rest

/-- Whether a character may stand in the name of a group. -/
def isNameChar (first : Bool) (c : Char) : Bool :=
  if first then c == '_' || Unicode.alphabetic.contains c.toNat
  else c == '_' || c == '.' || c == '[' || c == ']' || Unicode.alphanumeric.contains c.toNat

/-- Reads the name of a group up to its closing angle bracket. -/
def readGroupName? (cs : List Char) : Option (String × List Char) :=
  match cs.takeWhile (· != '>'), cs.dropWhile (· != '>') with
  | first :: others, _ :: rest =>
    if isNameChar true first && others.all (isNameChar false) then
      some (String.ofList (first :: others), rest)
    else none
  | _, _ => none

/-- What stands after an opening parenthesis. -/
inductive Opening where
  /-- A group, with the modes inside it. -/
  | group (inner : Flags)
  | namedGroup (name : String)
  /-- A switch of modes. -/
  | modes (flags : Flags)

/-- Reads what stands after an opening parenthesis. Assertions about what comes before or after at
length are not part of the language. -/
def readOpening? (flags : Flags) (cs : List Char) : Option (Opening × List Char) :=
  match flags.skip cs with
  | '?' :: '=' :: _ | '?' :: '!' :: _ | '?' :: '<' :: '=' :: _ | '?' :: '<' :: '!' :: _ => none
  | '?' :: 'P' :: '<' :: rest | '?' :: '<' :: rest => do
    let (name, rest) ← readGroupName? rest
    return (.namedGroup name, rest)
  | '?' :: rest =>
    match readModes? flags [] rest with
    | some (inner, _, ':' :: rest) => some (.group inner, rest)
    | some (inner, seen, ')' :: rest) => if seen.isEmpty then none else some (.modes inner, rest)
    | _ => none
  | rest => some (.group flags, rest)

/-! ## §6 Whole patterns -/

/-- A pattern that has been read up to some character. -/
structure Progress where
  flags : Flags := {}
  /-- The group that is being read. -/
  group : Group
  /-- The groups around it. -/
  outer : List Group := []
  /-- The names of groups so far. -/
  names : List String := []

/-- Begins a group. -/
def Progress.openGroup (p : Progress) (inner : Flags) : Progress :=
  { p with flags := inner, group := { outer := p.flags }, outer := p.group :: p.outer }

/-- Ends a group. -/
def Progress.closeGroup? (p : Progress) : Option Progress :=
  match p.outer with
  | [] => none
  | enclosing :: outer =>
    let inner := p.group.close
    some { p with
      flags := p.group.outer
      group := enclosing.add { inner with size := inner.size + 2, depth := inner.depth + 1 }
      outer := outer }

/-- Adds an expression to the group that is being read. -/
def Progress.add (p : Progress) (part : Part) : Progress :=
  { p with group := p.group.add part }

/-- Applies a repetition to the last item. -/
def Progress.repeatLast? (p : Progress) (least : Nat) (most : Option Nat) : Option Progress :=
  (p.group.repeatLast? least most).map fun g => { p with group := g }

/-- Reads one item of a pattern; there is at least one character. -/
def Progress.read? (p : Progress) : List Char → Option (Progress × List Char)
  | [] => some (p, [])
  | c :: rest =>
    if c = '(' then do
      let (opening, rest) ← readOpening? p.flags rest
      match opening with
      | .group inner => return (p.openGroup inner, rest)
      | .namedGroup name =>
        if p.names.contains name then none
        else return ({ p with names := name :: p.names }.openGroup p.flags, rest)
      | .modes flags =>
        let group := { p.group with items := .switch :: p.group.items }
        return ({ p with flags, group }, rest)
    else if c = ')' then do return (← p.closeGroup?, rest)
    else if c = '|' then some ({ p with group := p.group.alternate }, rest)
    else if c = '[' then do
      let (s, rest) ← readBracket? p.flags rest
      return (p.add (← setPart? p.flags s.characters s.depth), rest)
    else if c = '?' then do return (← p.repeatLast? 0 (some 1), skipLazyMark rest)
    else if c = '*' then do return (← p.repeatLast? 0 none, skipLazyMark rest)
    else if c = '+' then do return (← p.repeatLast? 1 none, skipLazyMark rest)
    else if c = '\x7b' then do
      let (least, most, rest) ← readBounds? p.flags rest
      return (← p.repeatLast? least most, rest)
    else if c = '\\' then do
      let (primitive, rest) ← readEscape? p.flags rest
      return (p.add (← primitivePart? p.flags primitive), rest)
    else if c = '.' then do return (p.add (← dotPart? p.flags), rest)
    else if c = '^' then some (p.add (lookPart p.flags (startLook p.flags)), rest)
    else if c = '$' then some (p.add (lookPart p.flags (endLook p.flags)), rest)
    else do return (p.add (← literalPart? p.flags c false), rest)

/-- Reads a pattern to its end. `fuel` bounds the number of rounds. -/
def Progress.readAll? : Nat → Progress → List Char → Option Part
  | 0, _, _ => none
  | fuel + 1, p, cs =>
    match p.flags.skip cs with
    | [] => if p.outer.isEmpty then some p.group.close else none
    | cs => do
      let (p, rest) ← p.read? cs
      p.readAll? fuel rest

/-- **Reading a pattern.** The pattern that a text spells, unless the text is malformed or beyond
the limits. -/
def ofText? (source : String) : Option Pattern := do
  let cs := source.toList
  let start : Progress := { group := { outer := {} } }
  let part ← start.readAll? (cs.length + 1) cs
  if part.depth ≤ maxNesting ∧ part.size ≤ maxSize then some ⟨source, part.regex⟩ else none

/-- Whether the pattern matches somewhere in a text. -/
def isMatch (p : Pattern) (text : String) : Bool :=
  p.regex.isMatch text

end Pattern

end WebTrip

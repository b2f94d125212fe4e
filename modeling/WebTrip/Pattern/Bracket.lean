import WebTrip.Pattern.Escape

/-!
# Bracketed classes

Classes in brackets: characters, ranges, named classes, classes inside classes, complements, and the
operations of intersection, difference and symmetric difference, which bind less than standing side
by side and group from the left.

* `readBracket?` reads a class after its opening bracket.

The reader keeps the classes that are open on a stack of its own; each of its rounds consumes at
least one character.
-/

namespace WebTrip.Pattern

open WebTrip.Text

/-! ## §1 Sets being read -/

/-- A set with the depth of its nesting. -/
structure DeepSet where
  characters : CodePoints
  depth : Nat := 0

/-- Sets that stand side by side. -/
def DeepSet.unionAll : List DeepSet → DeepSet
  | [] => ⟨CodePoints.empty, 0⟩
  | [s] => s
  | ss =>
    ⟨ss.foldl (fun u s => u.union s.characters) CodePoints.empty,
      1 + (ss.map (·.depth)).foldl max 0⟩

/-- The operations between sets. -/
inductive SetOperation where
  | intersection
  | difference
  | symmetricDifference

/-- Applies an operation. -/
def SetOperation.apply (flags : Flags) (op : SetOperation) (left right : DeepSet) : DeepSet :=
  let last := flags.last
  let l := flags.fold left.characters
  let r := flags.fold right.characters
  let result := match op with
    | .intersection => l.inter last r
    | .difference => l.diff last r
    | .symmetricDifference => (l.union r).diff last (l.inter last r)
  ⟨result, 1 + max left.depth right.depth⟩

/-- A class whose closing bracket has not been read. -/
structure OpenClass where
  negated : Bool
  /-- What stands before the last operation, and the operation. -/
  left : Option (DeepSet × SetOperation) := none
  /-- What has been read since then, latest first. -/
  items : List DeepSet

/-- The set that has been read since the beginning of a class. -/
def OpenClass.value (flags : Flags) (o : OpenClass) : DeepSet :=
  let right := DeepSet.unionAll o.items.reverse
  match o.left with
  | none => right
  | some (left, op) => op.apply flags left right

/-- Reads an operation between sets. -/
def OpenClass.operate (flags : Flags) (o : OpenClass) (op : SetOperation) : OpenClass :=
  ⟨o.negated, some (o.value flags, op), []⟩

/-- Adds a set to those that stand side by side. -/
def OpenClass.add (o : OpenClass) (s : DeepSet) : OpenClass :=
  { o with items := s :: o.items }

/-- Ends a class. -/
def OpenClass.close (flags : Flags) (o : OpenClass) : DeepSet :=
  let s := o.value flags
  ⟨flags.negateIf o.negated (flags.fold s.characters), 1 + s.depth⟩

/-! ## §2 Parts of a class -/

/-- Reads the hyphens at the beginning of a class, which stand for themselves. -/
def readHyphens (flags : Flags) (o : OpenClass) : Nat → List Char → OpenClass × List Char
  | fuel + 1, '-' :: rest =>
    readHyphens flags (o.add ⟨CodePoints.singleton 0x2d, 0⟩) fuel (flags.skip rest)
  | _, cs => (o, cs)

/-- Reads the beginning of a class after its bracket: a mark of negation, hyphens, or a closing
bracket that stands for itself. -/
def openClass (flags : Flags) (cs : List Char) : OpenClass × List Char :=
  let cs := flags.skip cs
  let (negated, cs) := match cs with
    | '^' :: rest => (true, flags.skip rest)
    | cs => (false, cs)
  let (o, cs) := readHyphens flags ⟨negated, none, []⟩ cs.length cs
  match o.items, cs with
  | [], ']' :: rest => (o.add ⟨CodePoints.singleton 0x5d, 0⟩, flags.skip rest)
  | _, cs => (o, cs)

/-- Reads a class of ASCII characters with its name between colons, after the bracket. -/
def readNamedClass? (flags : Flags) : List Char → Option (DeepSet × List Char)
  | ':' :: cs => do
    let (negated, cs) := match cs with
      | '^' :: rest => (true, rest)
      | cs => (false, cs)
    let s ← Unicode.asciiClass? (String.ofList (cs.takeWhile (· != ':')))
    match cs.dropWhile (· != ':') with
    | ':' :: ']' :: rest => return (⟨flags.negateIf negated s, 0⟩, rest)
    | _ => none
  | _ => none

/-- Reads one character of a class, which may be escaped. -/
def readClassItem? (flags : Flags) : List Char → Option (Primitive × List Char)
  | [] => none
  | '\\' :: rest => readEscape? flags rest
  | c :: rest => some (.literal c false, rest)

/-- The number of a character in a class. Without Unicode only ASCII characters and bytes may stand
there. -/
def classNumber? (flags : Flags) (c : Char) (byte : Bool) : Option Nat :=
  if flags.unicode || byte || c.toNat < 0x80 then some c.toNat else none

/-- The set of one item of a class. -/
def itemSet? (flags : Flags) : Primitive → Option DeepSet
  | .literal c byte => (classNumber? flags c byte).map fun n => ⟨CodePoints.singleton n, 0⟩
  | .class s => some ⟨s, 0⟩
  | .dot | .look _ => none

/-- Reads an item or a range of a class. A hyphen before a closing bracket or another hyphen does
not make a range. -/
def readRange? (flags : Flags) (cs : List Char) : Option (DeepSet × List Char) := do
  let (first, rest) ← readClassItem? flags cs
  match flags.skip rest with
  | [] => none
  | '-' :: after =>
    match flags.skip after with
    | [] => none
    | ']' :: _ | '-' :: _ => return (← itemSet? flags first, '-' :: after)
    | after => do
      let (last, rest) ← readClassItem? flags after
      match first, last with
      | .literal a aByte, .literal b bByte => do
        let a ← classNumber? flags a aByte
        let b ← classNumber? flags b bByte
        if a ≤ b then return (⟨⟨#[(a, b)]⟩, 0⟩, rest) else none
      | _, _ => none
  | rest => return (← itemSet? flags first, rest)

/-! ## §3 Whole classes -/

/-- Reads on in a class inside other ones. `fuel` bounds the number of rounds. -/
def readClassFrom? (flags : Flags) :
    Nat → OpenClass → List OpenClass → List Char → Option (DeepSet × List Char)
  | 0, _, _, _ => none
  | fuel + 1, o, outer, cs =>
    match flags.skip cs with
    | [] => none
    | '[' :: rest =>
      match readNamedClass? flags rest with
      | some (s, rest) => readClassFrom? flags fuel (o.add s) outer rest
      | none =>
        let (inner, rest) := openClass flags rest
        readClassFrom? flags fuel inner (o :: outer) rest
    | ']' :: rest =>
      match outer with
      | [] => some (o.close flags, rest)
      | enclosing :: outer =>
        readClassFrom? flags fuel (enclosing.add (o.close flags)) outer rest
    | '&' :: '&' :: rest => readClassFrom? flags fuel (o.operate flags .intersection) outer rest
    | '-' :: '-' :: rest => readClassFrom? flags fuel (o.operate flags .difference) outer rest
    | '~' :: '~' :: rest =>
      readClassFrom? flags fuel (o.operate flags .symmetricDifference) outer rest
    | cs => do
      let (s, rest) ← readRange? flags cs
      readClassFrom? flags fuel (o.add s) outer rest

/-- Reads a class after its opening bracket. -/
def readBracket? (flags : Flags) (cs : List Char) : Option (DeepSet × List Char) :=
  let (o, rest) := openClass flags cs
  readClassFrom? flags (cs.length + 1) o [] rest

end WebTrip.Pattern

/-!
# Sets of code points

A set of code points is held as its maximal ranges, in ascending order. Tables of character
properties are written down in packed form, lines of hexadecimal ranges, and unpacked once.

* `CodePoints.contains` looks a code point up by bisection.
* `CodePoints.ofRanges`, `union`, `complement`, `inter` and `diff` are the operations on sets.
* `CodePoints.unpack` reads the packed form.
-/

namespace WebTrip.Text

/-- A set of code points: ranges `(first, last)`, ascending and apart from each other. -/
structure CodePoints where
  /-- The ranges, both ends included. -/
  ranges : Array (Nat × Nat)
  deriving DecidableEq, Inhabited

namespace CodePoints

/-! ## §1 Membership -/

/-- Whether one of the ranges with an index from `low` to before `high` holds the code point. -/
def containsBetween (ranges : Array (Nat × Nat)) (n low high : Nat) : Bool :=
  if low < high then
    let middle := (low + high) / 2
    match ranges[middle]? with
    | none => false
    | some (first, last) =>
      if n < first then containsBetween ranges n low middle
      else if last < n then containsBetween ranges n (middle + 1) high
      else true
  else false
termination_by high - low

/-- Whether the set holds a code point. -/
def contains (s : CodePoints) (n : Nat) : Bool :=
  containsBetween s.ranges n 0 s.ranges.size

/-! ## §2 Operations -/

/-- Adds a range to ranges in descending order that all begin before it or with it. -/
def addRange (ranges : List (Nat × Nat)) (range : Nat × Nat) : List (Nat × Nat) :=
  match ranges with
  | [] => [range]
  | (first, last) :: rest =>
    if range.1 ≤ last + 1 then (first, max last range.2) :: rest
    else range :: (first, last) :: rest

/-- The set of all code points in some ranges, which may overlap and stand in any order. -/
def ofRanges (ranges : List (Nat × Nat)) : CodePoints :=
  let ordered := ranges.mergeSort fun a b => a.1 ≤ b.1
  ⟨(ordered.foldl addRange []).reverse.toArray⟩

/-- The set of one code point. -/
def singleton (n : Nat) : CodePoints :=
  ⟨#[(n, n)]⟩

/-- The empty set. -/
def empty : CodePoints :=
  ⟨#[]⟩

/-- The set of the code points in one of two sets. -/
def union (s t : CodePoints) : CodePoints :=
  ofRanges (s.ranges.toList ++ t.ranges.toList)

/-- The ranges between some ranges in ascending order, from a code point on up to a last one. -/
def gaps (last : Nat) (start : Nat) : List (Nat × Nat) → List (Nat × Nat)
  | [] => if start ≤ last then [(start, last)] else []
  | (first, final) :: rest =>
    if start < first then (start, first - 1) :: gaps last (final + 1) rest
    else gaps last (final + 1) rest

/-- The set of the code points up to `last` that are not in a set. -/
def complement (last : Nat) (s : CodePoints) : CodePoints :=
  ⟨(gaps last 0 s.ranges.toList).toArray⟩

/-- The set of the code points up to `last` in both sets. -/
def inter (last : Nat) (s t : CodePoints) : CodePoints :=
  complement last (union (complement last s) (complement last t))

/-- The set of the code points up to `last` in the first set and not in the second. -/
def diff (last : Nat) (s t : CodePoints) : CodePoints :=
  inter last s (complement last t)

/-! ## §3 The packed form -/

/-- The value of a lowercase hexadecimal digit. -/
def hexDigit? (c : Char) : Option Nat :=
  if '0' ≤ c ∧ c ≤ '9' then some (c.toNat - 0x30)
  else if 'a' ≤ c ∧ c ≤ 'f' then some (c.toNat - 0x61 + 10)
  else none

/-- A packed text that has been read up to some character. -/
structure Unpacking where
  /-- The ranges read so far. -/
  ranges : Array (Nat × Nat) := #[]
  /-- The first code point of the range being read, once its dash has been seen. -/
  first : Option Nat := none
  /-- The number being read. -/
  number : Option Nat := none

/-- Ends the range being read. -/
def Unpacking.close (u : Unpacking) : Unpacking :=
  match u.number with
  | none => u
  | some n => ⟨u.ranges.push (u.first.getD n, n), none, none⟩

/-- Reads one character: a dash stands between the ends of a range, a digit continues a number, and
anything else separates ranges. -/
def Unpacking.read (u : Unpacking) (c : Char) : Unpacking :=
  if c = '-' then ⟨u.ranges, u.number, none⟩
  else match hexDigit? c with
    | some d => ⟨u.ranges, u.first, some (u.number.getD 0 * 16 + d)⟩
    | none => u.close

/-- Reads one line of a packed text. -/
def Unpacking.readLine (u : Unpacking) (line : String) : Unpacking :=
  (line.toList.foldl Unpacking.read u).close

/-- The set written as lines of hexadecimal ranges `first-last`, or single code points, with blanks
between them. -/
def unpack (packed : List String) : CodePoints :=
  ⟨(packed.foldl Unpacking.readLine {}).ranges⟩

end CodePoints

end WebTrip.Text

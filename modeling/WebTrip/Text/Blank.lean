/-!
# Blank characters

Which characters separate words and are dropped from the ends of a text, and the two operations
built on them.

* `isBlank` is the property `White_Space`.
* `trim` drops blanks at both ends of a text.
* `words` are the maximal runs of characters that are not blank.
-/

namespace WebTrip.Text

/-! ## §1 The class -/

/-- A character is blank when it has the property `White_Space`: the controls from TAB to CR, the
space, the no-break spaces, the spaces of general punctuation and the two line separators. The
information separators U+001C to U+001F and the zero-width characters are not blank. -/
def isBlank (c : Char) : Bool :=
  let n := c.toNat
  (0x9 ≤ n && n ≤ 0xd) || n == 0x20 || n == 0x85 || n == 0xa0 || n == 0x1680
    || (0x2000 ≤ n && n ≤ 0x200a) || n == 0x2028 || n == 0x2029 || n == 0x202f
    || n == 0x205f || n == 0x3000

/-! ## §2 Trimming -/

/-- The characters up to the last one that is not blank. -/
def dropTrailingBlanks (cs : List Char) : List Char :=
  (cs.reverse.dropWhile isBlank).reverse

/-- The characters from the first to the last one that is not blank. -/
def trimmed (cs : List Char) : List Char :=
  dropTrailingBlanks (cs.dropWhile isBlank)

/-- The text without the blanks at its two ends. -/
def trim (s : String) : String :=
  String.ofList (trimmed s.toList)

/-- Whether every character of a text is blank. -/
def isBlankText (s : String) : Bool :=
  s.toList.all isBlank

/-! ## §3 Words -/

/-- The words of a text, given the characters (latest first) of the word being read. -/
def wordsFrom (current : List Char) : List Char → List (List Char)
  | [] => if current.isEmpty then [] else [current.reverse]
  | c :: rest =>
    if isBlank c then
      if current.isEmpty then wordsFrom [] rest else current.reverse :: wordsFrom [] rest
    else wordsFrom (c :: current) rest

/-- The words of a text: its maximal runs of characters that are not blank. -/
def words (s : String) : List (List Char) :=
  wordsFrom [] s.toList

end WebTrip.Text

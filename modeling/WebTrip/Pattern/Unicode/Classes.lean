import WebTrip.Pattern.Unicode.Category
import WebTrip.Pattern.Unicode.Script
import WebTrip.Pattern.Unicode.Property
import WebTrip.Text.Blank
import WebTrip.Text.CodePoints

/-!
# Character classes by name

The classes that patterns refer to by a name or a letter.

* `classNamed?` and `classByValue?` find the class of a Unicode property.
* `asciiClass?` finds a class of ASCII characters.
* `digits`, `blanks` and `wordCharacters` are the classes with a letter of their own.
-/

namespace WebTrip.Pattern.Unicode

open WebTrip.Text

/-- The last code point. -/
def lastCodePoint : Nat := 0x10ffff

/-! ## §1 Tables -/

/-- The code points under a name in a table. -/
def lookUp? (table : List (List String × List String)) (name : String) : Option CodePoints :=
  (table.find? fun entry => entry.1.contains name).map fun entry => CodePoints.unpack entry.2

/-- A name of a property or of a value without what does not count in it: case, blanks, underscores,
hyphens and a leading `is`. The name `isc`, which would become the name of a category, is left
alone. -/
def plainName (name : String) : String :=
  let cs := (name.toList.filter fun c => c.toNat < 0x80 && c != ' ' && c != '_' && c != '-').map
    Char.toLower
  let startsWithIs := name.toList.take 2 |>.map Char.toLower
  if startsWithIs = ['i', 's'] then
    let rest := cs.drop 2
    if rest = ['c'] then "isc" else String.ofList rest
  else String.ofList cs

/-! ## §2 Properties -/

/-- The class of a general category or of a group of them. -/
def category? (name : String) : Option CodePoints :=
  if name = "any" then some ⟨#[(0, lastCodePoint)]⟩
  else if name = "ascii" then some ⟨#[(0, 0x7f)]⟩
  else if name = "assigned" then
    (lookUp? generalCategories "cn").map (CodePoints.complement lastCodePoint)
  else match categoryGroups.find? fun entry => entry.1.contains name with
    | some (_, members) =>
      some ((members.filterMap (lookUp? generalCategories)).foldl CodePoints.union CodePoints.empty)
    | none => lookUp? generalCategories name

/-- The class of a script. -/
def script? (name : String) : Option CodePoints :=
  lookUp? scripts name

/-- The class of a script together with what is used in it: for the two shared scripts, what is used
in no other one. -/
def scriptWithExtensions? (name : String) : Option CodePoints := do
  let entry ← scripts.find? fun entry => entry.1.contains name
  let own := CodePoints.unpack entry.2
  if entry.1.contains "common" || entry.1.contains "inherited" then
    let extensions := (scriptExtensions.map fun e => CodePoints.unpack e.2).foldl CodePoints.union
      CodePoints.empty
    return CodePoints.diff lastCodePoint own extensions
  else
    let extensions := (scriptExtensions.find? fun e => e.1.any entry.1.contains).map fun e =>
      CodePoints.unpack e.2
    return own.union (extensions.getD CodePoints.empty)

/-- The class with a name of its own: a binary property, a category or a script, in this order.
Three names that abbreviate properties too are those of categories. -/
def classNamed? (name : String) : Option CodePoints :=
  let name := plainName name
  let property :=
    if name = "cf" || name = "sc" || name = "lc" then none else lookUp? binaryProperties name
  property <|> category? name <|> script? name

/-- The class of the code points for which a property has a value. -/
def classByValue? (property value : String) : Option CodePoints :=
  let property := plainName property
  let value := plainName value
  if property = "generalcategory" || property = "gc" then category? value
  else if property = "script" || property = "sc" then script? value
  else if property = "scriptextensions" || property = "scx" then scriptWithExtensions? value
  else none

/-! ## §3 Classes of their own -/

/-- Decimal digits of every script. -/
def digits : CodePoints :=
  (category? "nd").getD CodePoints.empty

/-- Blanks, as elsewhere in this library. -/
def blanks : CodePoints :=
  (lookUp? binaryProperties "whitespace").getD CodePoints.empty

/-- Characters of words: letters, marks, decimal digits, connectors and the joiners. -/
def wordCharacters : CodePoints :=
  ([lookUp? binaryProperties "alphabetic", category? "m", category? "nd", category? "pc",
    lookUp? binaryProperties "joincontrol"].filterMap id).foldl CodePoints.union CodePoints.empty

/-- Letters in the widest sense. -/
def alphabetic : CodePoints :=
  (lookUp? binaryProperties "alphabetic").getD CodePoints.empty

/-- Letters in the widest sense, and numbers. -/
def alphanumeric : CodePoints :=
  alphabetic.union ((category? "n").getD CodePoints.empty)

/-- A class of ASCII characters. -/
def asciiClass? (name : String) : Option CodePoints :=
  let letters := [(0x41, 0x5a), (0x61, 0x7a)]
  let named := [
    ("alnum", (0x30, 0x39) :: letters),
    ("alpha", letters),
    ("ascii", [(0x00, 0x7f)]),
    ("blank", [(0x09, 0x09), (0x20, 0x20)]),
    ("cntrl", [(0x00, 0x1f), (0x7f, 0x7f)]),
    ("digit", [(0x30, 0x39)]),
    ("graph", [(0x21, 0x7e)]),
    ("lower", [(0x61, 0x7a)]),
    ("print", [(0x20, 0x7e)]),
    ("punct", [(0x21, 0x2f), (0x3a, 0x40), (0x5b, 0x60), (0x7b, 0x7e)]),
    ("space", [(0x09, 0x0d), (0x20, 0x20)]),
    ("upper", [(0x41, 0x5a)]),
    ("word", (0x30, 0x39) :: (0x5f, 0x5f) :: letters),
    ("xdigit", [(0x30, 0x39), (0x41, 0x46), (0x61, 0x66)])]
  (named.lookup name).map CodePoints.ofRanges

end WebTrip.Pattern.Unicode

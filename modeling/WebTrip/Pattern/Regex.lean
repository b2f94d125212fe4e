import WebTrip.Pattern.Unicode.Classes
import WebTrip.Pattern.Unicode.Folding

/-!
# Regular expressions

Regular expressions over characters, with assertions about the characters around a position, and the
search for a match anywhere in a text.

* `Regex` is the type of expressions.
* `Regex.Marked` is an expression in the middle of a search. Its marked leaves are those that have
  just read a character; one step moves all marks over the next character at once, so a search takes
  time proportional to the text.
* `Regex.isMatch` says whether an expression matches somewhere in a text.
-/

namespace WebTrip.Pattern

open WebTrip.Text

/-! ## §1 Expressions -/

/-- What an assertion says about a position. -/
inductive Look where
  | textStart
  | textEnd
  | lineStart
  | lineEnd
  /-- Lines that may end in CR, LF or both. -/
  | anyLineStart
  | anyLineEnd
  | wordBoundary
  | notWordBoundary
  | wordStart
  | wordEnd
  /-- No character of a word before. -/
  | wordStartHalf
  /-- No character of a word after. -/
  | wordEndHalf
  deriving DecidableEq

/-- A regular expression. -/
inductive Regex where
  /-- Matches the empty text. -/
  | empty
  /-- Matches one character of a set. -/
  | set (characters : CodePoints)
  /-- Matches the empty text where an assertion holds; `ascii` restricts words to ASCII. -/
  | look (look : Look) (ascii : Bool)
  | seq (first second : Regex)
  | alt (left right : Regex)
  | star (body : Regex)
  deriving Inhabited

namespace Regex

/-- Combines the members of a list by a balanced tree, so that its depth stays small. `fuel` bounds
the depth. -/
def balanced (combine : Regex → Regex → Regex) (neutral : Regex) : Nat → List Regex → Regex
  | _, [] => neutral
  | _, [r] => r
  | 0, r :: rest => rest.foldl combine r
  | fuel + 1, rs =>
    let half := rs.length / 2
    combine (balanced combine neutral fuel (rs.take half))
      (balanced combine neutral fuel (rs.drop half))

/-- One expression after the other. -/
def seqAll (rs : List Regex) : Regex :=
  balanced seq empty 32 rs

/-- The expression that matches nothing. -/
def nothing : Regex :=
  set CodePoints.empty

/-- One of several expressions. -/
def altAll (rs : List Regex) : Regex :=
  balanced alt nothing 32 rs

/-- An expression at least `least` and at most `most` times; without a bound if `most` is `none`. -/
def repeated (r : Regex) (least : Nat) (most : Option Nat) : Regex :=
  let required := seqAll (List.replicate least r)
  match most with
  | none => seq required (star r)
  | some most => seq required (seqAll (List.replicate (most - least) (alt r empty)))

/-! ## §2 Assertions -/

/-- Whether a neighbour is a character of a word. -/
def isWord (ascii : Bool) : Option Char → Bool
  | none => false
  | some c =>
    if c.toNat < 0x80 then c.isAlphanum || c == '_'
    else !ascii && Unicode.wordCharacters.contains c.toNat

/-- Whether an assertion holds between two neighbours, `none` being the end of the text. -/
def holds (look : Look) (ascii : Bool) (before after : Option Char) : Bool :=
  match look with
  | .textStart => before.isNone
  | .textEnd => after.isNone
  | .lineStart => before.isNone || before == some '\n'
  | .lineEnd => after.isNone || after == some '\n'
  | .anyLineStart =>
    before.isNone || before == some '\n' || (before == some '\r' && after != some '\n')
  | .anyLineEnd =>
    after.isNone || after == some '\r' || (after == some '\n' && before != some '\r')
  | .wordBoundary => isWord ascii before != isWord ascii after
  | .notWordBoundary => isWord ascii before == isWord ascii after
  | .wordStart => !isWord ascii before && isWord ascii after
  | .wordEnd => isWord ascii before && !isWord ascii after
  | .wordStartHalf => !isWord ascii before
  | .wordEndHalf => !isWord ascii after

/-! ## §3 Marked expressions -/

/-- An expression at a position of a text. Each composite node knows whether it matches the empty
text here, and whether one of its marks stands at its end. -/
inductive Marked where
  | empty
  | set (characters : CodePoints) (marked : Bool)
  | look (look : Look) (ascii : Bool) (holds : Bool)
  | seq (first second : Marked) (nullable final : Bool)
  | alt (left right : Marked) (nullable final : Bool)
  | star (body : Marked) (final : Bool)
  deriving Inhabited

namespace Marked

/-- Whether the expression matches the empty text at this position. -/
def nullable : Marked → Bool
  | .empty => true
  | .set _ _ => false
  | .look _ _ holds => holds
  | .seq _ _ nullable _ => nullable
  | .alt _ _ nullable _ => nullable
  | .star _ _ => true

/-- Whether a mark stands at the end of the expression. -/
def final : Marked → Bool
  | .empty => false
  | .set _ marked => marked
  | .look _ _ _ => false
  | .seq _ _ _ final => final
  | .alt _ _ _ final => final
  | .star _ final => final

/-- One expression after the other. -/
def seqNode (first second : Marked) : Marked :=
  .seq first second (first.nullable && second.nullable)
    ((first.final && second.nullable) || second.final)

/-- One of two expressions. -/
def altNode (left right : Marked) : Marked :=
  .alt left right (left.nullable || right.nullable) (left.final || right.final)

/-- An expression any number of times. -/
def starNode (body : Marked) : Marked :=
  .star body body.final

/-- The expression without marks, at a position between two neighbours. -/
def unmarked (before after : Option Char) : Regex → Marked
  | .empty => .empty
  | .set s => .set s false
  | .look l ascii => .look l ascii (holds l ascii before after)
  | .seq first second => seqNode (unmarked before after first) (unmarked before after second)
  | .alt left right => altNode (unmarked before after left) (unmarked before after right)
  | .star body => starNode (unmarked before after body)

/-- Moves all marks over the character `c`, after which `after` comes. A mark enters the expression
from its left if `entering`. -/
def shift (c : Char) (after : Option Char) (entering : Bool) : Marked → Marked
  | .empty => .empty
  | .set s _ => .set s (entering && s.contains c.toNat)
  | .look l ascii _ => .look l ascii (holds l ascii (some c) after)
  | .seq first second _ _ =>
    seqNode (shift c after entering first)
      (shift c after ((entering && first.nullable) || first.final) second)
  | .alt left right _ _ => altNode (shift c after entering left) (shift c after entering right)
  | .star body final => starNode (shift c after (entering || final) body)

/-- Whether the expression matches somewhere from this position on. A match may begin at every
position, so a mark enters with every character. -/
def search (m : Marked) : List Char → Bool
  | [] => m.nullable || m.final
  | c :: rest => m.nullable || m.final || (m.shift c rest.head? true).search rest

end Marked

/-! ## §4 Searching -/

/-- **Search.** Whether the expression matches somewhere in the text. -/
def isMatch (r : Regex) (text : String) : Bool :=
  let cs := text.toList
  (Marked.unmarked none cs.head? r).search cs

end Regex

end WebTrip.Pattern

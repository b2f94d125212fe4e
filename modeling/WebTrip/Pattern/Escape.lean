import WebTrip.Pattern.Regex

/-!
# Escapes in patterns

The part of the pattern language that begins with a backslash: characters by number, classes by
letter or property, and assertions.

* `Flags` are the modes that change how a pattern is read.
* `Primitive` is what an escape, or any other single character of a pattern, stands for.
* `readEscape?` reads an escape.
-/

namespace WebTrip.Pattern

open WebTrip.Text

/-- The modes of a pattern. -/
structure Flags where
  /-- `i`: letters of either case match each other. -/
  ignoreCase : Bool := false
  /-- `m`: the marks for start and end also hold at line ends. -/
  multiLine : Bool := false
  /-- `s`: the dot matches a line feed. -/
  dotMatchesAll : Bool := false
  /-- `U`: repetitions are lazy unless they say otherwise; no matter for whether one matches. -/
  swapGreed : Bool := false
  /-- `u`: classes and boundaries are those of Unicode, not of ASCII. -/
  unicode : Bool := true
  /-- `R`: lines may end in CR, LF or both. -/
  anyLineEnd : Bool := false
  /-- `x`: blanks and comments in the pattern do not count. -/
  verbose : Bool := false

/-- What a single item of a pattern stands for. -/
inductive Primitive where
  /-- A character; `byte` says that it was given by two hexadecimal digits. -/
  | literal (c : Char) (byte : Bool)
  | dot
  | class (characters : CodePoints)
  | look (look : Look)

/-! ## §1 Blanks and comments -/

/-- Passes over blanks and comments of a verbose pattern. -/
def skipBlanks (inComment : Bool) : List Char → List Char
  | [] => []
  | c :: rest =>
    if inComment then skipBlanks (c != '\n') rest
    else if isBlank c then skipBlanks false rest
    else if c = '#' then skipBlanks true rest
    else c :: rest

/-- Passes over what does not count in a pattern. -/
def Flags.skip (flags : Flags) (cs : List Char) : List Char :=
  if flags.verbose then skipBlanks false cs else cs

/-! ## §2 Characters by number -/

/-- The value of a hexadecimal digit of either case. -/
def hexValue? (c : Char) : Option Nat :=
  if '0' ≤ c ∧ c ≤ '9' then some (c.toNat - 0x30)
  else if 'a' ≤ c ∧ c ≤ 'f' then some (c.toNat - 0x57)
  else if 'A' ≤ c ∧ c ≤ 'F' then some (c.toNat - 0x37)
  else none

/-- The character of a number, if there is one. -/
def charOfNumber? (n : Nat) : Option Char :=
  if n.isValidChar then some (Char.ofNat n) else none

/-- Reads exactly `count` hexadecimal digits, given the value of those before. -/
def readHexDigits? (flags : Flags) : Nat → Nat → List Char → Option (Nat × List Char)
  | 0, value, cs => some (value, cs)
  | count + 1, value, cs =>
    match cs with
    | [] => none
    | c :: rest => do
      let d ← hexValue? c
      readHexDigits? flags count (value * 16 + d) (flags.skip rest)

/-- Reads hexadecimal digits up to a closing brace, given the value of those before, if any. -/
def readBracedHex? (flags : Flags) (value : Option Nat) : List Char → Option (Nat × List Char)
  | [] => none
  | c :: rest =>
    if c = '\x7d' then value.map fun n => (n, rest)
    else if flags.verbose && isBlank c then readBracedHex? flags value rest
    else do
      let d ← hexValue? c
      readBracedHex? flags (some (value.getD 0 * 16 + d)) rest

/-- Reads a character given by number, after the letter that tells the count of its digits. -/
def readNumber? (flags : Flags) (count : Nat) (cs : List Char) : Option (Primitive × List Char) :=
  match flags.skip cs with
  | '\x7b' :: rest => do
    let (n, rest) ← readBracedHex? flags none rest
    let c ← charOfNumber? n
    return (.literal c false, rest)
  | rest => do
    let (n, rest) ← readHexDigits? flags count 0 rest
    let c ← charOfNumber? n
    return (.literal c (count == 2), rest)

/-! ## §3 Classes -/

/-- The last code point that classes can hold: without Unicode they are sets of bytes. -/
def Flags.last (flags : Flags) : Nat :=
  if flags.unicode then Unicode.lastCodePoint else 0xff

/-- The class with case ignored if the flags say so. -/
def Flags.fold (flags : Flags) (s : CodePoints) : CodePoints :=
  if flags.ignoreCase then
    if flags.unicode then Unicode.foldCase s else Unicode.foldLatinCase s
  else s

/-- The class or its complement. -/
def Flags.negateIf (flags : Flags) (negated : Bool) (s : CodePoints) : CodePoints :=
  if negated then s.complement flags.last else s

/-- The class of a letter: digits, blanks or characters of words, or what is none of these. -/
def letterClass? (flags : Flags) (letter : Char) : Option CodePoints :=
  let ascii := fun name => (Unicode.asciiClass? name).getD CodePoints.empty
  let digits := if flags.unicode then Unicode.digits else ascii "digit"
  let blanks := if flags.unicode then Unicode.blanks else ascii "space"
  let word := if flags.unicode then Unicode.wordCharacters else ascii "word"
  if letter = 'd' then some digits
  else if letter = 'D' then some (flags.negateIf true digits)
  else if letter = 's' then some blanks
  else if letter = 'S' then some (flags.negateIf true blanks)
  else if letter = 'w' then some word
  else if letter = 'W' then some (flags.negateIf true word)
  else none

/-- The parts of a text before and after the first place where another one stands. -/
def splitAt? (mark : List Char) : List Char → Option (List Char × List Char)
  | [] => none
  | c :: rest =>
    if mark.isPrefixOf (c :: rest) then some ([], (c :: rest).drop mark.length)
    else (splitAt? mark rest).map fun (before, after) => (c :: before, after)

/-- The class that the text between the braces of a property names: a name alone, or a property and
a value with a mark between them. The flag says whether the mark negates. -/
def propertyClass? (content : List Char) : Option (CodePoints × Bool) :=
  let byValue := fun (parts : List Char × List Char) =>
    Unicode.classByValue? (String.ofList parts.1) (String.ofList parts.2)
  match splitAt? ['!', '='] content with
  | some parts => (byValue parts).map (·, true)
  | none => match splitAt? [':'] content <|> splitAt? ['='] content with
    | some parts => (byValue parts).map (·, false)
    | none => (Unicode.classNamed? (String.ofList content)).map (·, false)

/-- Reads a property after its letter. -/
def readProperty? (flags : Flags) (negated : Bool) (cs : List Char) :
    Option (Primitive × List Char) :=
  if !flags.unicode then none
  else
    let finish := fun (s : CodePoints) (mark : Bool) (rest : List Char) =>
      (Primitive.class (flags.negateIf (negated != mark) (flags.fold s)), rest)
    match flags.skip cs with
    | [] => none
    | '\x7b' :: rest => do
      let content := rest.takeWhile (· != '\x7d')
      let content := if flags.verbose then content.filter (!isBlank ·) else content
      match rest.dropWhile (· != '\x7d') with
      | [] => none
      | _ :: rest => do
        let (s, mark) ← propertyClass? content
        return finish s mark rest
    | c :: rest => do
      if c = '\\' then none
      else
        let s ← Unicode.category? (Unicode.plainName (String.ofList [c]))
        return finish s false rest

/-! ## §4 Assertions -/

/-- Reads what may stand in braces after the letter of a word boundary. Braces with something else
than letters and hyphens are left for a repetition. -/
def readBoundary? (flags : Flags) (cs : List Char) : Option (Primitive × List Char) :=
  match cs with
  | '\x7b' :: inside =>
    let isNameChar := fun c : Char => c.isAlpha || c == '-'
    match flags.skip inside with
    | [] => none
    | c :: rest =>
      if !isNameChar c then some (.look .wordBoundary, cs)
      else
        let name := (c :: rest).takeWhile isNameChar
        match (c :: rest).dropWhile isNameChar with
        | '\x7d' :: rest =>
          let look :=
            if name = "start".toList then some Look.wordStart
            else if name = "end".toList then some .wordEnd
            else if name = "start-half".toList then some .wordStartHalf
            else if name = "end-half".toList then some .wordEndHalf
            else none
          look.map fun l => (.look l, rest)
        | _ => none
  | cs => some (.look .wordBoundary, cs)

/-! ## §5 Escapes -/

/-- Characters with a meaning of their own in patterns. -/
def metaCharacters : List Char :=
  ['\\', '.', '+', '*', '?', '(', ')', '|', '[', ']', '\x7b', '\x7d', '^', '$', '#', '&', '-', '~']

/-- Whether a character may be escaped to stand for itself: every ASCII character but letters,
digits and the two that are kept for boundaries. -/
def standsForItself (c : Char) : Bool :=
  metaCharacters.contains c || (c.toNat < 0x80 && !c.isAlphanum && c != '<' && c != '>')

/-- Reads what follows a backslash. -/
def readEscape? (flags : Flags) : List Char → Option (Primitive × List Char)
  | [] => none
  | c :: rest =>
    if c.isDigit then none
    else if c = 'x' then readNumber? flags 2 rest
    else if c = 'u' then readNumber? flags 4 rest
    else if c = 'U' then readNumber? flags 8 rest
    else if c = 'p' then readProperty? flags false rest
    else if c = 'P' then readProperty? flags true rest
    else match letterClass? flags c with
      | some s => some (.class s, rest)
      | none =>
        if standsForItself c then some (.literal c false, rest)
        else if c = 'a' then some (.literal '\x07' false, rest)
        else if c = 'f' then some (.literal '\x0c' false, rest)
        else if c = 't' then some (.literal '\t' false, rest)
        else if c = 'n' then some (.literal '\n' false, rest)
        else if c = 'r' then some (.literal '\r' false, rest)
        else if c = 'v' then some (.literal '\x0b' false, rest)
        else if c = 'A' then some (.look .textStart, rest)
        else if c = 'z' then some (.look .textEnd, rest)
        else if c = 'b' then readBoundary? flags rest
        else if c = 'B' then some (.look .notWordBoundary, rest)
        else if c = '<' then some (.look .wordStart, rest)
        else if c = '>' then some (.look .wordEnd, rest)
        else none

end WebTrip.Pattern

import WebTrip.Number.Double
import WebTrip.Toml.Basic

/-!
# TOML scalars

Texts, names, numbers, truth values and dates of TOML 1.0. Every reader takes the characters that
are left and gives what it has read together with the rest, or nothing if what it reads is not
there.

* `Toml.readText?` reads a text in one of the four kinds of quotes.
* `Toml.readName?` reads one name of a key.
* `Toml.readScalar?` reads anything that is not in quotes, brackets or braces.
-/

namespace WebTrip.Toml

/-! ## §1 Characters -/

/-- Blanks within a line. -/
def isSpace (c : Char) : Bool :=
  c == ' ' || c == '\t'

/-- Characters that may stand in comments and texts: TAB and everything but controls. -/
def isVisible (c : Char) : Bool :=
  c == '\t' || (0x20 ≤ c.toNat && c.toNat != 0x7f)

/-- Passes over blanks within a line. -/
def skipSpaces (cs : List Char) : List Char :=
  cs.dropWhile isSpace

/-- Reads a line end. -/
def readNewline? : List Char → Option (List Char)
  | '\n' :: rest => some rest
  | '\r' :: '\n' :: rest => some rest
  | _ => none

/-- The value of a hexadecimal digit of either case. -/
def hexValue? (c : Char) : Option Nat :=
  if '0' ≤ c ∧ c ≤ '9' then some (c.toNat - 0x30)
  else if 'a' ≤ c ∧ c ≤ 'f' then some (c.toNat - 0x57)
  else if 'A' ≤ c ∧ c ≤ 'F' then some (c.toNat - 0x37)
  else none

/-! ## §2 Texts -/

/-- The character with a number of exactly so many hexadecimal digits. -/
def readNumbered? (count : Nat) (cs : List Char) : Option (Char × List Char) := do
  let ds := cs.take count
  let n ← ds.foldlM (fun n c => (hexValue? c).map (n * 16 + ·)) 0
  if ds.length = count ∧ n.isValidChar then return (Char.ofNat n, cs.drop count) else none

/-- Reads what follows a backslash. -/
def readEscape? : List Char → Option (Char × List Char)
  | 'b' :: rest => some ('\x08', rest)
  | 't' :: rest => some ('\t', rest)
  | 'n' :: rest => some ('\n', rest)
  | 'f' :: rest => some ('\x0c', rest)
  | 'r' :: rest => some ('\r', rest)
  | '\"' :: rest => some ('\"', rest)
  | '\\' :: rest => some ('\\', rest)
  | 'u' :: rest => readNumbered? 4 rest
  | 'U' :: rest => readNumbered? 8 rest
  | _ => none

/-- Reads a text with escapes up to its closing quote, given the characters so far, latest first.
`fuel` bounds the number of rounds. -/
def readBasic? : Nat → List Char → List Char → Option (String × List Char)
  | 0, _, _ => none
  | fuel + 1, done, cs =>
    match cs with
    | [] => none
    | '\"' :: rest => some (String.ofList done.reverse, rest)
    | '\\' :: rest => do
      let (c, rest) ← readEscape? rest
      readBasic? fuel (c :: done) rest
    | c :: rest => if isVisible c then readBasic? fuel (c :: done) rest else none

/-- Reads a text without escapes up to its closing quote. -/
def readLiteral? (cs : List Char) : Option (String × List Char) :=
  let content := cs.takeWhile fun c => isVisible c && c != '\x27'
  match cs.dropWhile fun c => isVisible c && c != '\x27' with
  | '\x27' :: rest => some (String.ofList content, rest)
  | _ => none

/-- Ends a text of several lines at three quotes; up to two more quotes before them are content. -/
def closeLines (quote : Char) (done : List Char) (cs : List Char) : String × List Char :=
  let extra := min 2 (cs.takeWhile (· == quote)).length
  (String.ofList ((List.replicate extra quote ++ done).reverse), cs.drop extra)

/-- Passes over blanks and line ends. -/
def skipBlankLines : List Char → List Char
  | '\r' :: '\n' :: rest => skipBlankLines rest
  | c :: rest => if isSpace c || c == '\n' then skipBlankLines rest else c :: rest
  | [] => []

/-- After a backslash at the end of a line: passes over all blanks and line ends up to the next
character. -/
def skipLineEnds? (cs : List Char) : Option (List Char) :=
  (readNewline? (skipSpaces cs)).map skipBlankLines

/-- Reads a text of several lines with escapes, after its opening quotes. `fuel` bounds the number
of rounds. -/
def readBasicLines? : Nat → List Char → List Char → Option (String × List Char)
  | 0, _, _ => none
  | fuel + 1, done, cs =>
    match cs with
    | [] => none
    | '\"' :: '\"' :: '\"' :: rest => some (closeLines '\"' done rest)
    | '\\' :: rest =>
      match readEscape? rest with
      | some (c, rest) => readBasicLines? fuel (c :: done) rest
      | none => do readBasicLines? fuel done (← skipLineEnds? rest)
    | c :: rest =>
      match readNewline? cs with
      | some rest => readBasicLines? fuel ('\n' :: done) rest
      | none => if isVisible c then readBasicLines? fuel (c :: done) rest else none

/-- Reads a text of several lines without escapes, after its opening quotes. `fuel` bounds the
number of rounds. -/
def readLiteralLines? : Nat → List Char → List Char → Option (String × List Char)
  | 0, _, _ => none
  | fuel + 1, done, cs =>
    match cs with
    | [] => none
    | '\x27' :: '\x27' :: '\x27' :: rest => some (closeLines '\x27' done rest)
    | c :: rest =>
      match readNewline? cs with
      | some rest => readLiteralLines? fuel ('\n' :: done) rest
      | none => if isVisible c then readLiteralLines? fuel (c :: done) rest else none

/-- The rest of a text of several lines without the line end right after its opening quotes. -/
def skipFirstNewline (cs : List Char) : List Char :=
  (readNewline? cs).getD cs

/-- Reads a text in quotes of any kind. -/
def readText? (cs : List Char) : Option (String × List Char) :=
  match cs with
  | '\"' :: '\"' :: '\"' :: rest => readBasicLines? (rest.length + 1) [] (skipFirstNewline rest)
  | '\"' :: rest => readBasic? (rest.length + 1) [] rest
  | '\x27' :: '\x27' :: '\x27' :: rest =>
    readLiteralLines? (rest.length + 1) [] (skipFirstNewline rest)
  | '\x27' :: rest => readLiteral? rest
  | _ => none

/-! ## §3 Names -/

/-- Characters of a name without quotes. -/
def isNameChar (c : Char) : Bool :=
  c.isAlphanum || c == '_' || c == '-'

/-- Reads one name of a key: in quotes on one line, or without quotes. -/
def readName? (cs : List Char) : Option (String × List Char) :=
  match cs with
  | '\"' :: rest => readBasic? (rest.length + 1) [] rest
  | '\x27' :: rest => readLiteral? rest
  | cs =>
    let name := cs.takeWhile isNameChar
    if name.isEmpty then none else some (String.ofList name, cs.dropWhile isNameChar)

/-! ## §4 Digits -/

/-- Reads digits with single underscores between them, given the digits so far, latest first. -/
def readDigitsFrom? (isDigit : Char → Bool) (done : List Char) :
    List Char → Option (List Char × List Char)
  | '_' :: c :: rest =>
    if isDigit c then readDigitsFrom? isDigit (c :: done) rest else none
  | c :: rest =>
    if isDigit c then readDigitsFrom? isDigit (c :: done) rest
    else if c = '_' then none
    else some (done.reverse, c :: rest)
  | [] => some (done.reverse, [])

/-- Reads one or more digits with single underscores between them. -/
def readDigits? (isDigit : Char → Bool) : List Char → Option (List Char × List Char)
  | c :: rest => if isDigit c then readDigitsFrom? isDigit [c] rest else none
  | [] => none

/-- The number that digits spell in a base. -/
def digitsValue (base : Nat) (ds : List Char) : Nat :=
  ds.foldl (fun n c => n * base + (hexValue? c).getD 0) 0

/-- Reads exactly so many decimal digits. -/
def readFixed? (count : Nat) (cs : List Char) : Option (Nat × List Char) :=
  let ds := cs.take count
  if ds.length = count ∧ ds.all Char.isDigit then some (digitsValue 10 ds, cs.drop count) else none

/-- Reads one given character. -/
def readChar? (expected : Char) : List Char → Option (List Char)
  | c :: rest => if c = expected then some rest else none
  | [] => none

/-! ## §5 Dates and times -/

/-- The number of days in a month. -/
def daysIn (year month : Nat) : Nat :=
  let leap := year % 4 = 0 ∧ (year % 100 ≠ 0 ∨ year % 400 = 0)
  if month = 2 then if leap then 29 else 28
  else if month = 4 ∨ month = 6 ∨ month = 9 ∨ month = 11 then 30
  else 31

/-- Reads a date. -/
def readDate? (cs : List Char) : Option (List Char) := do
  let (year, rest) ← readFixed? 4 cs
  let (month, rest) ← readFixed? 2 (← readChar? '-' rest)
  let (day, rest) ← readFixed? 2 (← readChar? '-' rest)
  if 1 ≤ month ∧ month ≤ 12 ∧ 1 ≤ day ∧ day ≤ daysIn year month then some rest else none

/-- Reads a fraction of a second, if there is one. -/
def readSecondFraction? : List Char → Option (List Char)
  | '.' :: rest =>
    if (rest.takeWhile Char.isDigit).isEmpty then none else some (rest.dropWhile Char.isDigit)
  | rest => some rest

/-- Reads a time of day. -/
def readTime? (cs : List Char) : Option (List Char) := do
  let (hour, rest) ← readFixed? 2 cs
  let (minute, rest) ← readFixed? 2 (← readChar? ':' rest)
  let (second, rest) ← readFixed? 2 (← readChar? ':' rest)
  let rest ← readSecondFraction? rest
  if hour ≤ 23 ∧ minute ≤ 59 ∧ second ≤ 60 then some rest else none

/-- Reads an offset from universal time, if there is one. -/
def readOffset? : List Char → Option (List Char)
  | c :: rest =>
    if c = 'Z' ∨ c = 'z' then some rest
    else if c = '+' ∨ c = '-' then do
      let (hour, rest) ← readFixed? 2 rest
      let (minute, rest) ← readFixed? 2 (← readChar? ':' rest)
      if hour ≤ 23 ∧ minute ≤ 59 then some rest else none
    else some (c :: rest)
  | [] => some []

/-- Reads what may follow a date: a mark, a time and an offset. A blank is such a mark only before a
time. -/
def readAfterDate? : List Char → Option (List Char)
  | c :: rest =>
    if c = 'T' ∨ c = 't' then (readTime? rest).bind readOffset?
    else if c = ' ' ∧ (readFixed? 2 rest).isSome ∧ rest[2]? = some ':' then
      (readTime? rest).bind readOffset?
    else some (c :: rest)
  | [] => some []

/-- Whether a text begins like a date or a time: with four digits and a hyphen, or two digits and a
colon. -/
def looksLikeDate (cs : List Char) : Bool :=
  ((readFixed? 4 cs).any fun p => p.2.head? == some '-')
    || ((readFixed? 2 cs).any fun p => p.2.head? == some ':')

/-- Reads a date, a time or both. -/
def readDateTime? (cs : List Char) : Option (List Char) :=
  if (readFixed? 4 cs).isSome then (readDate? cs).bind readAfterDate? else readTime? cs

/-! ## §6 Numbers -/

/-- Passes over a sign. -/
def skipSign : List Char → Bool × List Char
  | '+' :: rest => (false, rest)
  | '-' :: rest => (true, rest)
  | rest => (false, rest)

/-- Reads a decimal integer without a sign: a zero alone, or digits that do not begin with one. -/
def readDecimal? : List Char → Option (List Char × List Char)
  | '0' :: rest => some (['0'], rest)
  | rest => readDigits? Char.isDigit rest

/-- The least and the greatest integer are those of 64 signed bits. -/
def integerFits (negative : Bool) (n : Nat) : Bool :=
  if negative then n ≤ 2 ^ 63 else n < 2 ^ 63

/-- Reads an exponent, if there is one: its sign and value. -/
def readExponent? : List Char → Option (Option Int × List Char)
  | c :: rest =>
    if c = 'e' ∨ c = 'E' then do
      let (negative, rest) := skipSign rest
      let (ds, rest) ← readDigits? Char.isDigit rest
      let n : Int := digitsValue 10 ds
      return (some (if negative then -n else n), rest)
    else some (none, c :: rest)
  | [] => some (none, [])

/-- Reads a decimal number, which must fit its type: integers 64 signed bits, other numbers the
range of finite floats if they are positive. -/
def readNumber? (cs : List Char) : Option (List Char) := do
  let (negative, rest) := skipSign cs
  let (whole, rest) ← readDecimal? rest
  let (fraction, afterPoint) ← match rest with
    | '.' :: rest => readDigits? Char.isDigit rest
    | rest => some ([], rest)
  let (power, after) ← readExponent? afterPoint
  if fraction.isEmpty && power.isNone then
    if integerFits negative (digitsValue 10 whole) then some rest else none
  else
    let digits := digitsValue 10 (whole ++ fraction)
    let finite := (Double.ofDecimal negative digits (power.getD 0 - fraction.length)).isSome
    if negative || finite then some after else none

/-- Reads an integer in another base, after its mark. -/
def readBased? (base : Nat) (isDigit : Char → Bool) (cs : List Char) : Option (List Char) := do
  let (ds, rest) ← readDigits? isDigit cs
  if integerFits false (digitsValue base ds) then some rest else none

/-- Reads a given word. -/
def readWord? (word : List Char) (cs : List Char) : Option (List Char) :=
  if word.isPrefixOf cs then some (cs.drop word.length) else none

/-- Reads one of the numbers that have names. -/
def readNamedNumber? (cs : List Char) : Option (List Char) :=
  let rest := (skipSign cs).2
  readWord? ['i', 'n', 'f'] rest <|> readWord? ['n', 'a', 'n'] rest

/-- Reads a value that is not in quotes, brackets or braces. -/
def readScalar? (cs : List Char) : Option (List Char) :=
  match cs with
  | '0' :: 'x' :: rest => readBased? 16 (fun c => (hexValue? c).isSome) rest
  | '0' :: 'o' :: rest => readBased? 8 (fun c => '0' ≤ c && c ≤ '7') rest
  | '0' :: 'b' :: rest => readBased? 2 (fun c => c == '0' || c == '1') rest
  | 't' :: _ => readWord? ['t', 'r', 'u', 'e'] cs
  | 'f' :: _ => readWord? ['f', 'a', 'l', 's', 'e'] cs
  | cs =>
    if looksLikeDate cs then readDateTime? cs
    else readNamedNumber? cs <|> readNumber? cs

end WebTrip.Toml

import WebTrip.Json.Numeral

/-!
# JSON tokens

A text is split into tokens by a machine that reads one character at a time. It never fails: where
the text stops being JSON the token `bad` is the last one, so that whoever reads the tokens from
left to right meets the first fault in its place.

Two faults do not end a text, because a reader that only skips a value does not see them: a string
with half of a surrogate pair has no content, and a numeral beyond every finite number has no value.

* `Json.Token` and `Json.Token.ofText`.
* `Json.Scanner.read` is the machine's step.
-/

namespace WebTrip.Json

/-- A token of JSON text. -/
inductive Token where
  | openArray
  | closeArray
  | openObject
  | closeObject
  | comma
  | colon
  | null
  | bool (value : Bool)
  | number (numeral : Numeral)
  /-- A string; `none` when a surrogate in it has no partner. -/
  | string (value : Option String)
  /-- From here on the text is not JSON. -/
  | bad
  deriving DecidableEq

/-! ## §1 Strings -/

/-- What a string is waiting for. -/
inductive StringPart where
  /-- The next character. -/
  | plain
  /-- The character after a backslash. -/
  | escape
  /-- More digits of a numeric escape: how many have been read, and their value. -/
  | hex (count value : Nat)
  deriving DecidableEq

/-- The string read so far. -/
structure Literal where
  /-- The characters read so far, latest first. -/
  content : List Char := []
  /-- The first half of a surrogate pair, when its second half must follow. -/
  pending : Option Nat := none
  /-- Whether every surrogate so far has its partner. -/
  whole : Bool := true
  deriving DecidableEq

/-- The value of a hexadecimal digit of either case. -/
def hexDigit? (c : Char) : Option Nat :=
  if '0' ≤ c ∧ c ≤ '9' then some (c.toNat - 0x30)
  else if 'a' ≤ c ∧ c ≤ 'f' then some (c.toNat - 0x57)
  else if 'A' ≤ c ∧ c ≤ 'F' then some (c.toNat - 0x37)
  else none

/-- Takes a character that is not half of a pair. -/
def Literal.push (l : Literal) (c : Char) : Literal :=
  ⟨c :: l.content, none, l.whole && l.pending.isNone⟩

/-- Takes a number from a numeric escape: a character, or half of a surrogate pair. -/
def Literal.pushUnit (l : Literal) (n : Nat) : Literal :=
  if 0xdc00 ≤ n ∧ n ≤ 0xdfff then
    match l.pending with
    | some high =>
      let c := Char.ofNat (0x10000 + (high - 0xd800) * 0x400 + (n - 0xdc00))
      ⟨c :: l.content, none, l.whole⟩
    | none => { l with whole := false }
  else if 0xd800 ≤ n ∧ n ≤ 0xdbff then ⟨l.content, some n, l.whole && l.pending.isNone⟩
  else l.push (Char.ofNat n)

/-- The string, if every surrogate has its partner. -/
def Literal.value (l : Literal) : Option String :=
  if l.whole && l.pending.isNone then some (String.ofList l.content.reverse) else none

/-- The character of a short escape. -/
def shortEscape? (c : Char) : Option Char :=
  if c = '\"' ∨ c = '\\' ∨ c = '/' then some c
  else if c = 'b' then some '\x08'
  else if c = 'f' then some '\x0c'
  else if c = 'n' then some '\n'
  else if c = 'r' then some '\r'
  else if c = 't' then some '\t'
  else none

/-! ## §2 The machine -/

/-- What the machine is reading. -/
inductive Mode where
  /-- Nothing: the next character begins a token or is a blank. -/
  | between
  /-- A word of which these characters are left. -/
  | word (rest : List Char) (token : Token)
  | number (part : NumberPart) (numeral : Numeral)
  | string (part : StringPart) (literal : Literal)
  /-- Nothing more: the text is not JSON. -/
  | stopped
  deriving DecidableEq

/-- The machine: the tokens read so far, latest first, and what is being read. -/
structure Scanner where
  tokens : List Token := []
  mode : Mode := .between

namespace Scanner

/-- Ends a token. -/
def emit (s : Scanner) (t : Token) : Scanner :=
  ⟨t :: s.tokens, .between⟩

/-- Ends the text as JSON. -/
def stop (s : Scanner) : Scanner :=
  ⟨.bad :: s.tokens, .stopped⟩

/-- Reads a character that begins a token. Only space, TAB, LF and CR are blank. -/
def start (s : Scanner) (c : Char) : Scanner :=
  if c = ' ' ∨ c = '\t' ∨ c = '\n' ∨ c = '\r' then ⟨s.tokens, .between⟩
  else if c = '[' then s.emit .openArray
  else if c = ']' then s.emit .closeArray
  else if c = '\x7b' then s.emit .openObject
  else if c = '\x7d' then s.emit .closeObject
  else if c = ',' then s.emit .comma
  else if c = ':' then s.emit .colon
  else if c = '\"' then ⟨s.tokens, .string .plain {}⟩
  else if c = 'n' then ⟨s.tokens, .word ['u', 'l', 'l'] .null⟩
  else if c = 't' then ⟨s.tokens, .word ['r', 'u', 'e'] (.bool true)⟩
  else if c = 'f' then ⟨s.tokens, .word ['a', 'l', 's', 'e'] (.bool false)⟩
  else if c = '-' then ⟨s.tokens, .number .minus { negative := true }⟩
  else match Numeral.extend {} .minus c with
    | some (numeral, part) => ⟨s.tokens, .number part numeral⟩
    | none => s.stop

/-- Reads a character of a string. -/
def readString (s : Scanner) (part : StringPart) (l : Literal) (c : Char) : Scanner :=
  match part with
  | .plain =>
    if c = '\"' then s.emit (.string l.value)
    else if c = '\\' then ⟨s.tokens, .string .escape l⟩
    else if c.toNat < 0x20 then s.stop
    else ⟨s.tokens, .string .plain (l.push c)⟩
  | .escape =>
    if c = 'u' then ⟨s.tokens, .string (.hex 0 0) l⟩
    else match shortEscape? c with
      | some e => ⟨s.tokens, .string .plain (l.push e)⟩
      | none => s.stop
  | .hex count value =>
    match hexDigit? c with
    | none => s.stop
    | some d =>
      let value := value * 16 + d
      if count = 3 then ⟨s.tokens, .string .plain (l.pushUnit value)⟩
      else ⟨s.tokens, .string (.hex (count + 1) value) l⟩

/-- Reads one character. -/
def read (s : Scanner) (c : Char) : Scanner :=
  match s.mode with
  | .between => s.start c
  | .word [] _ => s.stop
  | .word (expected :: rest) token =>
    if c = expected then
      if rest.isEmpty then s.emit token else ⟨s.tokens, .word rest token⟩
    else s.stop
  | .number part numeral =>
    match numeral.extend part c with
    | some (numeral, part) => ⟨s.tokens, .number part numeral⟩
    | none => if part.endsBefore c then (s.emit (.number numeral)).start c else s.stop
  | .string part literal => s.readString part literal c
  | .stopped => s

/-- Ends the text, and with it a number that may end here. -/
def finish (s : Scanner) : Scanner :=
  match s.mode with
  | .between | .stopped => s
  | .number part numeral =>
    if part.isFinal then s.emit (.number numeral) else s.stop
  | .word _ _ | .string _ _ => s.stop

end Scanner

/-- The tokens of a text. -/
def Token.ofText (text : String) : List Token :=
  (text.toList.foldl Scanner.read {}).finish.tokens.reverse

end WebTrip.Json

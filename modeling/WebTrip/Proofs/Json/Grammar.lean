import Mathlib.Data.List.Forall2

/-!
# The grammar of JSON text

Which texts are JSON, and which texts spell a given string or a given record, said without a
machine that reads them. Between two tokens there may be any blanks; a character of a string may be
escaped in any way that means it; the members of an object come in any order.

A record is spelled by an object with its fields as members, among any members that are none of its
fields, or by an array of its fields' values. Fields that are omissible may be left out: any of them
from an object, the last ones from an array.

## Main definitions

- `SpellsString`, `SpellsList`: texts that spell a string, or a list of items
- `IsJson`: all texts of JSON values
- `Slot`, `SpellsRecord`: texts that spell a record with given fields
-/

namespace WebTrip.Json

/-! ## §1 Blanks -/

/-- Only space, TAB, LF and CR are blank. -/
def IsBlanks (text : String) : Prop :=
  ∀ c ∈ text.toList, c = ' ' ∨ c = '\t' ∨ c = '\n' ∨ c = '\r'

/-- The item with blanks around it. -/
def Padded (item text : String) : Prop :=
  ∃ before after, IsBlanks before ∧ IsBlanks after ∧ text = before ++ item ++ after

/-! ## §2 Strings -/

/-- A hexadecimal digit of either case, and its value. -/
def IsHexDigit (c : Char) (n : Nat) : Prop :=
  "0123456789abcdef".toList[n]? = some c ∨ "0123456789ABCDEF".toList[n]? = some c

/-- A numeric escape and its number. -/
inductive NumericEscape : String → Nat → Prop where
  | digits {a b c d : Char} {i j k l : Nat} :
      IsHexDigit a i → IsHexDigit b j → IsHexDigit c k → IsHexDigit d l →
      NumericEscape (String.ofList ['\\', 'u', a, b, c, d]) (((i * 16 + j) * 16 + k) * 16 + l)

/-- The characters that are escaped by a letter or by themselves. -/
def shortEscapes : List (Char × Char) :=
  [('\"', '\"'), ('\\', '\\'), ('/', '/'), ('b', '\x08'), ('f', '\x0c'), ('n', '\n'), ('r', '\r'),
    ('t', '\t')]

/-- A character that may stand for itself: no quote, no backslash and no control. -/
def IsUnescaped (c : Char) : Prop :=
  c ≠ '\"' ∧ c ≠ '\\' ∧ 0x20 ≤ c.toNat

instance (c : Char) : Decidable (IsUnescaped c) :=
  inferInstanceAs (Decidable (_ ∧ _ ∧ _))

/-- A text that spells a character within a string. -/
inductive SpellsChar (c : Char) : String → Prop where
  | itself : IsUnescaped c → SpellsChar c (String.singleton c)
  | short {letter : Char} :
      (letter, c) ∈ shortEscapes → SpellsChar c (String.ofList ['\\', letter])
  | numeric {text : String} : NumericEscape text c.toNat → SpellsChar c text
  /-- Characters beyond four hexadecimal digits are split into surrogates. -/
  | surrogates {text text' : String} {high low : Nat} :
      NumericEscape text high → NumericEscape text' low →
      0xd800 ≤ high → high < 0xdc00 → 0xdc00 ≤ low → low < 0xe000 →
      c.toNat = 0x10000 + (high - 0xd800) * 0x400 + (low - 0xdc00) →
      SpellsChar c (text ++ text')

/-- The text spells the string, in quotes. -/
def SpellsString (s text : String) : Prop :=
  ∃ pieces, List.Forall₂ SpellsChar s.toList pieces ∧
    text = "\"" ++ String.join pieces ++ "\""

/-- A piece of any string, whether or not it spells a character: it may be a surrogate on its
own. -/
inductive IsPiece : String → Prop where
  | itself {c : Char} : IsUnescaped c → IsPiece (String.singleton c)
  | short {letter c : Char} :
      (letter, c) ∈ shortEscapes → IsPiece (String.ofList ['\\', letter])
  | numeric {text : String} {n : Nat} : NumericEscape text n → IsPiece text

/-- Any string, in quotes. -/
def IsString (text : String) : Prop :=
  ∃ pieces, (∀ piece ∈ pieces, IsPiece piece) ∧ text = "\"" ++ String.join pieces ++ "\""

/-! ## §3 Numbers -/

/-- One or more decimal digits. -/
def IsDigits (text : String) : Prop :=
  text ≠ "" ∧ ∀ c ∈ text.toList, '0' ≤ c ∧ c ≤ '9'

/-- Digits without a zero in front, or a zero. -/
def IsWhole (text : String) : Prop :=
  text = "0" ∨ IsDigits text ∧ text.toList.head? ≠ some '0'

/-- A point and digits, or nothing. -/
def IsFraction (text : String) : Prop :=
  text = "" ∨ ∃ digits, IsDigits digits ∧ text = "." ++ digits

/-- A mark, perhaps a sign, and digits, or nothing. -/
def IsExponent (text : String) : Prop :=
  text = "" ∨ ∃ mark sign digits, (mark = "e" ∨ mark = "E") ∧
    (sign = "" ∨ sign = "+" ∨ sign = "-") ∧ IsDigits digits ∧ text = mark ++ sign ++ digits

/-- A number, however large or precise. -/
def IsNumber (text : String) : Prop :=
  ∃ sign whole fraction exponent, (sign = "" ∨ sign = "-") ∧ IsWhole whole ∧ IsFraction fraction ∧
    IsExponent exponent ∧ text = sign ++ whole ++ fraction ++ exponent

/-! ## §4 Containers -/

/-- The items between two marks, with commas between them and blanks around them. -/
inductive Enclosed (opening closing : String) : List String → String → Prop where
  | empty {blanks : String} :
      IsBlanks blanks → Enclosed opening closing [] (opening ++ blanks ++ closing)
  | items {items padded : List String} :
      items ≠ [] → List.Forall₂ Padded items padded →
      Enclosed opening closing items (opening ++ ",".intercalate padded ++ closing)

/-- An array of the items. -/
abbrev IsArray : List String → String → Prop :=
  Enclosed "[" "]"

/-- An object of the members. -/
abbrev IsObject : List String → String → Prop :=
  Enclosed "\x7b" "\x7d"

/-- A member of an object: its name and its value, with a colon between them. -/
def IsMember (name value text : String) : Prop :=
  ∃ before after, IsBlanks before ∧ IsBlanks after ∧
    text = name ++ before ++ ":" ++ after ++ value

/-! ## §5 Values -/

/-- The text of a JSON value, however deeply nested. -/
inductive IsJson : String → Prop where
  | null : IsJson "null"
  | true : IsJson "true"
  | false : IsJson "false"
  | number {text : String} : IsNumber text → IsJson text
  | string {text : String} : IsString text → IsJson text
  | array {items : List String} {text : String} :
      (∀ item ∈ items, IsJson item) → IsArray items text → IsJson text
  | object {members : List (String × String)} {items : List String} {text : String} :
      (∀ member ∈ members, IsString member.1) → (∀ member ∈ members, IsJson member.2) →
      List.Forall₂ (fun member item => IsMember member.1 member.2 item) members items →
      IsObject items text → IsJson text

/-! ## §6 Lists and records -/

/-- The text is an array of texts that spell the items in order. -/
def SpellsList {α : Type} (spells : α → String → Prop) (items : List α) (text : String) : Prop :=
  ∃ texts, List.Forall₂ spells items texts ∧ IsArray texts text

/-- A field of a record: its name, whether it may be left out, and what may stand for its value. -/
structure Slot (α : Type) where
  name : String
  omissible : Bool
  value : α → Prop

/-- The members are the fields of a record in any order, each at most once, among any others; only
omissible fields are left out. -/
structure RecordMembers {α : Type} (slots : List (Slot α)) (other : α → Prop)
    (members : List (String × α)) : Prop where
  known : ∀ member ∈ members, ∀ slot ∈ slots, slot.name = member.1 → slot.value member.2
  unknown : ∀ member ∈ members, (∀ slot ∈ slots, slot.name ≠ member.1) → other member.2
  once : ∀ slot ∈ slots, (members.map Prod.fst).count slot.name ≤ 1
  present : ∀ slot ∈ slots, slot.omissible = false → slot.name ∈ members.map Prod.fst

/-- The items are the values of a record's fields in their order; behind the last one only omissible
fields are left out. -/
inductive RecordItems {α : Type} : List (Slot α) → List α → Prop where
  | nil {slots : List (Slot α)} : (∀ slot ∈ slots, slot.omissible = true) → RecordItems slots []
  | cons {slot : Slot α} {slots : List (Slot α)} {item : α} {items : List α} :
      slot.value item → RecordItems slots items → RecordItems (slot :: slots) (item :: items)

/-- The text spells a record, as an object or as an array. -/
inductive SpellsRecord (slots : List (Slot String)) (text : String) : Prop where
  | object {members : List (String × String)} {items : List String} :
      RecordMembers slots IsJson members →
      List.Forall₂ (fun member item => ∃ name, SpellsString member.1 name ∧
        IsMember name member.2 item) members items →
      IsObject items text → SpellsRecord slots text
  | array {items : List String} :
      RecordItems slots items → IsArray items text → SpellsRecord slots text

end WebTrip.Json

/-!
# UTF-8

Decoding bytes as UTF-8, with the place and the extent of the first fault.

* `decodeUtf8` decodes a list of bytes.
* `Utf8Fault.message` says where decoding failed.
-/

namespace WebTrip.Text

/-- The first fault of a byte sequence. -/
structure Utf8Fault where
  /-- How many bytes before it are well formed. -/
  index : Nat
  /-- How many bytes are wrong together; `none` if the sequence ends inside a character. -/
  length : Option Nat
  deriving DecidableEq

/-- The wording of a fault. -/
def Utf8Fault.message (f : Utf8Fault) : String :=
  match f.length with
  | some n => "invalid utf-8 sequence of " ++ toString n ++ " bytes from index " ++ toString f.index
  | none => "incomplete utf-8 byte sequence from index " ++ toString f.index

/-- How many bytes a character has that begins with a byte; `none` if no character does. -/
def leadLength? (a : Nat) : Option Nat :=
  if a < 0x80 then some 1
  else if 0xc2 ≤ a ∧ a ≤ 0xdf then some 2
  else if 0xe0 ≤ a ∧ a ≤ 0xef then some 3
  else if 0xf0 ≤ a ∧ a ≤ 0xf4 then some 4
  else none

/-- Whether a byte can be the second one of a character that begins with `a`. Overlong forms,
surrogates and numbers beyond the last code point are ruled out here. -/
def isSecond (a b : Nat) : Bool :=
  let least := if a = 0xe0 then 0xa0 else if a = 0xf0 then 0x90 else 0x80
  let most := if a = 0xed then 0x9f else if a = 0xf4 then 0x8f else 0xbf
  least ≤ b && b ≤ most

/-- Whether a byte can be the third or fourth one of a character. -/
def isTail (b : Nat) : Bool :=
  0x80 ≤ b && b ≤ 0xbf

/-- Decodes bytes, the first of which has an index, given the characters before, latest first. -/
def decodeUtf8From (index : Nat) (done : List Char) : List Nat → Except Utf8Fault (List Char)
  | [] => .ok done.reverse
  | a :: rest =>
    match leadLength? a, rest with
    | none, _ => .error ⟨index, some 1⟩
    | some 1, rest => decodeUtf8From (index + 1) (Char.ofNat a :: done) rest
    | some _, [] => .error ⟨index, none⟩
    | some n, b :: rest =>
      if !isSecond a b then .error ⟨index, some 1⟩
      else if n = 2 then
        decodeUtf8From (index + 2) (Char.ofNat ((a - 0xc0) * 0x40 + (b - 0x80)) :: done) rest
      else match rest with
        | [] => .error ⟨index, none⟩
        | c :: rest =>
          if !isTail c then .error ⟨index, some 2⟩
          else if n = 3 then
            let code := (a - 0xe0) * 0x1000 + (b - 0x80) * 0x40 + (c - 0x80)
            decodeUtf8From (index + 3) (Char.ofNat code :: done) rest
          else match rest with
            | [] => .error ⟨index, none⟩
            | d :: rest =>
              if !isTail d then .error ⟨index, some 3⟩
              else
                let code := (a - 0xf0) * 0x40000 + (b - 0x80) * 0x1000 + (c - 0x80) * 0x40
                  + (d - 0x80)
                decodeUtf8From (index + 4) (Char.ofNat code :: done) rest

/-- **Decoding.** The text that bytes encode. -/
def decodeUtf8 (bytes : List Nat) : Except Utf8Fault String :=
  (decodeUtf8From 0 [] bytes).map String.ofList

end WebTrip.Text

import WebTrip.Number.Decimal

/-!
# Reading decimals

A decimal is spelled by an optional sign and digits with at most one point among them; separators
`_` may stand anywhere after the first digit. A fraction digit that there is no room for is not
taken: the number is rounded on it, a half away from zero. Where this form fails, a form with an
exponent is tried.

* `Decimal.readPlain` reads the form without an exponent.
* `Decimal.readScientific` reads a plain form, a mark `e` and an exponent.
* `Decimal.read?` tries one after the other.

Texts are read in stages. A text of fewer than eighteen bytes has room for all its digits. In a
longer one the digits go into a *narrow* mantissa until this has grown close to 64 bits, and then
into a *wide* one, which is checked against the limit digit by digit.
-/

namespace WebTrip

namespace Decimal

/-! ## §1 Failures -/

/-- Why a text is not a decimal. -/
inductive ReadError where
  | empty
  | unknownCharacter
  | secondPoint
  | leadingSeparator
  | tooManyDigits
  | roundedTooLarge
  | noDigits
  deriving DecidableEq

/-- The wording of a failure. -/
def ReadError.message : ReadError → String
  | .empty => "Invalid decimal: empty"
  | .unknownCharacter => "Invalid decimal: unknown character"
  | .secondPoint => "Invalid decimal: two decimal points"
  | .leadingSeparator => "Invalid decimal: must start lead with a number"
  | .tooManyDigits => "Invalid decimal: overflow from too many digits"
  | .roundedTooLarge => "Invalid decimal: overflow from mantissa after rounding"
  | .noDigits => "Invalid decimal: no digits found"

/-- What is wrong with a character that can continue no decimal. -/
def ReadError.ofChar (c : Char) : ReadError :=
  if c = '.' then .secondPoint
  else if c = '_' then .leadingSeparator
  else .unknownCharacter

/-! ## §2 The plain form -/

/-- The value of a decimal digit. -/
def digit? (c : Char) : Option Nat :=
  if '0' ≤ c ∧ c ≤ '9' then some (c.toNat - 0x30) else none

/-- Where the next digit goes. -/
inductive Stage where
  /-- The mantissa has room for at least one more digit. -/
  | narrow
  /-- The mantissa is checked against the limit before a digit is taken. -/
  | wide
  /-- All places are taken: the number is rounded on the next digit. A separator in the place of
  this digit is passed over if `skipsSeparators`, and else counts as a zero. -/
  | full (skipsSeparators : Bool)
  deriving DecidableEq

/-- A decimal that has been read up to some character. -/
structure Reading where
  negative : Bool
  mantissa : Nat := 0
  scale : Nat := 0
  /-- Whether the point has been read. -/
  point : Bool := false
  /-- Whether a digit has been read. -/
  started : Bool := false
  stage : Stage := .narrow

/-- The bound from which on a narrow mantissa may not take another digit unchecked. -/
def narrowLimit : Nat := (2 ^ 64 - 1) / 10 - 255

/-- Takes a digit. In a text without limits the stage stays narrow. -/
def Reading.push (limited : Bool) (r : Reading) (d : Nat) : Reading :=
  let mantissa := r.mantissa * 10 + d
  let scale := if r.point then r.scale + 1 else r.scale
  let stage :=
    if limited && r.point && 28 ≤ scale then .full (r.stage == .wide)
    else if limited && (r.stage == .wide || narrowLimit ≤ mantissa) then .wide
    else .narrow
  { r with mantissa, scale, stage, started := true }

/-- The decimal that has been read. -/
def Reading.finish (r : Reading) : Except ReadError Decimal :=
  if r.started then
    match make? r.negative r.mantissa r.scale with
    | some d => .ok d
    | none => .error .tooManyDigits
  else .error .noDigits

/-- Rounds on a digit. A mantissa that outgrows its 96 bits gives up one place. -/
def Reading.roundOn (r : Reading) (d : Nat) : Except ReadError Decimal :=
  if d < 5 then r.finish
  else if r.mantissa + 1 < 2 ^ 96 then { r with mantissa := r.mantissa + 1 }.finish
  else if r.scale = 0 then .error .roundedTooLarge
  else { r with mantissa := (r.mantissa + 5) / 10, scale := r.scale - 1 }.finish

/-- After rounding, only digits and separators may follow. -/
def checkRest (rest : List Char) (result : Except ReadError Decimal) : Except ReadError Decimal :=
  match rest.find? fun c => (digit? c).isNone && c != '_' with
  | some c => .error (.ofChar c)
  | none => result

/-- Reads on from a character. `limited` says whether the limits on size apply. -/
def Reading.readOn (limited : Bool) (r : Reading) : List Char → Except ReadError Decimal
  | [] => r.finish
  | c :: rest =>
    match r.stage, digit? c with
    | .full _, some d => checkRest rest (r.roundOn d)
    | .full skips, none =>
      if c = '_' then
        if skips then r.readOn limited rest else checkRest rest r.finish
      else .error (.ofChar c)
    | stage, some d =>
      if stage = .wide ∧ 2 ^ 96 ≤ r.mantissa * 10 + d then
        if r.point then checkRest rest (r.roundOn d) else .error .tooManyDigits
      else (r.push limited d).readOn limited rest
    | stage, none =>
      if c = '.' ∧ r.point = false then { r with point := true }.readOn limited rest
      else if c = '_' ∧ (r.started ∨ stage = .wide) then r.readOn limited rest
      else .error (.ofChar c)

/-- Reads the form without an exponent. -/
def readPlain (text : List Char) : Except ReadError Decimal :=
  let limited := 18 ≤ (text.map Char.utf8Size).foldl (· + ·) 0
  match text with
  | [] => .error .empty
  | '-' :: rest => Reading.readOn limited ⟨true, 0, 0, false, false, .narrow⟩ rest
  | '+' :: rest => Reading.readOn limited ⟨false, 0, 0, false, false, .narrow⟩ rest
  | text => Reading.readOn limited ⟨false, 0, 0, false, false, .narrow⟩ text

/-! ## §3 The form with an exponent -/

/-- A natural number spelled by one or more digits, with an optional plus before them. -/
def readNatural? (text : List Char) : Option Nat :=
  let ds := match text with
    | '+' :: rest => rest
    | text => text
  if ds.isEmpty then none
  else ds.foldlM (fun n c => (digit? c).map (n * 10 + ·)) 0

/-- The decimal nearest to a decimal with fewer places, a half away from zero. -/
def roundTo (d : Decimal) (places : Nat) : Nat :=
  let unit := 10 ^ (d.scale - places)
  (2 * d.mantissa + unit) / (2 * unit)

/-- A decimal divided by a power of ten. Places beyond the limit are rounded away. -/
def shiftRight? (d : Decimal) (power : Nat) : Option Decimal :=
  if d.scale + power ≤ maxScale then make? d.negative d.mantissa (d.scale + power)
  else make? d.negative (d.roundTo (maxScale - power)) maxScale

/-- A decimal multiplied by a power of ten, if there is room for the product. -/
def shiftLeft? (d : Decimal) (power : Nat) : Option Decimal :=
  if power ≤ d.scale then make? d.negative d.mantissa (d.scale - power)
  else make? d.negative (d.mantissa * 10 ^ (power - d.scale)) 0

/-- Reads a plain form, a mark and an exponent of magnitude at most 28. -/
def readScientific? (text : List Char) : Option Decimal :=
  let isMark := fun c => c == 'e' || c == 'E'
  match text.dropWhile (!isMark ·) with
  | [] => none
  | _ :: exponent =>
    match readPlain (text.takeWhile (!isMark ·)) with
    | .error _ => none
    | .ok base =>
      match exponent with
      | '-' :: digits => do
        let power ← readNatural? digits
        if power ≤ maxScale then base.shiftRight? power else none
      | digits => do
        let power ← readNatural? digits
        if power ≤ maxScale then base.shiftLeft? power else none

/-! ## §4 Either form -/

/-- Reads a decimal in either form; the failure reported is that of the plain form. -/
def read (text : String) : Except ReadError Decimal :=
  match readPlain text.toList with
  | .ok d => .ok d
  | .error e =>
    match readScientific? text.toList with
    | some d => .ok d
    | none => .error e

/-- The decimal that a text spells, if it spells one. -/
def read? (text : String) : Option Decimal :=
  match read text with
  | .ok d => some d
  | .error _ => none

end Decimal

end WebTrip

import WebTrip.Json.Basic

/-!
# Numerals of JSON text

A numeral is what has been read of a number, one character at a time. An integer that fits 64 bits
is read as itself. Every other number is read as a binary64 number in two steps, first the digits
and then the power of ten, and each step rounds. What comes of it may be a neighbour of the number
that is nearest to the numeral.

* `Json.Numeral`, and `Json.Numeral.extend`, one character of it.
* `Json.Numeral.value` is the number that a numeral is read as.
* `Double.timesTenTo` is the second step to a binary64 number.
-/

namespace WebTrip

/-! ## §1 Powers of ten -/

namespace Double

/-- The number nearest to a power of ten. -/
def tenTo (power : Nat) : Option Double :=
  ofRatio false (10 ^ power) 1

/-- A magnitude times a power of ten: one product or one quotient, rounded. A power below
`10 ^ -308` is worked off in quotients by `10 ^ 308`, each of them rounded, until nothing is left of
the magnitude. -/
def timesTenTo (x : Double) (power : Int) : Option Double :=
  if power.natAbs ≤ 308 then do
    let factor ← tenTo power.natAbs
    if 0 ≤ power then x.mul factor else x.div factor
  else if x.isZero then some x
  else if 0 ≤ power then none
  else do
    let quotient ← x.div (← tenTo 308)
    quotient.timesTenTo (power + 308)
termination_by power.natAbs

end Double

namespace Json

/-! ## §2 Numerals -/

/-- Which part of a number was read last. -/
inductive NumberPart where
  | minus
  | leadingZero
  | integer
  | point
  | fraction
  | mark
  | markSign
  | exponent
  deriving DecidableEq

/-- The number read so far. -/
structure Numeral where
  negative : Bool := false
  /-- The digits before and after the point, as one integer. -/
  digits : Nat := 0
  /-- How many of them stand after the point. -/
  places : Nat := 0
  exponentNegative : Bool := false
  exponent : Nat := 0
  /-- Whether there was neither a point nor an exponent. -/
  plain : Bool := true
  deriving DecidableEq

/-- A number may end after these parts. -/
def NumberPart.isFinal : NumberPart → Bool
  | .leadingZero | .integer | .fraction | .exponent => true
  | .minus | .point | .mark | .markSign => false

/-- A number may end after this part and before this character. A zero in front of other digits
begins no number. -/
def NumberPart.endsBefore (part : NumberPart) (c : Char) : Bool :=
  part.isFinal && !(part == .leadingZero && '0' ≤ c && c ≤ '9')

/-- The numeral with one more character, if that continues it. -/
def Numeral.extend (n : Numeral) (part : NumberPart) (c : Char) : Option (Numeral × NumberPart) :=
  let digit := c.toNat - 0x30
  let withDigit := { n with digits := n.digits * 10 + digit }
  let withPlace := { withDigit with places := n.places + 1 }
  let withPower := { n with exponent := n.exponent * 10 + digit }
  let isDigit := '0' ≤ c ∧ c ≤ '9'
  let isMark := c = 'e' ∨ c = 'E'
  match part with
  | .minus =>
    if c = '0' then some (n, .leadingZero)
    else if isDigit then some (withDigit, .integer)
    else none
  | .leadingZero =>
    if c = '.' then some ({ n with plain := false }, .point)
    else if isMark then some ({ n with plain := false }, .mark)
    else none
  | .integer =>
    if isDigit then some (withDigit, .integer)
    else if c = '.' then some ({ n with plain := false }, .point)
    else if isMark then some ({ n with plain := false }, .mark)
    else none
  | .point => if isDigit then some (withPlace, .fraction) else none
  | .fraction =>
    if isDigit then some (withPlace, .fraction)
    else if isMark then some (n, .mark)
    else none
  | .mark =>
    if isDigit then some (withPower, .exponent)
    else if c = '+' then some (n, .markSign)
    else if c = '-' then some ({ n with exponentNegative := true }, .markSign)
    else none
  | .markSign => if isDigit then some (withPower, .exponent) else none
  | .exponent => if isDigit then some (withPower, .exponent) else none

/-! ## §3 Values -/

/-- How many digits at the end of a number are in the way of 64 bits. -/
def excess (digits : Nat) : Nat :=
  if digits < 2 ^ 64 then 0 else excess (digits / 10) + 1
termination_by digits

namespace Numeral

/-- The power of ten that is written in a numeral. -/
def power (n : Numeral) : Int :=
  if n.exponentNegative then -(n.exponent : Int) else n.exponent

/-- The digits of a numeral that fit 64 bits, and the power of ten that belongs to them. -/
def truncated (n : Numeral) : Nat × Int :=
  let unit := 10 ^ n.places
  -- a digit before the point that does not fit leaves a zero; one behind the point leaves nothing
  let skipped := excess (n.digits / unit)
  let kept := n.digits / unit / 10 ^ skipped * unit + n.digits % unit
  let dropped := excess kept
  (kept / 10 ^ dropped, n.power + skipped + dropped - n.places)

/-- The binary64 number that a numeral is read as, or `none` when it is out of range. -/
def float (n : Numeral) : Option Double := do
  let (significand, power) := n.truncated
  let magnitude ← (← Double.ofRatio false significand 1).timesTenTo power
  return magnitude.withSign n.negative

/-- The integer that a numeral is, if it has neither point nor exponent and fits 64 bits. The
numeral `-0` is none. -/
def integer? (n : Numeral) : Option Number :=
  if n.plain && !(n.negative && n.digits == 0) then
    Number.ofInt? (if n.negative then -(n.digits : Int) else n.digits)
  else none

/-- The number that a numeral is read as. -/
def value (n : Numeral) : Option Number :=
  match n.integer? with
  | some integer => some integer
  | none => n.float.map .float

end Numeral

end Json

end WebTrip

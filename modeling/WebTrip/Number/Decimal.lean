import WebTrip.Number.Double

/-!
# Scaled decimals

Decimal numbers `± mantissa / 10 ^ scale` with a mantissa of 96 bits and at most 28 places, and the
values they stand for.

* `Decimal.whole?` is the integer a decimal is equal to, if it is one.
* `Decimal.toDouble` is its binary64 form: integer and fraction are converted apart, added, and the
  sum is rounded to the decimal's places.
* `Decimal.written` is its text.
-/

namespace WebTrip

/-- A decimal number `± mantissa / 10 ^ scale`. -/
structure Decimal where
  /-- Whether the sign is a minus. -/
  negative : Bool
  /-- All digits, as one integer of at most 96 bits. -/
  mantissa : Nat
  /-- How many of the digits stand after the point. -/
  scale : Nat
  mantissa_lt : mantissa < 2 ^ 96
  scale_le : scale ≤ 28
  deriving DecidableEq

namespace Decimal

/-- The greatest number of places. -/
def maxScale : Nat := 28

/-- The decimal with these parts, if they are within the limits. -/
def make? (negative : Bool) (mantissa scale : Nat) : Option Decimal :=
  if h : mantissa < 2 ^ 96 ∧ scale ≤ 28 then some ⟨negative, mantissa, scale, h.1, h.2⟩ else none

/-! ## §1 Values -/

/-- The integer with the decimal's sign and a given magnitude. -/
def signed (d : Decimal) (n : Nat) : Int :=
  if d.negative then -(n : Int) else n

/-- The integer that the decimal is equal to, if its fraction is zero. -/
def whole? (d : Decimal) : Option Int :=
  if d.mantissa % 10 ^ d.scale = 0 then some (d.signed (d.mantissa / 10 ^ d.scale)) else none

/-- The binary64 form of the magnitude. An integer is rounded once. Otherwise the fraction, as the
quotient of two rounded integers, is added to the rounded integer part, and the sum is rounded to
the decimal's places, each step in binary64. -/
def magnitudeDouble (d : Decimal) : Option Double :=
  let power := 10 ^ d.scale
  if d.scale = 0 then Double.ofRatio false d.mantissa 1
  else do
    let integer ← Double.ofRatio false (d.mantissa / power) 1
    let fraction ← Double.div (← Double.ofRatio false (d.mantissa % power) 1)
      (← Double.ofRatio false power 1)
    if fraction.isZero then some integer
    else
      let one ← Double.ofRatio false 1 1
      let ten ← Double.ofRatio false 10 1
      let places ← Double.powFrom 6 one ten d.scale
      let sum ← Double.add integer fraction
      let scaled ← Double.round (← Double.mul sum places)
      Double.div scaled places

/-- The binary64 form: that of the magnitude, with the decimal's sign. -/
def toDouble (d : Decimal) : Option Double :=
  d.magnitudeDouble.map (·.withSign d.negative)

/-! ## §2 Text -/

/-- The text of a decimal: its sign, its digits, and a point before the last `scale` of them, with
at least one digit before the point. -/
def written (d : Decimal) : String :=
  let ds := Nat.toDigits 10 d.mantissa
  let ds := List.replicate (d.scale + 1 - ds.length) '0' ++ ds
  let sign := if d.negative then ['-'] else []
  let before := ds.take (ds.length - d.scale)
  let after := ds.drop (ds.length - d.scale)
  String.ofList (sign ++ before ++ if d.scale = 0 then [] else '.' :: after)

end Decimal

end WebTrip

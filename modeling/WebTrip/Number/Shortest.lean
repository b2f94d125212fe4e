import WebTrip.Number.Double

/-!
# Shortest digits

The decimal text of a binary64 number: the fewest digits that read back as the number, and of those
the nearest to it.

* `Double.shortest` gives the digits and their power of ten.
* `NumberLayout` says where positional notation ends and how an exponent is written.
* `Double.written` lays the digits out.
-/

namespace WebTrip

namespace Double

/-! ## §1 The digits -/

/-- A decimal number `digits · 10 ^ exponent`. -/
structure Digits where
  digits : Nat
  exponent : Int
  deriving DecidableEq

/-- A quotient divided by a power of ten. -/
def scaleByTen (num den : Nat) (shift : Int) : Nat × Nat :=
  if 0 ≤ shift then (num * 10 ^ shift.toNat, den) else (num, den * 10 ^ (-shift).toNat)

/-- Whether a power of ten is at most a quotient. -/
def powerAtMost (k : Int) (num den : Nat) : Bool :=
  let (n, d) := scaleByTen num den (-k)
  d ≤ n

/-- The greatest power of ten that is at most a positive quotient, found next to the estimate that
the power of two gives. -/
def floorLog10 (num den : Nat) : Int :=
  let guess := Int.fdiv (floorLog2 num den * 30103) 100000
  if powerAtMost (guess + 1) num den then guess + 1
  else if powerAtMost guess num den then guess
  else guess - 1

/-- Of the two neighbours of a magnitude on the grid of multiples of `10 ^ k`, the nearest one that
reads back as the magnitude; of two equally near ones the even one. -/
def readBackAt (x : Double) (num den : Nat) (k : Int) : Option Digits :=
  let (n, d) := scaleByTen num den (-k)
  let below := n / d
  let r := n % d
  let lower := ofDecimal false below k = some x
  let upper := ofDecimal false (below + 1) k = some x
  let preferLower := 2 * r < d ∨ (2 * r = d ∧ below % 2 = 0)
  if lower ∧ (preferLower ∨ ¬ upper) then some ⟨below, k⟩
  else if upper then some ⟨below + 1, k⟩
  else none

/-- The first grid, from coarse to fine, on which a neighbour reads back. `fuel` counts the grids
that are left and `k` is the exponent of the first of them. -/
def firstReadBack (x : Double) (num den : Nat) : Nat → Int → Option Digits
  | 0, _ => none
  | fuel + 1, k =>
    match readBackAt x num den k with
    | some found => some found
    | none => firstReadBack x num den fuel (k - 1)

/-- The number written out in full, which always reads back. -/
def allDigits (x : Double) : Digits :=
  if 0 ≤ x.exponent then ⟨x.significand * 2 ^ x.exponent.toNat, 0⟩
  else ⟨x.significand * 5 ^ (-x.exponent).toNat, x.exponent⟩

/-- The same decimal number without trailing zeros among its digits. `fuel` bounds their count. -/
def Digits.dropZeros : Nat → Digits → Digits
  | 0, d => d
  | fuel + 1, d =>
    if d.digits ≠ 0 ∧ d.digits % 10 = 0 then dropZeros fuel ⟨d.digits / 10, d.exponent + 1⟩ else d

/-- **Shortest digits.** The fewest digits that read back as the magnitude of a number. Seventeen
are always enough; were they not, the digits would be written out in full. -/
def shortest (x : Double) : Digits :=
  let magnitude := x.withSign false
  let (num, den) := x.ratio
  match firstReadBack magnitude num den 17 (floorLog10 num den) with
  | some found => found.dropZeros 17
  | none => x.allDigits

/-! ## §2 The layout -/

/-- How the digits of a number are laid out. -/
structure NumberLayout where
  /-- Numbers from `10 ^ leastPositional` on are written without an exponent … -/
  leastPositional : Int
  /-- … up to, and not including, `10 ^ positionalEnd`. -/
  positionalEnd : Int
  /-- What stands before a positive exponent. -/
  positiveMark : String
  /-- What stands before the digits of a negative exponent. -/
  negativeMark : String

/-- Numbers in JSON text are positional from `0.00001` to below ten to the sixteenth, with at least
one digit after the point; other exponents are written with their sign. -/
def jsonLayout : NumberLayout := ⟨-5, 16, "e+", "e-"⟩

/-- Digits laid out, for a number other than zero. -/
def NumberLayout.lay (layout : NumberLayout) (d : Digits) : List Char :=
  let ds := Nat.toDigits 10 d.digits
  let count : Int := ds.length
  -- the number is between `10 ^ (point - 1)` and `10 ^ point`
  let point := count + d.exponent
  if layout.leastPositional < point ∧ point ≤ layout.positionalEnd then
    if point ≤ 0 then
      ['0', '.'] ++ List.replicate (-point).toNat '0' ++ ds
    else if count ≤ point then
      ds ++ List.replicate (point - count).toNat '0' ++ ['.', '0']
    else
      ds.take point.toNat ++ ['.'] ++ ds.drop point.toNat
  else
    let power := point - 1
    let mark := if power < 0 then layout.negativeMark else layout.positiveMark
    let mantissa := match ds with
      | [] => []
      | [d] => [d]
      | d :: rest => d :: '.' :: rest
    mantissa ++ mark.toList ++ Nat.toDigits 10 power.natAbs

/-- The text of a number in JSON: its sign and its shortest digits. -/
def written (x : Double) : String :=
  let sign := if x.negative then ['-'] else []
  let body := if x.isZero then ['0', '.', '0'] else jsonLayout.lay x.shortest
  String.ofList (sign ++ body)

end Double

end WebTrip

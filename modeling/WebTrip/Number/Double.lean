/-!
# Binary64 numbers

Finite numbers of the binary64 format as exact values `± significand · 2 ^ exponent`, so that every
statement about them is one about integers. The two zeros are different numbers.

* `Double.ofRatio` rounds a quotient of natural numbers to the nearest number of the format, a tie
  to the even significand.
* `Double.ofDecimal` does so for `digits · 10 ^ exponent`.
* `Double.add`, `mul`, `div` and `round` are the exact results, rounded once.
-/

-- powers of natural numbers and integers are the core library's, whatever else is in scope
attribute [default_instance 20000, instance (2000)] instPowNat

namespace WebTrip

/-- A significand and an exponent are canonical when they are the one way to write their value: the
significand uses all 53 bits unless the exponent is the least one. -/
def Canonical (significand : Nat) (exponent : Int) : Prop :=
  significand < 2 ^ 53 ∧ -1074 ≤ exponent ∧ exponent ≤ 971
    ∧ (2 ^ 52 ≤ significand ∨ exponent = -1074)

instance (m : Nat) (e : Int) : Decidable (Canonical m e) := by
  unfold Canonical; infer_instance

/-- A finite binary64 number: `± significand · 2 ^ exponent`. -/
structure Double where
  /-- Whether the sign is a minus; zero has both signs. -/
  negative : Bool
  /-- The significand, an integer of at most 53 bits. -/
  significand : Nat
  /-- The exponent of two. -/
  exponent : Int
  canonical : Canonical significand exponent
  deriving DecidableEq

/-! ## §1 Rounding -/

/-- The natural number nearest to a quotient; a tie goes to the even neighbour. -/
def roundHalfEven (num den : Nat) : Nat :=
  let q := num / den
  let r := num % den
  if 2 * r < den then q
  else if den < 2 * r then q + 1
  else if q % 2 = 0 then q else q + 1

/-- A quotient scaled by a power of two: numerator and denominator of `num / den · 2 ^ shift`. -/
def scaleByTwo (num den : Nat) (shift : Int) : Nat × Nat :=
  if 0 ≤ shift then (num * 2 ^ shift.toNat, den) else (num, den * 2 ^ (-shift).toNat)

/-- The greatest power of two that is at most a positive quotient. -/
def floorLog2 (num den : Nat) : Int :=
  let k : Int := (Nat.log2 num : Int) - (Nat.log2 den : Int)
  let (n, d) := scaleByTwo num den (-k)
  if d ≤ n then k else k - 1

/-- The parameters of a binary format: bits of the significand and least exponent. -/
structure BinaryFormat where
  precision : Nat
  leastExponent : Int

/-- Binary64: 53 bits and least exponent -1074. -/
def BinaryFormat.binary64 : BinaryFormat := ⟨53, -1074⟩

/-- Binary32: 24 bits and least exponent -149. -/
def BinaryFormat.binary32 : BinaryFormat := ⟨24, -149⟩

/-- The significand and exponent nearest to a quotient in a format without a greatest exponent. -/
def BinaryFormat.nearest (format : BinaryFormat) (num den : Nat) : Nat × Int :=
  if num = 0 then (0, format.leastExponent)
  else
    let e := max format.leastExponent (floorLog2 num den - (format.precision - 1 : Nat))
    let (n, d) := scaleByTwo num den (-e)
    let m := roundHalfEven n d
    if m = 2 ^ format.precision then (2 ^ (format.precision - 1), e + 1) else (m, e)

namespace Double

/-- The number with a given sign, significand and exponent, if these are canonical. -/
def make? (negative : Bool) (significand : Nat) (exponent : Int) : Option Double :=
  if h : Canonical significand exponent then some ⟨negative, significand, exponent, h⟩ else none

/-- The zero of a given sign. -/
def zero (negative : Bool) : Double :=
  ⟨negative, 0, -1074, by decide⟩

/-- The number nearest to `± num / den`; `none` when that is beyond the greatest finite number. -/
def ofRatio (negative : Bool) (num den : Nat) : Option Double :=
  let (m, e) := BinaryFormat.binary64.nearest num den
  make? negative m e

/-- The number nearest to `± digits · 10 ^ exponent`, or `none` when that is beyond the greatest
finite number. Exponents that no count of digits can make up for are settled without computing the
power. -/
def ofDecimal (negative : Bool) (digits : Nat) (exponent : Int) : Option Double :=
  if digits = 0 then some (zero negative)
  else if 400 < exponent then none
  else if exponent < -(400 + (Nat.log2 digits : Int)) then some (zero negative)
  else if 0 ≤ exponent then ofRatio negative (digits * 10 ^ exponent.toNat) 1
  else ofRatio negative digits (10 ^ (-exponent).toNat)

/-- The number nearest to an integer, or `none` when that is out of range. -/
def ofInt (n : Int) : Option Double :=
  ofRatio (n < 0) n.natAbs 1

/-! ## §2 Exact values -/

/-- The magnitude as a quotient of natural numbers. -/
def ratio (x : Double) : Nat × Nat :=
  scaleByTwo x.significand 1 x.exponent

/-- Whether the number is an integer. -/
def isWhole (x : Double) : Bool :=
  let (n, d) := x.ratio
  n % d == 0

/-- The integer part, rounded toward zero. -/
def truncate (x : Double) : Int :=
  let (n, d) := x.ratio
  if x.negative then -((n / d : Nat) : Int) else ((n / d : Nat) : Int)

/-- Whether the number is one of the zeros. -/
def isZero (x : Double) : Bool :=
  x.significand == 0

/-- The number with a given sign. -/
def withSign (x : Double) (negative : Bool) : Double :=
  { x with negative := negative }

/-! ## §3 Arithmetic on magnitudes -/

/-- The sum of two magnitudes. -/
def add (x y : Double) : Option Double :=
  let (a, b) := x.ratio
  let (c, d) := y.ratio
  ofRatio false (a * d + c * b) (b * d)

/-- The product of two magnitudes. -/
def mul (x y : Double) : Option Double :=
  let (a, b) := x.ratio
  let (c, d) := y.ratio
  ofRatio false (a * c) (b * d)

/-- The quotient of two magnitudes; there is none by zero. -/
def div (x y : Double) : Option Double :=
  let (a, b) := x.ratio
  let (c, d) := y.ratio
  if c = 0 then none else ofRatio false (a * d) (b * c)

/-- The magnitude rounded to an integer, a half away from zero. -/
def round (x : Double) : Option Double :=
  let (n, d) := x.ratio
  ofRatio false ((2 * n + d) / (2 * d)) 1

/-- The magnitude raised to a natural power by repeated squaring, from the lowest bit of the
exponent to the highest, each product rounded. `fuel` bounds the number of bits. -/
def powFrom (fuel : Nat) (result base : Double) (n : Nat) : Option Double :=
  match fuel with
  | 0 => some result
  | fuel + 1 =>
    if n = 0 then some result
    else do
      let result ← if n % 2 = 1 then mul result base else some result
      if n / 2 = 0 then some result else powFrom fuel result (← mul base base) (n / 2)

end Double

end WebTrip

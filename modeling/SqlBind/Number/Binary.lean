/-!
Owns: the IEEE 754 binary interchange formats as bit patterns, correct rounding of a ratio into
one of them, and the double and single precision numbers built on it, with their products and
quotients.

Rounding is to nearest, a tie going to the even neighbour; what exceeds the largest finite number
becomes infinite. All arithmetic is exact on natural numbers.
-/

set_option autoImplicit false

namespace SqlBind.Number

/-- `num / den` to the nearest integer, a tie going to the even one. -/
def roundHalfEven (num den : Nat) : Nat :=
  let quotient := num / den
  let twice := 2 * (num % den)
  if twice < den then quotient
  else if den < twice then quotient + 1
  else quotient + quotient % 2

/-- The widths of the two fields of a binary format below its sign. -/
structure BinaryFormat where
  fractionBits : Nat
  exponentBits : Nat

namespace BinaryFormat

def binary64 : BinaryFormat := ⟨52, 11⟩

def binary32 : BinaryFormat := ⟨23, 8⟩

/-- The magnitude bits of infinity; larger magnitudes are not numbers. -/
def infinity (f : BinaryFormat) : Nat := (Nat.pow 2 f.exponentBits - 1) * Nat.pow 2 f.fractionBits

/-- The exponent of the last place of the smallest numbers. -/
def minExponent (f : BinaryFormat) : Int := 2 - Int.pow 2 (f.exponentBits - 1) - f.fractionBits

/-- The significand and the exponent of its last place for the magnitude bits of a finite
number. -/
def significand (f : BinaryFormat) (magnitude : Nat) : Nat × Int :=
  let biased := magnitude / Nat.pow 2 f.fractionBits
  let fraction := magnitude % Nat.pow 2 f.fractionBits
  if biased = 0 then (fraction, f.minExponent)
  else (fraction + Nat.pow 2 f.fractionBits, f.minExponent + (biased - 1 : Int))

/-- The magnitude bits of the number nearest to `num / den`. -/
def roundRatio (f : BinaryFormat) (num den : Nat) : Nat :=
  if num = 0 then 0
  else
    let width : Int := (num.log2 : Int) - den.log2
    let reaches :=
      if 0 ≤ width then den * Nat.pow 2 width.toNat ≤ num
      else den ≤ num * Nat.pow 2 (-width).toNat
    let exponent := max ((if reaches then width else width - 1) - f.fractionBits) f.minExponent
    let rounded :=
      if 0 ≤ exponent then roundHalfEven num (den * Nat.pow 2 exponent.toNat)
      else roundHalfEven (num * Nat.pow 2 (-exponent).toNat) den
    min ((exponent - f.minExponent).toNat * Nat.pow 2 f.fractionBits + rounded) f.infinity

/-- The magnitude bits, in the format `g`, nearest to a magnitude of the format `f`. Infinity
stays infinite; a number that is none keeps the leading bits of its payload and becomes quiet. -/
def convert (f g : BinaryFormat) (magnitude : Nat) : Nat :=
  if magnitude = f.infinity then g.infinity
  else if f.infinity < magnitude then
    let payload :=
      magnitude % Nat.pow 2 f.fractionBits * Nat.pow 2 g.fractionBits / Nat.pow 2 f.fractionBits
    g.infinity ||| Nat.pow 2 (g.fractionBits - 1) ||| payload
  else
    let (digits, exponent) := f.significand magnitude
    if 0 ≤ exponent then g.roundRatio (digits * Nat.pow 2 exponent.toNat) 1
    else g.roundRatio digits (Nat.pow 2 (-exponent).toNat)

end BinaryFormat

/-- A double precision number, known by its bits; numbers that differ in their bits only, such as
the two zeros, are different values. -/
structure Double where
  bits : UInt64
deriving DecidableEq, Repr, Inhabited

/-- A single precision number, known by its bits. -/
structure Single where
  bits : UInt32
deriving DecidableEq, Repr, Inhabited

namespace Double

/-- The number with the given sign and magnitude bits. -/
def ofMagnitude (negative : Bool) (magnitude : Nat) : Double :=
  ⟨UInt64.ofNat ((if negative then Nat.pow 2 63 else 0) + magnitude)⟩

def isNegative (x : Double) : Bool := Nat.pow 2 63 ≤ x.bits.toNat

def magnitude (x : Double) : Nat := x.bits.toNat % Nat.pow 2 63

def isNaN (x : Double) : Bool := BinaryFormat.binary64.infinity < x.magnitude

def isInfinite (x : Double) : Bool := x.magnitude = BinaryFormat.binary64.infinity

def isFinite (x : Double) : Bool := x.magnitude < BinaryFormat.binary64.infinity

/-- The number nearest to `num / den`, with a sign. -/
def ofRatio (negative : Bool) (num den : Nat) : Double :=
  ofMagnitude negative (BinaryFormat.binary64.roundRatio num den)

def ofInt (i : Int) : Double := ofRatio (i < 0) i.natAbs 1

/-- The magnitude of a finite number as a ratio. -/
def ratio (x : Double) : Nat × Nat :=
  let (digits, exponent) := BinaryFormat.binary64.significand x.magnitude
  if 0 ≤ exponent then (digits * Nat.pow 2 exponent.toNat, 1)
  else (digits, Nat.pow 2 (-exponent).toNat)

/-- The magnitude of the product of two finite numbers, rounded. -/
def times (x y : Double) : Double :=
  ofRatio false (x.ratio.1 * y.ratio.1) (x.ratio.2 * y.ratio.2)

/-- The magnitude of the quotient of two finite numbers, the second not zero, rounded. -/
def dividedBy (x y : Double) : Double :=
  ofRatio false (x.ratio.1 * y.ratio.2) (x.ratio.2 * y.ratio.1)

/-- The largest power of ten that is finite has this exponent. -/
def mostTens : Nat := 308

/-- The number nearest to a power of ten. -/
def tens (exponent : Nat) : Double := ofRatio false (Nat.pow 10 exponent) 1

/-- `x` divided by `10 ^ places`, in steps of at most `10 ^ 308`, each of them rounded. -/
def shiftedDown (x : Double) (places : Nat) : Double :=
  if places ≤ mostTens then x.dividedBy (tens places)
  else if x.magnitude = 0 then x
  else shiftedDown (x.dividedBy (tens mostTens)) (places - mostTens)
termination_by places
decreasing_by simp_all [mostTens]; omega

/-- `digits * 10 ^ exponent` with a sign: the digits are rounded to a double first and then scaled
by a power of ten, which rounds again. With few digits and a small exponent this is the nearest
double. -/
def ofScaled (negative : Bool) (digits : Nat) (exponent : Int) : Double :=
  let x := ofRatio false digits 1
  let scaled :=
    if exponent < 0 then x.shiftedDown exponent.natAbs
    else if x.magnitude = 0 then x
    else if (mostTens : Int) < exponent then ofMagnitude false BinaryFormat.binary64.infinity
    else x.times (tens exponent.toNat)
  ofMagnitude negative scaled.magnitude

/-- The single precision number nearest to `x`. -/
def toSingle (x : Double) : Single :=
  ⟨UInt32.ofNat ((if x.isNegative then Nat.pow 2 31 else 0) +
    BinaryFormat.binary64.convert BinaryFormat.binary32 x.magnitude)⟩

end Double

namespace Single

def ofInt (i : Int) : Single :=
  ⟨UInt32.ofNat ((if i < 0 then Nat.pow 2 31 else 0) +
    BinaryFormat.binary32.roundRatio i.natAbs 1)⟩

/-- Every single precision number is also a double precision one. -/
def toDouble (x : Single) : Double :=
  Double.ofMagnitude (Nat.pow 2 31 ≤ x.bits.toNat)
    (BinaryFormat.binary32.convert BinaryFormat.binary64 (x.bits.toNat % Nat.pow 2 31))

end Single

end SqlBind.Number

import SqlBind.Number.Binary

/-!
Owns: the fewest decimal digits that read back as a given double precision number, and of the
candidates with that many digits the one nearest to it. When two are equally near, the format
decides.

A number stands for the interval of reals that round to it, whose ends belong to it exactly when
its significand is even. On the grid of decimals with a given count of digits only the two
neighbours of the number itself need to be tried.
-/

set_option autoImplicit false

namespace SqlBind.Number

/-- `digits * 10 ^ exponent`, without a sign. -/
structure Decimal where
  digits : Nat
  exponent : Int
deriving DecidableEq, Repr, Inhabited

def digitCount (n : Nat) : Nat := (Nat.toDigits 10 n).length

namespace Decimal

def leadingPower (d : Decimal) : Int := d.exponent + digitCount d.digits - 1

/-- The same value without zeros at the end; `fuel` bounds the zeros taken off. -/
def trimmed : Nat → Decimal → Decimal
  | 0, d => d
  | fuel + 1, d =>
    if d.digits % 10 = 0 && d.digits ≠ 0 then trimmed fuel ⟨d.digits / 10, d.exponent + 1⟩ else d

end Decimal

/-- Which of two equally near decimals is taken. -/
inductive TieRule where
  /-- The one with the larger magnitude. -/
  | away
  /-- The one with the even last digit. -/
  | even
deriving DecidableEq, Repr, Inhabited

namespace TieRule

/-- Whether the upper of two equally near neighbours is taken, by the digits of the lower. -/
def takesUpper (tie : TieRule) (lower : Nat) : Bool :=
  match tie with
  | away => true
  | even => lower % 2 = 1

end TieRule

/-- The reals that round to a finite positive double, scaled by `scale`: `low` and `high` are its
ends, `value` the number itself, and `closed` says whether the ends belong to it. -/
structure RoundingInterval where
  low : Nat
  value : Nat
  high : Nat
  scale : Nat
  closed : Bool

namespace RoundingInterval

/-- The interval of the finite positive number with the given magnitude bits. The gap below a
power of two is half the gap above it. -/
def ofMagnitude (magnitude : Nat) : RoundingInterval :=
  let (digits, exponent) := BinaryFormat.binary64.significand magnitude
  let below :=
    if digits = Nat.pow 2 52 && BinaryFormat.binary64.minExponent < exponent then 1 else 2
  let factor := if 0 ≤ exponent then Nat.pow 2 exponent.toNat else 1
  ⟨(4 * digits - below) * factor, 4 * digits * factor, (4 * digits + 2) * factor,
    4 * (if 0 ≤ exponent then 1 else Nat.pow 2 (-exponent).toNat), digits % 2 = 0⟩

/-- Whether `num / den` lies in the interval. -/
def contains (i : RoundingInterval) (num den : Nat) : Bool :=
  if i.closed then i.low * den ≤ num * i.scale && num * i.scale ≤ i.high * den
  else i.low * den < num * i.scale && num * i.scale < i.high * den

def leadingPower (i : RoundingInterval) : Int :=
  if i.scale ≤ i.value then (digitCount (i.value / i.scale) : Int) - 1
  else -(digitCount ((i.scale - 1) / i.value) : Int)

/-- The nearer of the number's two neighbours among the multiples of `10 ^ exponent`, if one of
them lies in the interval. -/
def onGrid (i : RoundingInterval) (tie : TieRule) (exponent : Int) : Option Decimal :=
  let num := if 0 ≤ exponent then Nat.pow 10 exponent.toNat else 1
  let den := if 0 ≤ exponent then 1 else Nat.pow 10 (-exponent).toNat
  let lower := i.value * den / (i.scale * num)
  let remainder := i.value * den % (i.scale * num)
  let lowerFits := i.contains (lower * num) den
  let upperFits := i.contains ((lower + 1) * num) den
  let upperNearer := i.scale * num < 2 * remainder
    || i.scale * num = 2 * remainder && tie.takesUpper lower
  if lowerFits && !(upperFits && upperNearer) then some ⟨lower, exponent⟩
  else if upperFits then some ⟨lower + 1, exponent⟩
  else none

/-- The first grid, from coarse to fine, that holds a decimal of the interval. -/
def firstOnGrid (i : RoundingInterval) (tie : TieRule) (power : Int) : List Nat → Option Decimal
  | [] => none
  | extra :: finer =>
    (i.onGrid tie (power - extra)).orElse fun _ => firstOnGrid i tie power finer

end RoundingInterval

namespace Double

/-- The shortest decimal that reads back as the finite number `x`, without its sign. Seventeen
digits always suffice. -/
def shortest (tie : TieRule) (x : Double) : Decimal :=
  if x.magnitude = 0 then ⟨0, 0⟩
  else
    let interval := RoundingInterval.ofMagnitude x.magnitude
    match interval.firstOnGrid tie interval.leadingPower (List.range 18) with
    | some decimal => decimal.trimmed 20
    | none => ⟨0, 0⟩

end Double

end SqlBind.Number

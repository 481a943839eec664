import SqlBind.Number.Shortest

/-!
Owns: how the decimal of a double precision number is laid out as text, as one record of
decisions per format, and the three formats in use: plain, diagnostic and JSON.
-/

set_option autoImplicit false

namespace SqlBind.Number

/-- The decisions of a textual format for floating point numbers. -/
structure FloatNotation where
  /-- Whether a number whose leading digit stands for `10 ^ power` is written without exponent. -/
  positional : Int → Bool
  /-- Whether an integral value written without exponent ends in `.0`. -/
  pointZero : Bool
  /-- What stands before a non-negative exponent. -/
  exponentSign : String
  /-- Which of two equally near decimals is written. -/
  tie : TieRule
  infinity : String
  negativeInfinity : String
  notANumber : String

namespace FloatNotation

/-- Never an exponent, and no point in an integral value. -/
def plain : FloatNotation := ⟨fun _ => true, false, "", .away, "inf", "-inf", "NaN"⟩

/-- Always a point or an exponent, the exponent below `10 ^ -4` and from `10 ^ 16`. -/
def diagnostic : FloatNotation :=
  ⟨fun power => -4 ≤ power && power < 16, true, "", .away, "inf", "-inf", "NaN"⟩

/-- Always a point or an exponent, the exponent below `10 ^ -5` and from `10 ^ 16` and with a
sign. JSON has no infinities. -/
def json : FloatNotation :=
  ⟨fun power => -5 ≤ power && power < 16, true, "+", .even, "null", "null", "null"⟩

/-- A decimal without exponent. -/
def writePositional (n : FloatNotation) (d : Decimal) : List Char :=
  let digits := Nat.toDigits 10 d.digits
  let tail := if n.pointZero then ['.', '0'] else []
  if 0 ≤ d.exponent then digits ++ List.replicate d.exponent.toNat '0' ++ tail
  else
    let places := (-d.exponent).toNat
    if digits.length ≤ places then
      ['0', '.'] ++ List.replicate (places - digits.length) '0' ++ digits
    else digits.take (digits.length - places) ++ ['.'] ++ digits.drop (digits.length - places)

/-- A decimal with one digit before the point and an exponent. -/
def writeScientific (n : FloatNotation) (d : Decimal) : List Char :=
  let mantissa := match Nat.toDigits 10 d.digits with
    | lead :: second :: more => lead :: '.' :: second :: more
    | short => short
  let power := d.leadingPower
  let sign := if 0 ≤ power then n.exponentSign.toList else ['-']
  mantissa ++ ['e'] ++ sign ++ Nat.toDigits 10 power.natAbs

def write (n : FloatNotation) (x : Double) : String :=
  if x.isNaN then n.notANumber
  else if x.isInfinite then if x.isNegative then n.negativeInfinity else n.infinity
  else
    let decimal := x.shortest n.tie
    let unsigned := if decimal.digits = 0 || n.positional decimal.leadingPower
      then n.writePositional decimal else n.writeScientific decimal
    String.ofList (if x.isNegative then '-' :: unsigned else unsigned)

end FloatNotation

end SqlBind.Number

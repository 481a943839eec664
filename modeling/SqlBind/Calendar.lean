/-!
Owns: dates of the proleptic Gregorian calendar and instants in UTC, their distance from an epoch
in days, and their ISO 8601 text.

A year outside `0 … 9999` carries a sign; the fraction of a second has three, six or nine digits,
or is left out when it is zero. An instant within a leap second counts on in its nanoseconds.
-/

set_option autoImplicit false

namespace SqlBind

/-- `n` in decimal with at least `width` digits. -/
def zeroPadded (width n : Nat) : List Char :=
  let digits := Nat.toDigits 10 n
  List.replicate (width - digits.length) '0' ++ digits

/-- A date of the proleptic Gregorian calendar. -/
structure Date where
  year : Int
  month : Nat
  day : Nat
deriving DecidableEq, Repr, Inhabited

namespace Date

/-- Days since 1970-01-01. Years are counted from March, so that the leap day ends its year, and
grouped into eras of four hundred years, all of the same length. -/
def toDays (d : Date) : Int :=
  let year := if d.month ≤ 2 then d.year - 1 else d.year
  let era := year.fdiv 400
  let yearOfEra := year - era * 400
  let monthFromMarch := (d.month + 9) % 12
  let dayOfYear := (153 * monthFromMarch + 2) / 5 + d.day - 1
  let dayOfEra := yearOfEra * 365 + yearOfEra.fdiv 4 - yearOfEra.fdiv 100 + dayOfYear
  era * 146097 + dayOfEra - 719468

/-- The date a number of days after 1970-01-01. -/
def ofDays (days : Int) : Date :=
  let shifted := days + 719468
  let era := shifted.fdiv 146097
  let dayOfEra := (shifted - era * 146097).toNat
  let yearOfEra := (dayOfEra - dayOfEra / 1460 + dayOfEra / 36524 - dayOfEra / 146096) / 365
  let dayOfYear := dayOfEra - (365 * yearOfEra + yearOfEra / 4 - yearOfEra / 100)
  let monthFromMarch := (5 * dayOfYear + 2) / 153
  let day := dayOfYear - (153 * monthFromMarch + 2) / 5 + 1
  let month := if monthFromMarch < 10 then monthFromMarch + 3 else monthFromMarch - 9
  ⟨yearOfEra + era * 400 + (if month ≤ 2 then 1 else 0), month, day⟩

def yearText (year : Int) : List Char :=
  if 0 ≤ year && year ≤ 9999 then zeroPadded 4 year.natAbs
  else (if year < 0 then '-' else '+') :: zeroPadded 4 year.natAbs

/-- `2024-02-29`. -/
def text (d : Date) : String :=
  String.ofList (yearText d.year ++ ['-'] ++ zeroPadded 2 d.month ++ ['-'] ++ zeroPadded 2 d.day)

end Date

/-- An instant in UTC: seconds since 1970 and nanoseconds into that second, which reach beyond a
second only within a leap second. -/
structure Timestamp where
  seconds : Int
  nanoseconds : Nat
deriving DecidableEq, Repr, Inhabited

namespace Timestamp

/-- The digits after the decimal point, with the point. -/
def fractionText (nanoseconds : Nat) : List Char :=
  if nanoseconds = 0 then []
  else if nanoseconds % 1000000 = 0 then '.' :: zeroPadded 3 (nanoseconds / 1000000)
  else if nanoseconds % 1000 = 0 then '.' :: zeroPadded 6 (nanoseconds / 1000)
  else '.' :: zeroPadded 9 nanoseconds

def localText (t : Timestamp) : List Char :=
  let secondOfDay := (t.seconds.fmod 86400).toNat
  let date := Date.ofDays (t.seconds.fdiv 86400)
  date.text.toList ++ ['T'] ++ zeroPadded 2 (secondOfDay / 3600) ++ [':']
    ++ zeroPadded 2 (secondOfDay / 60 % 60) ++ [':']
    ++ zeroPadded 2 (secondOfDay % 60 + t.nanoseconds / 1000000000)
    ++ fractionText (t.nanoseconds % 1000000000)

def zuluText (t : Timestamp) : String := String.ofList (t.localText ++ ['Z'])

def offsetText (t : Timestamp) : String := String.ofList (t.localText ++ "+00:00".toList)

/-- Microseconds since 2000-01-01, the rest cut off toward zero. -/
def microsecondsSince2000 (t : Timestamp) : Int :=
  ((t.seconds - 946684800) * 1000000000 + t.nanoseconds).tdiv 1000

end Timestamp

end SqlBind

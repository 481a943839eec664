import SqlBind.Text.Hex

/-!
Owns: the form of dates and times in TOML: a date, a time of day, or both with or without an offset
from UTC. Seconds may be left out, the fraction of a second may have any number of digits, and the
last second of an hour may be a leap second.
-/

set_option autoImplicit false

namespace SqlBind.Toml

/-- The number of exactly `count` decimal digits, and the text that follows. -/
def fixedDigits? (count : Nat) (text : List Char) : Option (Nat × List Char) :=
  let digits := text.take count
  if digits.length = count && digits.all Char.isDigit then
    some (digits.foldl (fun n c => 10 * n + (c.toNat - '0'.toNat)) 0, text.drop count)
  else none

/-- The text behind a mark that has to stand first. -/
def behind? (mark : Char) : List Char → Option (List Char)
  | c :: rest => if c = mark then some rest else none
  | [] => none

/-- The days of a month of the Gregorian calendar, none for a month that is not there. -/
def daysOfMonth (year month : Nat) : Nat :=
  if month = 2 then
    if year % 4 = 0 && (year % 100 ≠ 0 || year % 400 = 0) then 29 else 28
  else if [4, 6, 9, 11].contains month then 30
  else if 1 ≤ month && month ≤ 12 then 31
  else 0

def afterDate? (text : List Char) : Option (List Char) := do
  let (year, rest) ← fixedDigits? 4 text
  let (month, rest) ← fixedDigits? 2 (← behind? '-' rest)
  let (day, rest) ← fixedDigits? 2 (← behind? '-' rest)
  if 1 ≤ day && day ≤ daysOfMonth year month then some rest else none

def afterMinutes? (text : List Char) : Option (List Char) := do
  let (hour, rest) ← fixedDigits? 2 text
  let (minute, rest) ← fixedDigits? 2 (← behind? ':' rest)
  if hour < 24 && minute < 60 then some rest else none

/-- What follows the seconds of a time and their fraction, if it has any. -/
def afterSeconds? (text : List Char) : Option (List Char) :=
  match text with
  | ':' :: rest => do
    let (second, rest) ← fixedDigits? 2 rest
    if 60 < second then none
    else
      match rest with
      | '.' :: fraction =>
        if (fraction.head?.map Char.isDigit).getD false then some (fraction.dropWhile Char.isDigit)
        else none
      | rest => some rest
  | text => some text

/-- What follows a time of day. -/
def afterTime? (text : List Char) : Option (List Char) := do
  afterSeconds? (← afterMinutes? text)

/-- Whether a text is empty or the offset of a zone from UTC. -/
def isOffset : List Char → Bool
  | [] => true
  | ['Z'] | ['z'] => true
  | c :: rest => (c = '+' || c = '-') && afterMinutes? rest = some []

/-- Whether a text is a date, a time of day, or both with a `T` or a space between them. Only with
a date a time may have an offset. -/
def isMoment (text : List Char) : Bool :=
  match afterDate? text with
  | none => afterTime? text = some []
  | some [] => true
  | some (c :: time) =>
    (c = 'T' || c = 't' || c = ' ') && ((afterTime? time).map isOffset).getD false

end SqlBind.Toml

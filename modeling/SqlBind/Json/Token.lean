import SqlBind.Json.Basic
import SqlBind.Text.Hex

/-!
Owns: the lexical grammar of JSON. A text is read character by character; whatever stands between
brackets, commas, colons, quotes and blanks is one word, and a word is a name of a constant or a
number.
-/

set_option autoImplicit false

namespace SqlBind.Json

open Number (Double)

/-- A lexical unit of a JSON text. -/
inductive Token where
  | openArray
  | closeArray
  | openObject
  | closeObject
  | comma
  | colon
  | text (value : String)
  | constant (value : Json)
deriving Inhabited

/-- Splits off the decimal digits at the start. -/
def splitDigits (text : List Char) : List Char × List Char := text.span Char.isDigit

def digitOf (c : Char) : Nat := c.toNat - '0'.toNat

def decimalValue (digits : List Char) : Nat :=
  digits.foldl (fun value c => 10 * value + digitOf c) 0

/-- Appends digits to a number as long as it fits into 64 bits, and counts those appended. -/
def appendDigits (value : Nat) : List Char → Nat × Nat
  | [] => (value, 0)
  | c :: rest =>
    let longer := 10 * value + digitOf c
    if longer < Nat.pow 2 64 then
      let (final, count) := appendDigits longer rest
      (final, count + 1)
    else (value, 0)

/-- The exponent at the end of a number: none, or a letter, an optional sign and digits. -/
def exponent? : List Char → Option Int
  | [] => some 0
  | mark :: rest =>
    if mark = 'e' || mark = 'E' then
      let (negative, digits) := match rest with
        | '-' :: digits => (true, digits)
        | '+' :: digits => (false, digits)
        | digits => (false, digits)
      if digits.isEmpty || !digits.all Char.isDigit then none
      else some (if negative then -(decimalValue digits : Int) else decimalValue digits)
    else none

/-- A double, from the digits before and after the point and the power of ten that scales it. Of
the digits only those count that fit into 64 bits. It has to be finite. -/
def float? (negative : Bool) (whole fraction : List Char) (power : Int) : Option JsonNumber :=
  let (leading, wholeCount) := appendDigits 0 whole
  let (digits, fractionCount) := appendDigits leading fraction
  let value := Double.ofScaled negative digits
    (power + (whole.length - wholeCount : Int) - fractionCount)
  if value.isFinite then some (.float value) else none

/-- A whole number: exact when it fits into 64 bits, otherwise a double. Negative zero is a
double too. -/
def wholeNumber? (negative : Bool) (digits : List Char) : Option JsonNumber :=
  let magnitude := decimalValue digits
  if !negative && magnitude < Nat.pow 2 64 then some (.integer magnitude)
  else if negative && 0 < magnitude && magnitude ≤ Nat.pow 2 63 then some (.integer (-magnitude))
  else float? negative digits [] 0

/-- Reads a number: an optional minus, digits without a leading zero, an optional fraction and an
optional exponent. -/
def number? (word : List Char) : Option JsonNumber :=
  let (negative, unsigned) := match word with
    | '-' :: rest => (true, rest)
    | rest => (false, rest)
  let (whole, rest) := splitDigits unsigned
  if whole.isEmpty || (whole.head? = some '0' && 1 < whole.length) then none
  else
    match rest with
    | [] => wholeNumber? negative whole
    | '.' :: afterPoint =>
      let (fraction, mark) := splitDigits afterPoint
      if fraction.isEmpty then none
      else do float? negative whole fraction (← exponent? mark)
    | mark => do float? negative whole [] (← exponent? mark)

def constant? (word : List Char) : Option Json :=
  if word = "null".toList then some .null
  else if word = "true".toList then some (.bool true)
  else if word = "false".toList then some (.bool false)
  else (number? word).map .number

/-- Where a reader of tokens stands within the text. What was read of a string or word is kept
newest first. -/
inductive LexicalState where
  | between
  | word (read : List Char)
  | string (read : List Char)
  /-- After a backslash. -/
  | escape (read : List Char)
  /-- Inside a code unit: the digits still to come, their value so far, and the high surrogate
  that came before. -/
  | unit (read : List Char) (missing value : Nat) (high : Option Nat)
  /-- After a high surrogate, whose other half has to follow. -/
  | paired (read : List Char) (high : Nat)
  | pairedEscape (read : List Char) (high : Nat)

def isSpace (c : Char) : Bool := c = ' ' || c = '\t' || c = '\n' || c = '\r'

/-- The token of a character that stands for itself. -/
def punctuation? (c : Char) : Option Token :=
  if c = '[' then some .openArray
  else if c = ']' then some .closeArray
  else if c = '\x7b' then some .openObject
  else if c = '\x7d' then some .closeObject
  else if c = ',' then some .comma
  else if c = ':' then some .colon
  else none

/-- The character behind a backslash, unless it begins a code unit. -/
def escapedChar? (c : Char) : Option Char :=
  if c = '"' || c = '\\' || c = '/' then some c
  else if c = 'b' then some '\x08'
  else if c = 'f' then some '\x0c'
  else if c = 'n' then some '\n'
  else if c = 'r' then some '\r'
  else if c = 't' then some '\t'
  else none

/-- Where a complete code unit leaves the reader: a high surrogate awaits a low one, and a low one
needs a high one before it. -/
def afterUnit? (read : List Char) (value : Nat) : Option Nat → Option LexicalState
  | none =>
    if 0xd800 ≤ value && value < 0xdc00 then some (.paired read value)
    else if 0xdc00 ≤ value && value < 0xe000 then none
    else some (.string (Char.ofNat value :: read))
  | some high =>
    if 0xdc00 ≤ value && value < 0xe000 then
      some (.string (Char.ofNat (0x10000 + (high - 0xd800) * 1024 + (value - 0xdc00)) :: read))
    else none

/-- A character outside strings and words. -/
def startToken (tokens : List Token) (c : Char) : List Token × LexicalState :=
  if isSpace c then (tokens, .between)
  else if c = '"' then (tokens, .string [])
  else match punctuation? c with
    | some token => (token :: tokens, .between)
    | none => (tokens, .word [c])

/-- Takes one character; the tokens are kept newest first. -/
def lexStep : List Token × LexicalState → Char → Option (List Token × LexicalState)
  | (tokens, .between), c => some (startToken tokens c)
  | (tokens, .word read), c =>
    if isSpace c || c = '"' || (punctuation? c).isSome then do
      let value ← constant? read.reverse
      return startToken (.constant value :: tokens) c
    else some (tokens, .word (c :: read))
  | (tokens, .string read), c =>
    if c = '"' then some (.text (String.ofList read.reverse) :: tokens, .between)
    else if c = '\\' then some (tokens, .escape read)
    else if c.toNat < 32 then none
    else some (tokens, .string (c :: read))
  | (tokens, .escape read), c =>
    if c = 'u' then some (tokens, .unit read 4 0 none)
    else (escapedChar? c).map fun e => (tokens, .string (e :: read))
  | (tokens, .unit read missing value high), c => do
    let digit ← Bytes.digitValue? c
    let value := 16 * value + digit
    if missing = 1 then return (tokens, ← afterUnit? read value high)
    else return (tokens, .unit read (missing - 1) value high)
  | (tokens, .paired read high), c =>
    if c = '\\' then some (tokens, .pairedEscape read high) else none
  | (tokens, .pairedEscape read high), c =>
    if c = 'u' then some (tokens, .unit read 4 0 (some high)) else none

def tokens? (text : List Char) : Option (List Token) := do
  let (tokens, state) ← text.foldlM lexStep ([], .between)
  match state with
  | .between => return tokens.reverse
  | .word read => return (.constant (← constant? read.reverse) :: tokens).reverse
  | _ => none

end SqlBind.Json

import SqlBind.Json.Basic
import SqlBind.Toml.Moment

/-!
Owns: the values of TOML that are written without quotes and brackets: truth values, whole numbers,
floats, dates and times.

Floats, dates and times are looked at for their form only, because no setting takes one. So are
whole numbers that have digits foreign to their base: underscores join hexadecimal digits in every
base, and a mark of a base may stand alone, but neither gives a number.
-/

set_option autoImplicit false

namespace SqlBind.Toml

/-- A value without quotes and brackets. -/
inductive Word where
  | bool (value : Bool)
  | integer (value : Int)
  /-- A value of the right form that no setting takes. -/
  | other (spelling : String)
deriving DecidableEq, Repr, Inhabited

/-- Whether every underscore of a text comes right behind a digit and right before one;
`behindDigit` says whether the text itself does. -/
def underscoresJoin (isDigit : Char → Bool) (behindDigit : Bool) : List Char → Bool
  | [] => true
  | c :: rest =>
    if c = '_' then
      behindDigit && (rest.head?.map isDigit).getD false && underscoresJoin isDigit false rest
    else underscoresJoin isDigit (isDigit c) rest

/-- Whether the underscores of a number join digits, so that none stands at its beginning, behind
its sign or at its end. -/
def isJoined (isDigit : Char → Bool) (word : List Char) : Bool := underscoresJoin isDigit false word

/-- The digits of a base, which are those of sixteen at most. -/
def isDigitOf (base : Nat) (c : Char) : Bool :=
  match Bytes.digitValue? c with
  | some digit => digit < base
  | none => false

def dropSign : List Char → List Char
  | '+' :: rest | '-' :: rest => rest
  | text => text

/-- The number of digits in a base; there must be one. -/
def digitsValue? (base : Nat) (digits : List Char) : Option Nat :=
  if digits.isEmpty then none
  else
    digits.foldlM (fun value c => do
      let digit ← Bytes.digitValue? c
      if digit < base then some (base * value + digit) else none) 0

/-- A whole number in a base, with underscores and a sign, or its spelling if the digits give no
number. -/
def wholeNumber (base : Nat) (word : List Char) : Word :=
  let spelled := word.filter (· ≠ '_')
  match digitsValue? base (dropSign spelled) with
  | some n => .integer (if spelled.head? = some '-' then -(n : Int) else n)
  | none => .other (String.ofList word)

/-- A whole number behind the mark of its base. -/
def markedNumber? (base : Nat) (digits : List Char) : Option Word :=
  if digits.all (fun c => c = '_' || isDigitOf base c) && isJoined (isDigitOf 16) digits then
    some (wholeNumber base digits)
  else none

/-- What follows digits and underscores, if there is a digit among them. -/
def afterDigits? (text : List Char) : Option (List Char) :=
  let (run, rest) := text.span fun c => c.isDigit || c = '_'
  if run.any Char.isDigit then some rest else none

/-- What follows a number with a fraction, an exponent or both. -/
def afterFloat? (text : List Char) : Option (List Char) := do
  let rest ← match ← afterDigits? text with
    | '.' :: fraction => afterDigits? fraction
    | rest => some rest
  match rest with
  | 'e' :: exponent | 'E' :: exponent => afterDigits? (dropSign exponent)
  | rest => some rest

/-- Whether digits, before which no sign stands, begin with a zero that says nothing. -/
def hasLeadingZero (text : List Char) : Bool :=
  let run := text.takeWhile fun c => c.isDigit || c = '_'
  text.head? = some '0' && 1 < (run.filter Char.isDigit).length

/-- A number in decimal, a date or a time: what stands behind the first digits decides which. -/
def decimal? (word : List Char) : Option Word :=
  let digits := dropSign word
  let rest := digits.dropWhile Char.isDigit
  let kept := Word.other (String.ofList word)
  if rest.head? = some '-' || rest.head? = some ':' then
    if isMoment word then some kept else none
  else if rest.contains ' ' then none
  else if rest.any fun c => c = '.' || c = 'e' || c = 'E' then
    if afterFloat? digits = some [] && !hasLeadingZero digits && isJoined Char.isDigit word then
      some kept
    else none
  else if rest.isEmpty then
    if digits.isEmpty || hasLeadingZero digits then none else some (wholeNumber 10 word)
  else if rest.head? = some '_' && digits.head? ≠ some '0' && isJoined (isDigitOf 16) word then
    some (wholeNumber 10 word)
  else none

namespace Word

/-- The value of a spelling. -/
def ofSpelling? (word : List Char) : Option Word :=
  match word with
  | ['t', 'r', 'u', 'e'] => some (.bool true)
  | ['f', 'a', 'l', 's', 'e'] => some (.bool false)
  | '0' :: 'x' :: digits => markedNumber? 16 digits
  | '0' :: 'o' :: digits => markedNumber? 8 digits
  | '0' :: 'b' :: digits => markedNumber? 2 digits
  | _ =>
    if dropSign word = "inf".toList || dropSign word = "nan".toList then
      some (.other (String.ofList word))
    else decimal? word

/-- The document of a value. What no setting takes stands as an object, under a name that no
section and no choice has. -/
def document : Word → Json
  | bool value => .bool value
  | integer value => .int value
  | other spelling => .ofFields [("spelling", .string spelling)]

end Word

def endsWord (c : Char) : Bool := "=,[]\x7b\x7d#\n\r".toList.contains c

/-- The spelling of a value without quotes or brackets, and the text that follows. Blanks belong to
it only between two of its characters; both `read` and the `blanks` since then are kept newest
first. -/
def splitWord (read blanks : List Char) : List Char → List Char × List Char
  | [] => (read.reverse, blanks.reverse)
  | c :: rest =>
    if c = ' ' || c = '\t' then splitWord read (c :: blanks) rest
    else if endsWord c then (read.reverse, blanks.reverse ++ c :: rest)
    else splitWord (c :: (blanks ++ read)) [] rest

def word? (text : List Char) : Option (Word × List Char) :=
  let (word, rest) := splitWord [] [] text
  (Word.ofSpelling? word).map fun value => (value, rest)

end SqlBind.Toml

import SqlBind.Text.Quoted

/-!
Owns: octets and their hexadecimal text, two lower-case digits each, and the big-endian octets of
a number.
-/

set_option autoImplicit false

namespace SqlBind

abbrev Bytes := List UInt8

namespace Bytes

def hexDigit (n : Nat) : Char := Nat.digitChar n

/-- Two hexadecimal digits for each octet. -/
def toHex (bytes : Bytes) : String :=
  String.ofList (bytes.flatMap fun b => [hexDigit (b.toNat / 16), hexDigit (b.toNat % 16)])

def digitValue? (c : Char) : Option Nat :=
  if '0' ≤ c ∧ c ≤ '9' then some (c.toNat - '0'.toNat)
  else if 'a' ≤ c ∧ c ≤ 'f' then some (c.toNat - 'a'.toNat + 10)
  else if 'A' ≤ c ∧ c ≤ 'F' then some (c.toNat - 'A'.toNat + 10)
  else none

/-- The octets of a text of digit pairs. -/
def ofHex? : List Char → Option Bytes
  | [] => some []
  | [_] => none
  | high :: low :: rest => do
    let h ← digitValue? high
    let l ← digitValue? low
    let bytes ← ofHex? rest
    return UInt8.ofNat (16 * h + l) :: bytes

/-- The number that the hexadecimal digits stand for. -/
def natOfHex? (digits : List Char) : Option Nat :=
  digits.foldlM (fun value c => (digitValue? c).map (16 * value + ·)) 0

/-- The lowest `width` octets of `n`, the highest of them first. -/
def bigEndian (width n : Nat) : Bytes :=
  match width with
  | 0 => []
  | more + 1 => UInt8.ofNat (n / Nat.pow 256 more) :: bigEndian more n

/-- The number whose octets, the highest first, are `bytes`. -/
def toNat (bytes : Bytes) : Nat := bytes.foldl (fun value b => 256 * value + b.toNat) 0

def ofText (text : String) : Bytes := text.toUTF8.toList

end Bytes

end SqlBind

import SqlBind.Text.Hex

/-!
Owns: universally unique identifiers of 128 bits and their hyphenated text.
-/

set_option autoImplicit false

namespace SqlBind

structure Uuid where
  bits : BitVec 128
deriving DecidableEq, Repr, Inhabited

namespace Uuid

def bytes (u : Uuid) : Bytes := Bytes.bigEndian 16 u.bits.toNat

/-- Lower-case digits in groups of 8, 4, 4, 4 and 12. -/
def text (u : Uuid) : String :=
  let digits := (Bytes.toHex u.bytes).toList
  let group (start count : Nat) : List Char := (digits.drop start).take count
  String.ofList (group 0 8 ++ ['-'] ++ group 8 4 ++ ['-'] ++ group 12 4 ++ ['-'] ++ group 16 4
    ++ ['-'] ++ group 20 12)

/-- Reads 32 digits of either case, hyphens aside. -/
def ofText? (text : String) : Option Uuid :=
  let digits := text.toList.filter (· ≠ '-')
  if digits.length = 32 then (Bytes.natOfHex? digits).map fun n => ⟨BitVec.ofNat 128 n⟩ else none

end Uuid

end SqlBind

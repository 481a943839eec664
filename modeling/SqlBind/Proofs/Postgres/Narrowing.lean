import SqlBind.Postgres.Encoding
import Mathlib.Tactic.Ring

/-!
Owns: integers in columns. A column type has a width and a sign, and these two decide what fits and
how octets are read back, the highest first and negative numbers as two's complements.

Main statement: an integer that fits is sent in the octets that read back as it, and no other is
sent (`integers_keep_value`).
-/

set_option autoImplicit false

namespace SqlBind

namespace Bytes

private theorem length_bigEndian (width n : Nat) : (bigEndian width n).length = width := by
  induction width with
  | zero => rfl
  | succ width inductionHypothesis => rw [bigEndian, List.length_cons, inductionHypothesis]

private theorem foldl_octets (value : Nat) (octets : Bytes) :
    octets.foldl (fun value b => 256 * value + b.toNat) value =
      256 ^ octets.length * value + toNat octets := by
  induction octets generalizing value with
  | nil => simp [toNat]
  | cons b octets inductionHypothesis =>
      rw [toNat, List.foldl_cons, List.foldl_cons, inductionHypothesis, inductionHypothesis,
        List.length_cons, Nat.pow_succ]
      ring

private theorem toNat_cons (b : UInt8) (octets : Bytes) :
    toNat (b :: octets) = 256 ^ octets.length * b.toNat + toNat octets := by
  rw [toNat, List.foldl_cons, Nat.mul_zero, Nat.zero_add, foldl_octets]

/-- The octets of a number hold its lowest bits. -/
theorem toNat_bigEndian (width n : Nat) : toNat (bigEndian width n) = n % 256 ^ width := by
  induction width with
  | zero => rw [Nat.pow_zero, Nat.mod_one]; rfl
  | succ width inductionHypothesis =>
      have next : n % 256 ^ (width + 1) = n % 256 ^ width + 256 ^ width * (n / 256 ^ width % 256) :=
        Nat.mod_pow_succ
      rw [bigEndian, toNat_cons, length_bigEndian, inductionHypothesis, UInt8.toNat_ofNat',
        next, Nat.add_comm]
      rfl

end Bytes

namespace Postgres

inductive IntegerType where
  | int2
  | int4
  | int8
  | oid
deriving DecidableEq, Repr, Inhabited

namespace IntegerType

def column : IntegerType → ColumnType
  | int2 => .int2
  | int4 => .int4
  | int8 => .int8
  | oid => .oid

/-- How many octets an integer of the type takes. -/
def width : IntegerType → Nat
  | int2 => 2
  | int4 => 4
  | int8 => 8
  | oid => 4

def signed : IntegerType → Bool
  | oid => false
  | _ => true

def low (type : IntegerType) : Int := if type.signed then -2 ^ (8 * type.width - 1) else 0

/-- The first integer above the type's range. -/
def limit (type : IntegerType) : Int :=
  if type.signed then 2 ^ (8 * type.width - 1) else 2 ^ (8 * type.width)

def Fits (type : IntegerType) (i : Int) : Prop := type.low ≤ i ∧ i < type.limit

/-- The integer that octets stand for. -/
def read (type : IntegerType) (octets : Bytes) : Int :=
  if type.signed then (BitVec.ofNat (8 * type.width) octets.toNat).toInt else octets.toNat

/-! ### Octets -/

private theorem toNat_signedOctets (width : Nat) (i : Int) :
    ((signedOctets width i).toNat : Int) = i % (2 ^ (8 * width) : Nat) := by
  have power : 2 ^ (8 * width) = 256 ^ width := by
    rw [Nat.pow_mul]
  have modulus : Int.pow 256 width = (256 ^ width : Nat) := by
    rw [Int.pow_eq, Int.natCast_pow]
    rfl
  have positive : (0 : Int) < (256 ^ width : Nat) := Int.natCast_pos.mpr (Nat.pow_pos (by decide))
  have lower := Int.emod_nonneg i (Int.ne_of_gt positive)
  have upper := Int.emod_lt_of_pos i positive
  have small : (i % (256 ^ width : Nat)).toNat < 256 ^ width := by omega
  have residue : i.emod (256 ^ width : Nat) = i % (256 ^ width : Nat) := rfl
  rw [signedOctets, Bytes.toNat_bigEndian, modulus, residue, power, Nat.mod_eq_of_lt small,
    Int.toNat_of_nonneg lower]

private theorem read_signedOctets {type : IntegerType} {i : Int} (fits : type.Fits i) :
    type.read (signedOctets type.width i) = i := by
  obtain ⟨lower, upper⟩ := fits
  unfold read
  unfold low at lower
  unfold limit at upper
  split
  · rename_i signed
    rw [if_pos signed] at lower upper
    have positive : 0 < 8 * type.width := by
      cases type <;> decide
    rw [← BitVec.ofInt_natCast, toNat_signedOctets, BitVec.toInt_ofInt, Int.emod_bmod,
      ← BitVec.toInt_ofInt, BitVec.toInt_ofInt_eq_self positive lower upper]
  · rename_i unsigned
    rw [if_neg unsigned] at lower upper
    have below : i < (2 ^ (8 * type.width) : Nat) := by
      rwa [Int.natCast_pow]
    rw [toNat_signedOctets, Int.emod_eq_of_lt lower below]

/-! ### Columns -/

private theorem fits_int8 (v : Int64) : int8.Fits v.toInt := ⟨Int64.le_toInt v, Int64.toInt_lt v⟩

/-- What becomes of an integer depends on the range of the column only. -/
theorem encode_int (type : IntegerType) (v : Int64) :
    encode (.int v) type.column =
      if v.toInt < type.low then .error .tooSmall
      else if type.limit ≤ v.toInt then .error .tooLarge
      else .ok (some (signedOctets type.width v.toInt)) := by
  have narrows : ∀ high, high + 1 = type.limit →
      (narrowed type.width type.low high v.toInt).map some =
        if v.toInt < type.low then .error .tooSmall
        else if type.limit ≤ v.toInt then .error .tooLarge
        else .ok (some (signedOctets type.width v.toInt)) := by
    intro high next
    have above : high < v.toInt ↔ type.limit ≤ v.toInt := by omega
    simp only [narrowed, above]
    split
    · rfl
    · split <;> rfl
  cases type with
  | int2 => exact narrows _ rfl
  | int4 => exact narrows _ rfl
  | int8 =>
      obtain ⟨lower, upper⟩ := fits_int8 v
      rw [if_neg (Int.not_lt.mpr lower), if_neg (Int.not_le.mpr upper)]
      rfl
  | oid => exact narrows _ rfl

variable {type : IntegerType} {v : Int64}

private theorem encode_of_fits (fits : type.Fits v.toInt) :
    encode (.int v) type.column = .ok (some (signedOctets type.width v.toInt)) := by
  obtain ⟨lower, upper⟩ := fits
  rw [encode_int, if_neg (Int.not_lt.mpr lower), if_neg (Int.not_le.mpr upper)]

private theorem encode_of_not_fits (outside : ¬ type.Fits v.toInt) :
    ∃ fault, encode (.int v) type.column = .error fault := by
  rw [encode_int]
  by_cases below : v.toInt < type.low
  · exact ⟨_, if_pos below⟩
  · have above : type.limit ≤ v.toInt :=
      Int.not_lt.mp fun upper => outside ⟨Int.not_lt.mp below, upper⟩
    exact ⟨_, (if_neg below).trans (if_pos above)⟩

/-- What was sent can be read, whatever it is. -/
theorem read_of_encode {sent : Option Bytes} (sends : encode (.int v) type.column = .ok sent) :
    sent.map type.read = some v.toInt := by
  by_cases fits : type.Fits v.toInt
  · rw [encode_of_fits fits] at sends
    obtain rfl := Except.ok.inj sends
    exact congrArg some (read_signedOctets fits)
  · obtain ⟨fault, refused⟩ := encode_of_not_fits fits
    rw [refused] at sends
    contradiction

end IntegerType

open IntegerType in
/-- An integer can be sent to a column if and only if it is in the range of the column. What is sent
has the width of the column and reads back as the integer, so no other integer is sent like it. -/
theorem integers_keep_value (type : IntegerType) (v : Int64) :
    (type.Fits v.toInt → ∃ octets, encode (.int v) type.column = .ok (some octets) ∧
      octets.length = type.width ∧ type.read octets = v.toInt) ∧
    (¬ type.Fits v.toInt → ∃ fault, encode (.int v) type.column = .error fault) ∧
    ∀ (other : Int64) (sent : Option Bytes), encode (.int v) type.column = .ok sent →
      encode (.int other) type.column = .ok sent → other = v := by
  refine ⟨fun fits => ?_, encode_of_not_fits, fun other sent first second => ?_⟩
  · exact ⟨_, encode_of_fits fits, Bytes.length_bigEndian _ _, read_signedOctets fits⟩
  · have same := (read_of_encode second).symm.trans (read_of_encode first)
    exact Int64.toInt_inj.mp (Option.some.inj same)

/-- The greatest identifier and the integer with the same octets in a signed column. -/
example : encode (.int 4294967295) .oid = .ok (some [255, 255, 255, 255]) ∧
    encode (.int (-1)) .int4 = .ok (some [255, 255, 255, 255]) ∧
    encode (.int 4294967295) .int4 = .error .tooLarge := ⟨rfl, rfl, rfl⟩

end Postgres

end SqlBind

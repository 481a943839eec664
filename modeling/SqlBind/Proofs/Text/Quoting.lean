import SqlBind.Text.Quoted
import Mathlib.Data.Nat.Digits.Defs

/-!
Owns: reading the quoted form of a character back. An escape begins with a backslash and is longer
than one character, so it is not taken for a character that stands for itself.

Main statement: two characters with one quoted form are the same (`quotedChar_injective`).
-/

set_option autoImplicit false

namespace SqlBind.Text

/-- The value of a lower-case hexadecimal digit. -/
private def digitValue (c : Char) : Nat := "0123456789abcdef".toList.idxOf c

private theorem digitValue_digitChar {n : Nat} (single : n < 16) : digitValue n.digitChar = n := by
  have all : ∀ n < 16, digitValue n.digitChar = n := by decide +kernel
  exact all n single

private theorem foldl_hexDigits (n : Nat) :
    (hexDigits n).foldl (fun value c => 16 * value + digitValue c) 0 = n := by
  unfold hexDigits
  induction n using Nat.strong_induction_on with
  | _ n inductionHypothesis =>
      rw [Nat.toDigits_eq_if (by decide)]
      split
      case isTrue single =>
        rw [List.foldl_cons, List.foldl_nil, digitValue_digitChar single, Nat.zero_add]
      case isFalse several =>
        rw [List.foldl_append, inductionHypothesis (n / 16) (by omega), List.foldl_cons,
          List.foldl_nil, digitValue_digitChar (Nat.mod_lt n (by decide)), Nat.div_add_mod]

/-- The character with this spelling between single quotes. -/
private def spelled : List Char → Char
  | [c] => c
  | ['\\', '0'] => '\x00'
  | ['\\', 't'] => '\t'
  | ['\\', 'r'] => '\r'
  | ['\\', 'n'] => '\n'
  | ['\\', c] => c
  | spelling =>
      Char.ofNat ((spelling.drop 3).dropLast.foldl (fun value c => 16 * value + digitValue c) 0)

private theorem spelled_escaped (c : Char) : spelled (escaped '\'' c) = c := by
  unfold escaped
  split
  case isTrue control => exact control.symm
  split
  case isTrue control => exact control.symm
  split
  case isTrue control => exact control.symm
  split
  case isTrue control => exact control.symm
  split
  case isTrue escapes =>
    simp only [Bool.or_eq_true, decide_eq_true_eq] at escapes
    rcases escapes with rfl | rfl <;> rfl
  split
  case isTrue => rfl
  case isFalse =>
    have read : spelled (['\\', 'u', '\x7b'] ++ hexDigits c.toNat ++ ['\x7d']) =
        Char.ofNat ((hexDigits c.toNat).foldl (fun value c => 16 * value + digitValue c) 0) := by
      show Char.ofNat _ = _
      simp
    rw [read, foldl_hexDigits, Char.ofNat_toNat]

/-- Two characters with one quoted form are the same. -/
theorem quotedChar_injective {c d : Char} (same : quotedChar c = quotedChar d) : c = d := by
  have between := congrArg String.toList same
  simp only [quotedChar, String.toList_ofList, List.cons_append, List.cons.injEq, true_and,
    List.append_cancel_right_eq] at between
  rw [← spelled_escaped c, between, spelled_escaped]

end SqlBind.Text

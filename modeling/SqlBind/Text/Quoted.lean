import SqlBind.Text.Unprintable

/-!
Owns: the quoted form of characters and texts in diagnostics. The quote in use and the backslash
get a backslash, five controls have a letter of their own, and what shows nothing of its own is
written by its code point.
-/

set_option autoImplicit false

namespace SqlBind.Text

/-- The lower-case hexadecimal digits of `n`, at least one. -/
def hexDigits (n : Nat) : List Char := Nat.toDigits 16 n

/-- The spelling of one character between `quote` marks. -/
def escaped (quote c : Char) : List Char :=
  if c = '\x00' then ['\\', '0']
  else if c = '\t' then ['\\', 't']
  else if c = '\r' then ['\\', 'r']
  else if c = '\n' then ['\\', 'n']
  else if c = '\\' || c = quote then ['\\', c]
  else if isPrintable c then [c]
  else ['\\', 'u', '\x7b'] ++ hexDigits c.toNat ++ ['\x7d']

def quotedChar (c : Char) : String :=
  String.ofList ('\'' :: escaped '\'' c ++ ['\''])

def quoted (text : String) : String :=
  String.ofList ('"' :: text.toList.flatMap (escaped '"') ++ ['"'])

end SqlBind.Text

import SqlBind.Text.CodePoints

/-!
Owns: the Unicode property White_Space, and trimming by it.
-/

set_option autoImplicit false

namespace SqlBind.Text

/-- The code points with the property White_Space. -/
def blanks : CodePoints :=
  #[(0x09, 0x0d), (0x20, 0x20), (0x85, 0x85), (0xa0, 0xa0), (0x1680, 0x1680), (0x2000, 0x200a),
    (0x2028, 0x2029), (0x202f, 0x202f), (0x205f, 0x205f), (0x3000, 0x3000)]

def isBlank (c : Char) : Bool := blanks.contains c

def trim (text : List Char) : List Char :=
  ((text.dropWhile isBlank).reverse.dropWhile isBlank).reverse

def allBlank (text : List Char) : Bool := text.all isBlank

end SqlBind.Text

/-!
Owns: sets of code points written as inclusive ranges, the form in which the tables of the
Unicode character database are kept.
-/

set_option autoImplicit false

namespace SqlBind.Text

/-- A set of code points: each pair is the first and the last member of a range. -/
abbrev CodePoints := Array (Nat × Nat)

namespace CodePoints

def contains (ranges : CodePoints) (c : Char) : Bool :=
  ranges.any fun range => range.1 ≤ c.toNat && c.toNat ≤ range.2

end CodePoints

end SqlBind.Text

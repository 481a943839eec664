import SqlBind.Value

/-!
Owns: how long statements and long batches are shortened for the log. A statement is cut between two
characters, at a position found by going back from the limit byte by byte.
-/

set_option autoImplicit false

namespace SqlBind.Log

/-- The last position up to byte `limit` that is between two characters of `text` or at one of its
ends. -/
def lastBoundary (text : String) : Nat → Nat
  | 0 => 0
  | limit + 1 =>
    if (String.Pos.Raw.mk (limit + 1)).isValid text then limit + 1 else lastBoundary text limit

/-- The search ends where the text can be cut. -/
theorem isValid_lastBoundary (text : String) (limit : Nat) :
    (String.Pos.Raw.mk (lastBoundary text limit)).IsValid text := by
  induction limit with
  | zero => exact String.Pos.Raw.isValid_zero
  | succ limit inductionHypothesis =>
    rw [lastBoundary]
    split
    case isTrue boundary => exact String.Pos.Raw.isValid_eq_true_iff.mp boundary
    case isFalse => exact inductionHypothesis

/-- The last boundary up to byte `limit`, as a place to cut the text at. -/
def lastCut (text : String) (limit : Nat) : text.Pos :=
  text.pos ⟨lastBoundary text limit⟩ (isValid_lastBoundary text limit)

/-- The text, or what of it stands before the last boundary up to byte `limit`. -/
def beginning (text : String) (limit : Nat) : String :=
  if text.utf8ByteSize ≤ limit then text else (text.sliceTo (lastCut text limit)).copy

def excerptLimit : Nat := 200

/-- The statement, or as much of it as the log shows, with three dots. -/
def excerpt (sql : String) : String :=
  if excerptLimit < sql.utf8ByteSize then beginning sql excerptLimit ++ "..." else sql

/-- The first two rows of a chunk, and how many more there are. -/
def preview (rows : List Row) : String :=
  let shown := Row.bracketed ((rows.take 2).map Row.describe)
  if 2 < rows.length then shown ++ " (+" ++ toString (rows.length - 2) ++ " more)" else shown

end SqlBind.Log

import SqlBind.Proofs.Table.Statements

/-!
Owns: names that are written as they were read. Reading drops nothing but the quotes of quoted parts
and the points between parts, and writing puts them back.

Main statement: a name that was read is written as the text that it was read from
(`chars_of_parse`).
-/

set_option autoImplicit false

namespace SqlBind

namespace IdentPart

private theorem chars_of_parseQuoted {inner : List Char} {part : IdentPart}
    (parses : parseQuoted inner = .ok part) : part.chars = '"' :: inner := by
  unfold parseQuoted at parses
  split at parses
  · rename_i reversed split
    dsimp only at parses
    split at parses
    · cases parses
    · split at parses
      · cases parses
      · cases parses
        -- The last character is the closing quote, and writing puts it back.
        have closed : inner = reversed.reverse ++ ['"'] := by
          rw [← List.reverse_cons, ← split, List.reverse_reverse]
        rw [closed]
        rfl
  · cases parses

/-- A part keeps the characters that it was read from, quotes included. -/
theorem chars_of_parse {text : List Char} {part : IdentPart} (parses : parse text = .ok part) :
    part.chars = text := by
  unfold parse at parses
  split at parses
  · cases parses
  · exact chars_of_parseQuoted parses
  · split at parses
    · split at parses
      · cases parses
      · cases parses
        rfl
    · cases parses

end IdentPart

namespace Ident

private theorem joinPoints_eq_intercalate (parts : List IdentPart) :
    joinPoints parts = ['.'].intercalate (parts.map IdentPart.chars) := by
  fun_induction joinPoints parts with
  | case1 => rfl
  | case2 part => simp [List.intercalate]
  | case3 part rest nonempty inductionHypothesis =>
      rw [inductionHypothesis]
      cases rest with
      | nil => exact absurd rfl nonempty
      | cons next later => simp [List.intercalate]

theorem splitPoints_ne_nil (text : List Char) : splitPoints text ≠ [] := by
  fun_induction splitPoints text <;> simp

/-- Splitting at points loses nothing but the points. -/
theorem intercalate_splitPoints (text : List Char) :
    ['.'].intercalate (splitPoints text) = text := by
  fun_induction splitPoints text with
  | case1 => rfl
  | case2 rest inductionHypothesis =>
      cases split : splitPoints rest with
      | nil => exact absurd split (splitPoints_ne_nil rest)
      | cons first more =>
          rw [split] at inductionHypothesis
          simpa [List.intercalate] using inductionHypothesis
  | case3 c rest plain first more split inductionHypothesis =>
      rw [split] at inductionHypothesis
      rw [← inductionHypothesis]
      cases more <;> simp [List.intercalate]
  | case4 c rest plain split => exact absurd split (splitPoints_ne_nil rest)

private theorem map_chars_of_parse {pieces : List (List Char)} {parts : List IdentPart}
    (read : pieces.mapM IdentPart.parse = .ok parts) : parts.map IdentPart.chars = pieces := by
  have each := forall₂_of_mapM read
  clear read
  induction each with
  | nil => rfl
  | cons first rest inductionHypothesis =>
      rw [List.map_cons, IdentPart.chars_of_parse first, inductionHypothesis]

/-- A name keeps the characters that it was read from. -/
theorem chars_of_parse {text : String} {name : Ident} (parses : parse text = .ok name) :
    name.chars = text.toList := by
  unfold parse at parses
  split at parses
  · cases parses
  · cases read : (splitPoints text.toList).mapM IdentPart.parse with
    | error fault =>
        rw [read] at parses
        cases parses
    | ok parts =>
        rw [read] at parses
        cases parses
        calc joinPoints parts
          _ = ['.'].intercalate (parts.map IdentPart.chars) := joinPoints_eq_intercalate parts
          _ = ['.'].intercalate (splitPoints text.toList) := by rw [map_chars_of_parse read]
          _ = text.toList := intercalate_splitPoints text.toList

end Ident

end SqlBind

import SqlBind.Log.Excerpt
import Mathlib.Data.List.Infix
import Mathlib.Data.Nat.Find

/-!
Owns: where the log cuts a long statement. The search goes back from the limit byte by byte, to the
first position that is between two characters; what stands before it is described in characters.

Main statement: the log shows a statement as it is if the limit has room for it, and otherwise the
longest beginning that the limit has room for, with three dots (`excerpt_shows_longest_beginning`).
-/

set_option autoImplicit false

namespace SqlBind.Log

/-- `shown` is the longest beginning of `text`, in whole characters, that takes at most `budget`
bytes. -/
structure LongestWithin (budget : Nat) (text shown : String) : Prop where
  begins : shown.toList <+: text.toList
  fits : shown.utf8ByteSize ≤ budget
  longest : ∀ other : String, other.toList <+: text.toList → other.utf8ByteSize ≤ budget →
    other.toList <+: shown.toList

/-! ### Beginnings of a text -/

private theorem eq_append_of_begins {shown text : String} (begins : shown.toList <+: text.toList) :
    ∃ rest, text = shown ++ rest := by
  obtain ⟨rest, whole⟩ := begins
  refine ⟨String.ofList rest, String.toList_inj.mp ?_⟩
  rw [String.toList_append, String.toList_ofList, whole]

/-- Of two beginnings of one text, that of fewer bytes begins the other. -/
theorem begins_of_utf8ByteSize_le {first second text : String}
    (firstBegins : first.toList <+: text.toList) (secondBegins : second.toList <+: text.toList)
    (smaller : first.utf8ByteSize ≤ second.utf8ByteSize) : first.toList <+: second.toList := by
  rcases List.prefix_or_prefix_of_prefix firstBegins secondBegins with firstShorter | secondShorter
  · exact firstShorter
  · -- The longer one has no more bytes either, so nothing follows the other in it.
    obtain ⟨rest, rfl⟩ := eq_append_of_begins secondShorter
    rw [String.utf8ByteSize_append] at smaller
    have nothingLeft : rest = "" := String.utf8ByteSize_eq_zero_iff.mp (by omega)
    rw [nothingLeft, String.append_empty]

private theorem isValid_of_begins {shown text : String} (begins : shown.toList <+: text.toList) :
    (String.Pos.Raw.mk shown.utf8ByteSize).IsValid text := by
  obtain ⟨rest, rfl⟩ := eq_append_of_begins begins
  exact String.Pos.Raw.isValid_iff_exists_append.mpr ⟨shown, rest, rfl, rfl⟩

/-! ### The search for a boundary -/

section Search

variable (text : String) (limit : Nat)

private theorem lastBoundary_eq_findGreatest :
    lastBoundary text limit =
      Nat.findGreatest (fun position => (String.Pos.Raw.mk position).isValid text) limit := by
  induction limit with
  | zero => rfl
  | succ limit inductionHypothesis =>
      rw [lastBoundary, Nat.findGreatest_succ, inductionHypothesis]

theorem lastBoundary_le : lastBoundary text limit ≤ limit := by
  rw [lastBoundary_eq_findGreatest]
  exact Nat.findGreatest_le limit

variable {text limit}

/-- No boundary within the limit is behind the last one. -/
theorem le_lastBoundary {position : Nat} (boundary : (String.Pos.Raw.mk position).IsValid text)
    (within : position ≤ limit) : position ≤ lastBoundary text limit := by
  rw [lastBoundary_eq_findGreatest]
  exact Nat.le_findGreatest within (String.Pos.Raw.isValid_eq_true_iff.mpr boundary)

/-- The character after the last boundary ends beyond the limit, and it takes at most four bytes. -/
theorem lt_lastBoundary_add_four (long : limit < text.utf8ByteSize) :
    limit < lastBoundary text limit + 4 := by
  have inside : lastCut text limit ≠ text.endPos := by
    intro atEnd
    have size : lastBoundary text limit = text.utf8ByteSize :=
      congrArg (fun position : text.Pos => position.offset.byteIdx) atEnd
    have below := lastBoundary_le text limit
    omega
  let next := (lastCut text limit).next inside
  let width := ((lastCut text limit).get inside).utf8Size
  have ending : next.offset.byteIdx = lastBoundary text limit + width :=
    String.Pos.byteIdx_offset_next (lastCut text limit) inside
  have beyond : limit < next.offset.byteIdx := by
    by_contra within
    have earlier : next.offset.byteIdx ≤ lastBoundary text limit :=
      le_lastBoundary next.isValid (Nat.le_of_not_lt within)
    have positive : 0 < width := Char.utf8Size_pos _
    omega
  calc
    limit < lastBoundary text limit + width := ending ▸ beyond
    _ ≤ lastBoundary text limit + 4 := Nat.add_le_add_left (Char.utf8Size_le_four _) _

end Search

/-! ### What stands before the boundary -/

theorem begins_beginning (text : String) (limit : Nat) :
    (beginning text limit).toList <+: text.toList := by
  rw [beginning]
  split
  case isTrue => exact List.prefix_rfl
  case isFalse =>
    have whole := (lastCut text limit).splits.eq_append
    exact ⟨_, by rw [← String.toList_append, ← whole]⟩

/-- The beginning of a long text ends at the last boundary within the limit. -/
theorem utf8ByteSize_beginning {text : String} {limit : Nat} (long : limit < text.utf8ByteSize) :
    (beginning text limit).utf8ByteSize = lastBoundary text limit := by
  rw [beginning, if_neg (Nat.not_le_of_lt long)]
  exact congrArg String.Pos.Raw.byteIdx (lastCut text limit).splits.offset_eq_rawEndPos.symm

private theorem longestWithin_beginning (text : String) (limit : Nat) :
    LongestWithin limit text (beginning text limit) := by
  by_cases fits : text.utf8ByteSize ≤ limit
  · rw [beginning, if_pos fits]
    exact ⟨List.prefix_rfl, fits, fun other begins _ => begins⟩
  · have size := utf8ByteSize_beginning (Nat.lt_of_not_le fits)
    refine ⟨begins_beginning text limit, size ▸ lastBoundary_le text limit,
      fun other begins otherFits => ?_⟩
    have earlier := le_lastBoundary (isValid_of_begins begins) otherFits
    exact begins_of_utf8ByteSize_le begins (begins_beginning text limit) (size ▸ earlier)

/-- The log shows a statement of at most 200 bytes as it is. Of a longer one it shows the longest
beginning in whole characters that takes at most 200 bytes, and so at least 197, with three dots.
The search for a boundary ends at a position that the statement can be cut at, whatever its
characters are, and never more than 203 bytes are shown. -/
theorem excerpt_shows_longest_beginning (sql : String) :
    (sql.utf8ByteSize ≤ 200 → excerpt sql = sql) ∧
      (200 < sql.utf8ByteSize → ∃ shown, excerpt sql = shown ++ "..." ∧
        LongestWithin 200 sql shown ∧ 197 ≤ shown.utf8ByteSize ∧
        shown.utf8ByteSize = lastBoundary sql 200) ∧
      (String.Pos.Raw.mk (lastBoundary sql 200)).IsValid sql ∧
      (excerpt sql).utf8ByteSize ≤ 203 := by
  have whole (short : sql.utf8ByteSize ≤ 200) : excerpt sql = sql := if_neg (Nat.not_lt.mpr short)
  have cut (long : 200 < sql.utf8ByteSize) : excerpt sql = beginning sql 200 ++ "..." := if_pos long
  have longest : LongestWithin 200 sql (beginning sql 200) := longestWithin_beginning sql 200
  refine ⟨whole, fun long => ?_, isValid_lastBoundary sql 200, ?_⟩
  · have size := utf8ByteSize_beginning long
    have late := lt_lastBoundary_add_four long
    exact ⟨_, cut long, longest, by omega, size⟩
  · rcases Nat.lt_or_ge 200 sql.utf8ByteSize with long | short
    · have dots : "...".utf8ByteSize = 3 := by decide
      have fits := longest.fits
      rw [cut long, String.utf8ByteSize_append, dots]
      omega
    · rw [whole short]
      omega

/-- The limit falls into a character of three bytes. -/
example : lastBoundary "aé€b" 5 = 3 ∧ beginning "aé€b" 5 = "aé" := by decide

end SqlBind.Log

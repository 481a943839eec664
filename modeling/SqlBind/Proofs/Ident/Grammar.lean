import SqlBind.Proofs.Ident.Reading

/-!
Owns: which texts are names. The grammar is stated on the text alone: it cuts a text at its points
and says of each piece what characters it is made of.

Main statement: a text can be read if and only if it follows the grammar, and what was read is
written as that text, so that different texts are different names (`names_follow_grammar`).
-/

set_option autoImplicit false

namespace SqlBind

namespace Ident

/-! ### The grammar -/

/-- A letter of `A` to `Z` or `a` to `z`, or an underscore. -/
def Initial (c : Char) : Prop := ('A' ≤ c ∧ c ≤ 'Z') ∨ ('a' ≤ c ∧ c ≤ 'z') ∨ c = '_'

/-- A part of a name, as it is written. -/
inductive PartText : List Char → Prop where
  | plain {first : Char} {later : List Char} (initial : Initial first)
      (others : ∀ c ∈ later, Initial c ∨ ('0' ≤ c ∧ c ≤ '9') ∨ c = '$') :
      PartText (first :: later)
  | quoted {text : List Char} (nonempty : text ≠ [])
      (allowed : ∀ c ∈ text, c ∉ ['"', '\'', ':', '.', '\x00']) :
      PartText ('"' :: text ++ ['"'])

/-- Parts with points between them, at least one. -/
def NameText (text : String) : Prop :=
  ∃ parts : List (List Char), parts ≠ [] ∧ (∀ part ∈ parts, PartText part) ∧
    text.toList = ['.'].intercalate parts

/-! ### Parts -/

theorem isFirst_iff {c : Char} : IdentPart.isFirst c = true ↔ Initial c := by
  have ranges : c.isAlpha = (decide ('A' ≤ c ∧ c ≤ 'Z') || ('a' ≤ c && c ≤ 'z')) := rfl
  rw [IdentPart.isFirst, ranges, Initial]
  simp only [Bool.or_eq_true, Bool.and_eq_true, decide_eq_true_eq]
  tauto

theorem isLater_iff {c : Char} :
    IdentPart.isLater c = true ↔ Initial c ∨ ('0' ≤ c ∧ c ≤ '9') ∨ c = '$' := by
  have ranges : c.isAlphanum = (c.isAlpha || ('0' ≤ c && c ≤ '9')) := rfl
  rw [← isFirst_iff, IdentPart.isLater, IdentPart.isFirst, ranges]
  simp only [Bool.or_eq_true, Bool.and_eq_true, decide_eq_true_eq]
  tauto

private theorem isForbidden_iff {c : Char} (other : c ≠ '.') :
    IdentPart.isForbidden c = true ↔ c ∈ ['"', '\'', ':', '.', '\x00'] := by
  simp [IdentPart.isForbidden, other, or_assoc]

theorem PartText.pointless {text : List Char} (part : PartText text) : '.' ∉ text := by
  intro member
  rcases part with ⟨initial, others⟩ | ⟨-, allowed⟩
  · rcases List.mem_cons.mp member with rfl | inLater
    · exact absurd (isFirst_iff.mpr initial) (by decide)
    · exact absurd (isLater_iff.mpr (others _ inLater)) (by decide)
  · simp only [List.mem_append, List.mem_cons, List.not_mem_nil, or_false] at member
    rcases member with (quote | inside) | quote
    · exact absurd quote (by decide)
    · exact allowed '.' inside (by decide)
    · exact absurd quote (by decide)

private theorem partText_of_parse {text : List Char} {part : IdentPart}
    (parses : IdentPart.parse text = .ok part) (pointless : '.' ∉ text) : PartText text := by
  unfold IdentPart.parse at parses
  split at parses
  · contradiction
  · rename_i inner
    unfold IdentPart.parseQuoted at parses
    split at parses
    · rename_i reversed ends
      dsimp only at parses
      split at parses
      · contradiction
      · rename_i nonempty
        split at parses
        · contradiction
        · rename_i allowed
          -- The text between the two quotes, which holds no point either.
          have closed : inner = reversed.reverse ++ ['"'] := by
            rw [← List.reverse_cons, ← ends, List.reverse_reverse]
          subst closed
          refine PartText.quoted (by simpa using nonempty) fun c member => ?_
          have other : c ≠ '.' := by
            rintro rfl
            exact pointless (by simp [List.mem_reverse.mp member])
          rw [← isForbidden_iff other]
          exact List.find?_eq_none.mp allowed c member
    · contradiction
  · rename_i first later _
    split at parses
    · rename_i begins
      split at parses
      · contradiction
      · rename_i allowed
        refine PartText.plain (isFirst_iff.mp begins) fun c member => ?_
        apply isLater_iff.mp
        simpa using List.find?_eq_none.mp allowed c member
    · contradiction

/-- A part that is written by the grammar is read. -/
theorem PartText.parse {text : List Char} (part : PartText text) :
    ∃ read, IdentPart.parse text = .ok read := by
  rcases part with ⟨initial, others⟩ | ⟨nonempty, allowed⟩
  · rename_i first later
    have begins := isFirst_iff.mpr initial
    have accepted : (later.find? fun c => !IdentPart.isLater c) = none := by
      apply List.find?_eq_none.mpr
      intro c member
      simpa using isLater_iff.mpr (others c member)
    have unquoted : first ≠ '"' := by
      rintro rfl
      exact absurd begins (by decide)
    refine ⟨.plain (first :: later), ?_⟩
    rw [IdentPart.parse, if_pos begins, accepted]
    exact unquoted
  · rename_i inner
    have accepted : inner.find? IdentPart.isForbidden = none := by
      apply List.find?_eq_none.mpr
      intro c member
      have permitted := allowed c member
      rwa [isForbidden_iff (by rintro rfl; exact permitted (by decide))]
    refine ⟨.quoted inner, ?_⟩
    rw [List.cons_append, IdentPart.parse, IdentPart.parseQuoted, List.reverse_append]
    simp [nonempty, accepted]

/-! ### Names -/

private theorem splitPoints_eq_splitOn (text : List Char) :
    splitPoints text = text.splitOn '.' := by
  fun_induction splitPoints text with
  | case1 => rfl
  | case2 rest inductionHypothesis =>
      rw [List.splitOn_cons_eq_if_modifyHead, if_pos (by decide), inductionHypothesis]
  | case3 c rest other first more split inductionHypothesis =>
      rw [List.splitOn_cons_eq_if_modifyHead, if_neg (by simpa using other), ← inductionHypothesis,
        split]
      rfl
  | case4 c rest other split => exact absurd split (splitPoints_ne_nil rest)

/-- The stretches between points hold no point. -/
theorem pointless_splitPoints (text : List Char) : ∀ piece ∈ splitPoints text, '.' ∉ piece := by
  fun_induction splitPoints text with
  | case1 => simp
  | case2 rest inductionHypothesis =>
      exact List.forall_mem_cons.mpr ⟨List.not_mem_nil, inductionHypothesis⟩
  | case3 c rest other first more split inductionHypothesis =>
      rw [split] at inductionHypothesis
      obtain ⟨before, later⟩ := List.forall_mem_cons.mp inductionHypothesis
      exact List.forall_mem_cons.mpr ⟨by simp [before, Ne.symm other], later⟩
  | case4 c rest other split => exact absurd split (splitPoints_ne_nil rest)

private theorem nameText_of_parse {text : String} {name : Ident} (parses : parse text = .ok name) :
    NameText text := by
  have pieces : ∀ piece ∈ splitPoints text.toList, PartText piece := by
    intro piece member
    unfold parse at parses
    split at parses
    · contradiction
    · rcases read : (splitPoints text.toList).mapM IdentPart.parse with fault | parts
      · rw [read] at parses
        contradiction
      · obtain ⟨part, reads⟩ := exists_ok_of_mapM read piece member
        exact partText_of_parse reads (pointless_splitPoints _ piece member)
  exact ⟨splitPoints text.toList, splitPoints_ne_nil _, pieces, (intercalate_splitPoints _).symm⟩

/-- A name that is written by the grammar is read. -/
theorem NameText.parse {text : String} (named : NameText text) :
    ∃ name, Ident.parse text = .ok name := by
  obtain ⟨parts, nonempty, each, written⟩ := named
  have split : splitPoints text.toList = parts := by
    rw [splitPoints_eq_splitOn, written]
    exact List.splitOn_intercalate '.' (fun part member => (each part member).pointless) nonempty
  have filled : text ≠ "" := by
    rintro rfl
    -- The empty text has one piece, which is no part.
    have piece : PartText [] := each [] (by rw [← split]; exact List.mem_singleton_self [])
    contradiction
  rcases read : parts.mapM IdentPart.parse with fault | idents
  · obtain ⟨part, member, fails⟩ := exists_of_mapM_error read
    obtain ⟨ident, parses⟩ := (each part member).parse
    rw [parses] at fails
    contradiction
  · refine ⟨⟨idents⟩, ?_⟩
    rw [Ident.parse, if_neg (by simpa using filled), split, read]
    rfl

/-- A name is displayed as it was written. -/
theorem text_of_parse {text : String} {name : Ident} (parses : parse text = .ok name) :
    name.text = text := by
  rw [Ident.text, chars_of_parse parses, String.ofList_toList]

/-- A text is a name if and only if it consists of parts that are joined by points. A name is
written as it was read, so it reads back, and names are equal only if their texts are. -/
theorem names_follow_grammar (text : String) :
    ((∃ name, parse text = .ok name) ↔ NameText text) ∧
      (∀ name, parse text = .ok name → name.text = text ∧ parse name.text = .ok name) ∧
      ∀ other left right, parse text = .ok left → parse other = .ok right →
        (left = right ↔ text = other) := by
  refine ⟨⟨?_, NameText.parse⟩, ?_, ?_⟩
  · rintro ⟨name, parses⟩
    exact nameText_of_parse parses
  · intro name parses
    have written := text_of_parse parses
    exact ⟨written, by rw [written, parses]⟩
  · intro other left right first second
    constructor
    · rintro rfl
      rw [← text_of_parse first, ← text_of_parse second]
    · rintro rfl
      exact Except.ok.inj (first.symm.trans second)

end Ident

end SqlBind

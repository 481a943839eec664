import SqlBind.Cli.EnvReference
import Mathlib.Data.List.Infix

/-!
Owns: what a text with references to environment variables is expanded to. The grammar speaks of the
text as a whole: literals with references between them, up to its end or to the first reference that
is defective. The reader goes over it character by character and does not know yet, at a dollar
sign, whether a reference begins there.

Main statement: every text has one ending, and it is expanded to that
(`expansion_follows_grammar`).
-/

set_option autoImplicit false

namespace SqlBind.Cli.EnvReference

/-! ### The grammar -/

/-- The two characters that a reference begins with. -/
def opening : List Char := ['$', '\x7b']

/-- A reference as it is written. -/
def reference (name : List Char) : List Char := opening ++ name ++ ['\x7d']

/-- A text in which no reference begins. -/
def Plain (text : List Char) : Prop := ¬ opening <:+: text

/-- A literal, the name in the reference after it, and the value of that name. -/
structure Stretch where
  literal : List Char
  name : List Char
  value : String
deriving DecidableEq, Repr, Inhabited

namespace Stretch

/-- The stretch as it stands in the text. -/
def source (s : Stretch) : List Char := s.literal ++ reference s.name

/-- The stretch with the value in the place of the reference. -/
def expansion (s : Stretch) : List Char := s.literal ++ s.value.toList

/-- The reference is the first in its stretch, and its name is set to the value. -/
structure Resolved (lookup : String → Option String) (s : Stretch) : Prop where
  plain : Plain s.literal
  named : s.name ≠ []
  closed : '\x7d' ∉ s.name
  set : lookup (String.ofList s.name) = some s.value

end Stretch

/-- A part of a text, from its beginning, that can be expanded: literals with references between
them. -/
structure Passed (lookup : String → Option String) where
  stretches : List Stretch
  last : List Char
  resolved : ∀ s ∈ stretches, s.Resolved lookup
  plain : Plain last

namespace Passed

variable {lookup : String → Option String}

def source (passed : Passed lookup) : List Char :=
  passed.stretches.flatMap Stretch.source ++ passed.last

def expansion (passed : Passed lookup) : List Char :=
  passed.stretches.flatMap Stretch.expansion ++ passed.last

/-- A further stretch at the beginning. -/
def cons (s : Stretch) (resolved : s.Resolved lookup) (passed : Passed lookup) : Passed lookup where
  stretches := s :: passed.stretches
  last := passed.last
  resolved := List.forall_mem_cons.mpr ⟨resolved, passed.resolved⟩
  plain := passed.plain

private theorem source_cons (s : Stretch) (resolved : s.Resolved lookup) (passed : Passed lookup) :
    (passed.cons s resolved).source = s.source ++ passed.source := by
  simp [source, cons]

end Passed

/-- A text that begins with a reference that cannot be replaced. -/
inductive Defect (lookup : String → Option String) : List Char → EnvFault → Prop where
  | unterminated {after : List Char} (unclosed : '\x7d' ∉ after) :
      Defect lookup (opening ++ after) (.unterminated after)
  | emptyName {after : List Char} : Defect lookup (reference [] ++ after) .emptyName
  | unset {name after : List Char} (named : name ≠ []) (closed : '\x7d' ∉ name)
      (missing : lookup (String.ofList name) = none) :
      Defect lookup (reference name ++ after) (.unset name)

/-- How a text can end up: expanded as a whole, or with the fault of its first defect. -/
inductive Ending (lookup : String → Option String) (text : String) :
    Except EnvFault String → Prop where
  | expanded (passed : Passed lookup) (whole : text.toList = passed.source) :
      Ending lookup text (.ok (String.ofList passed.expansion))
  | defective (passed : Passed lookup) {rest : List Char} {fault : EnvFault}
      (split : text.toList = passed.source ++ rest) (defect : Defect lookup rest fault) :
      Ending lookup text (.error fault)

/-! ### Literals -/

private theorem Plain.of_cons {c : Char} {text : List Char} (plain : Plain (c :: text)) :
    Plain text :=
  fun inside => plain (List.infix_cons inside)

/-- A dollar sign with a brace after it begins a reference. -/
theorem not_plain_opening (text : List Char) : ¬ Plain (opening ++ text) :=
  fun plain => plain (List.infix_append' [] opening text)

private theorem plain_cons {c : Char} {text : List Char} (plain : Plain text)
    (apart : c = '$' → text.head? ≠ some '\x7b') : Plain (c :: text) := by
  intro inside
  rcases List.infix_cons_iff.mp inside with ⟨rest, begins⟩ | later
  · obtain ⟨rfl, rfl⟩ := List.cons.inj begins
    exact apart rfl rfl
  · exact plain later

/-- A text is plain, or a reference is the first that begins in it. -/
theorem plain_or_opens (text : List Char) :
    Plain text ∨ ∃ literal after, text = literal ++ (opening ++ after) ∧ Plain literal := by
  have nothing : Plain [] := fun inside => absurd (List.infix_nil.mp inside) (by decide)
  induction text with
  | nil => exact Or.inl nothing
  | cons c text inductionHypothesis =>
      by_cases opens : c = '$' ∧ text.head? = some '\x7b'
      · obtain ⟨rfl, begins⟩ := opens
        obtain ⟨after, rfl⟩ := List.head?_eq_some_iff.mp begins
        exact Or.inr ⟨[], after, rfl, nothing⟩
      · rcases inductionHypothesis with plain | ⟨literal, after, rfl, plain⟩
        · exact Or.inl (plain_cons plain fun dollar brace => opens ⟨dollar, brace⟩)
        · refine Or.inr ⟨c :: literal, after, rfl, plain_cons plain fun dollar brace => ?_⟩
          obtain ⟨later, rfl⟩ := List.head?_eq_some_iff.mp brace
          exact opens ⟨dollar, rfl⟩

section Reading

variable {lookup : String → Option String}

/-! ### One pass over a text -/

/-- A character that does not begin a reference is copied. -/
theorem expandFrom_cons {c : Char} {rest : List Char}
    (apart : c = '$' → rest.head? ≠ some '\x7b') :
    expandFrom lookup .outside (c :: rest) =
      (expandFrom lookup .outside rest).map (c :: ·) := by
  by_cases dollar : c = '$'
  · subst dollar
    rcases rest with _ | ⟨d, rest⟩
    · rfl
    · have other : d ≠ '\x7b' := fun brace => apart rfl (congrArg some brace)
      by_cases again : d = '$'
      · subst again
        rfl
      · simp only [expandFrom, if_true, if_neg other, if_neg again]
        rcases expandFrom lookup .outside rest with fault | expanded <;> rfl
  · rw [expandFrom, if_neg dollar]

private theorem expandFrom_plain {literal rest : List Char} (plain : Plain literal)
    (apart : rest.head? ≠ some '\x7b') :
    expandFrom lookup .outside (literal ++ rest) =
      (expandFrom lookup .outside rest).map (literal ++ ·) := by
  induction literal with
  | nil =>
      rw [List.nil_append]
      rcases expandFrom lookup .outside rest with fault | expanded <;> rfl
  | cons c literal inductionHypothesis =>
      have single : c = '$' → (literal ++ rest).head? ≠ some '\x7b' := by
        rintro rfl
        rcases literal with _ | ⟨d, literal⟩
        · exact apart
        · rintro ⟨⟩
          exact not_plain_opening literal plain
      rw [List.cons_append, expandFrom_cons single, inductionHypothesis plain.of_cons]
      rcases expandFrom lookup .outside rest with fault | expanded <;> rfl

/-- A name is read up to the brace that closes it. -/
theorem expandFrom_name {name : List Char} (closed : '\x7d' ∉ name) (read rest : List Char) :
    expandFrom lookup (.name read) (name ++ rest) =
      expandFrom lookup (.name (name.reverse ++ read)) rest := by
  induction name generalizing read with
  | nil => rfl
  | cons c name inductionHypothesis =>
      obtain ⟨other, later⟩ := List.ne_and_not_mem_of_not_mem_cons closed
      rw [List.cons_append, expandFrom, if_neg other.symm, inductionHypothesis later,
        List.reverse_cons, List.append_assoc]
      rfl

private theorem expandFrom_closed (read rest : List Char) :
    expandFrom lookup (.name read) ('\x7d' :: rest) =
      if read.reverse.isEmpty then .error .emptyName
      else match lookup (String.ofList read.reverse) with
        | none => .error (.unset read.reverse)
        | some value => (expandFrom lookup .outside rest).map (value.toList ++ ·) := rfl

private theorem expandFrom_reference {name : List Char} (closed : '\x7d' ∉ name)
    (rest : List Char) :
    expandFrom lookup .outside (reference name ++ rest) =
      if name.isEmpty then .error .emptyName
      else match lookup (String.ofList name) with
        | none => .error (.unset name)
        | some value => (expandFrom lookup .outside rest).map (value.toList ++ ·) := by
  have opens : reference name ++ rest = '$' :: '\x7b' :: (name ++ '\x7d' :: rest) := by
    simp [reference, opening]
  rw [opens, expandFrom, if_pos rfl, expandFrom, if_pos rfl, expandFrom_name closed,
    List.append_nil, expandFrom_closed, List.reverse_reverse]

private theorem expandFrom_defect {rest : List Char} {fault : EnvFault}
    (defect : Defect lookup rest fault) :
    expandFrom lookup .outside rest = .error fault := by
  cases defect with
  | @unterminated after unclosed =>
      have whole : opening ++ after = '$' :: '\x7b' :: (after ++ []) := by simp [opening]
      rw [whole, expandFrom, if_pos rfl, expandFrom, if_pos rfl,
        expandFrom_name unclosed, expandFrom, List.append_nil, List.reverse_reverse]
  | emptyName => rfl
  | unset named closed missing =>
      rw [expandFrom_reference closed, if_neg (by simpa using named), missing]

private theorem expandFrom_stretch {s : Stretch} (resolved : s.Resolved lookup) (rest : List Char) :
    expandFrom lookup .outside (s.source ++ rest) =
      (expandFrom lookup .outside rest).map (s.expansion ++ ·) := by
  have apart : (reference s.name ++ rest).head? ≠ some '\x7b' := by
    simp [reference, opening]
  rw [Stretch.source, List.append_assoc, expandFrom_plain resolved.plain apart,
    expandFrom_reference resolved.closed, if_neg (by simpa using resolved.named), resolved.set]
  rcases expandFrom lookup .outside rest with fault | expanded
  · rfl
  · simp [Except.map, Stretch.expansion]

private theorem expandFrom_passed (passed : Passed lookup) {rest : List Char}
    (apart : rest.head? ≠ some '\x7b') :
    expandFrom lookup .outside (passed.source ++ rest) =
      (expandFrom lookup .outside rest).map (passed.expansion ++ ·) := by
  obtain ⟨stretches, last, resolved, plain⟩ := passed
  simp only [Passed.source, Passed.expansion, List.append_assoc]
  induction stretches with
  | nil => exact expandFrom_plain plain apart
  | cons s stretches inductionHypothesis =>
      obtain ⟨first, later⟩ := List.forall_mem_cons.mp resolved
      simp only [List.flatMap_cons, List.append_assoc]
      rw [expandFrom_stretch first, inductionHypothesis later]
      rcases expandFrom lookup .outside rest with fault | expanded <;> rfl

/-! ### Endings -/

/-- Whatever ending a text has, expanding it gives its result. -/
theorem expand_of_ending {text : String} {result : Except EnvFault String}
    (ending : Ending lookup text result) : expand lookup text = result := by
  unfold expand
  cases ending with
  | expanded passed whole =>
      rw [whole, ← List.append_nil passed.source, expandFrom_passed passed (by simp)]
      simp [expandFrom, Except.map]
  | defective passed split defect =>
      have apart : ∀ {rest fault}, Defect lookup rest fault → rest.head? ≠ some '\x7b' := by
        rintro _ _ (_ | _ | _) <;> simp [reference, opening]
      rw [split, expandFrom_passed passed (apart defect), expandFrom_defect defect]
      rfl

/-- A text is read to its end or to a defect. -/
theorem exists_passed (lookup : String → Option String) (text : List Char) :
    ∃ (passed : Passed lookup) (rest : List Char), text = passed.source ++ rest ∧
      (rest = [] ∨ ∃ fault, Defect lookup rest fault) := by
  rcases plain_or_opens text with plain | ⟨literal, after, rfl, plain⟩
  · exact ⟨⟨[], text, by simp, plain⟩, [], by simp [Passed.source], Or.inl rfl⟩
  · -- With a literal alone before it the defect is the first reference of the text.
    let before : Passed lookup := ⟨[], literal, by simp, plain⟩
    by_cases closes : '\x7d' ∈ after
    · obtain ⟨name, rest, rfl, closed⟩ := List.eq_append_cons_of_mem closes
      have whole : opening ++ (name ++ '\x7d' :: rest) = reference name ++ rest := by
        simp [reference]
      rw [whole]
      rcases eq_or_ne name [] with rfl | named
      · exact ⟨before, _, rfl, Or.inr ⟨_, .emptyName⟩⟩
      · rcases set : lookup (String.ofList name) with _ | value
        · exact ⟨before, _, rfl, Or.inr ⟨_, .unset named closed set⟩⟩
        · obtain ⟨later, stop, rfl, stops⟩ := exists_passed lookup rest
          refine ⟨later.cons ⟨literal, name, value⟩ ⟨plain, named, closed, set⟩, stop, ?_, stops⟩
          rw [Passed.source_cons, Stretch.source, List.append_assoc, List.append_assoc]
    · exact ⟨before, _, rfl, Or.inr ⟨_, .unterminated closes⟩⟩
termination_by text.length
decreasing_by
  subst_vars
  simp only [List.length_append, List.length_cons]
  omega

/-- Every text has an ending. -/
theorem exists_ending (lookup : String → Option String) (text : String) :
    ∃ result, Ending lookup text result := by
  obtain ⟨passed, rest, split, rfl | ⟨fault, defect⟩⟩ := exists_passed lookup text.toList
  · exact ⟨_, .expanded passed (by rw [split, List.append_nil])⟩
  · exact ⟨_, .defective passed split defect⟩

end Reading

/-- Every text has exactly one ending, and that is what it is expanded to: the values of its
references in their places, none of them read again, or the fault of the first reference that has
no end, no name or no value. -/
theorem expansion_follows_grammar (lookup : String → Option String) (text : String) :
    (∃! result, Ending lookup text result) ∧
      ∀ result, expand lookup text = result ↔ Ending lookup text result := by
  obtain ⟨result, ending⟩ := exists_ending lookup text
  refine ⟨⟨result, ending, fun other another => ?_⟩, fun other => ⟨?_, expand_of_ending⟩⟩
  · exact (expand_of_ending another).symm.trans (expand_of_ending ending)
  · rintro rfl
    rwa [expand_of_ending ending]

/-- A dollar sign before a reference is a literal, and a value that looks like a reference is
none. -/
example : expand (fun _ => some "$\x7bb\x7d") "$$\x7ba$\x7bb\x7d\x7d" =
    .ok "$$\x7bb\x7d\x7d" := by decide +kernel

end SqlBind.Cli.EnvReference

import SqlBind.Proofs.Binding.Layout
import SqlBind.Table

/-!
Owns: the statements that are generated for a table. Names that were read hold neither a quote nor a
colon, so the only placeholders of a generated text are the numbered ones, which all differ.

Main statements: for every convention the generated texts compile (`compile_insertText`,
`compile_updateText`, `compile_deleteText`), and their keys are these placeholders
(`keys_insertTokens`, `keys_updateTokens`, `keys_deleteTokens`).
-/

set_option autoImplicit false

namespace SqlBind

/-! ### Checks -/

section Checks

variable {ε α β : Type}

/-- If two computations in a row succeed, both do. -/
theorem of_bind_ok {x : Except ε α} {next : α → Except ε β} {result : β}
    (succeeds : x >>= next = .ok result) : ∃ a, x = .ok a ∧ next a = .ok result := by
  cases x with
  | error e => cases succeeds
  | ok a => exact ⟨a, rfl, succeeds⟩

/-- If two computations in a row fail, one of them does. -/
theorem of_bind_error {x : Except ε α} {next : α → Except ε β} {e : ε}
    (fails : x >>= next = .error e) : x = .error e ∨ ∃ a, x = .ok a ∧ next a = .error e := by
  cases x with
  | error other =>
      cases fails
      exact Or.inl rfl
  | ok a => exact Or.inr ⟨a, rfl, fails⟩

variable {f : α → Except ε β}

/-- A list of checks that succeeds gives the result of each. -/
theorem forall₂_of_mapM {xs : List α} {results : List β} (succeeds : xs.mapM f = .ok results) :
    List.Forall₂ (fun x y => f x = .ok y) xs results := by
  induction xs generalizing results with
  | nil =>
      cases succeeds
      exact .nil
  | cons x xs inductionHypothesis =>
      rw [List.mapM_cons] at succeeds
      obtain ⟨y, first, succeeds⟩ := of_bind_ok succeeds
      obtain ⟨ys, rest, succeeds⟩ := of_bind_ok succeeds
      cases succeeds
      exact .cons first (inductionHypothesis rest)

private theorem forall_mem_of_mapM {p : β → Prop} (sound : ∀ {x y}, f x = .ok y → p y) {xs : List α}
    {results : List β} (succeeds : xs.mapM f = .ok results) : ∀ y ∈ results, p y := by
  have each := forall₂_of_mapM succeeds
  clear succeeds
  induction each with
  | nil => nofun
  | cons first rest inductionHypothesis =>
      exact List.forall_mem_cons.mpr ⟨sound first, inductionHypothesis⟩

/-- A list of checks that succeeds has none that fails. -/
theorem exists_ok_of_mapM {xs : List α} {results : List β} (succeeds : xs.mapM f = .ok results) :
    ∀ x ∈ xs, ∃ y, f x = .ok y := by
  have each := forall₂_of_mapM succeeds
  clear succeeds
  induction each with
  | nil => nofun
  | cons first rest inductionHypothesis =>
      exact List.forall_mem_cons.mpr ⟨⟨_, first⟩, inductionHypothesis⟩

/-- A list of checks fails with the error of one of them. -/
theorem exists_of_mapM_error {xs : List α} {e : ε} (fails : xs.mapM f = .error e) :
    ∃ x ∈ xs, f x = .error e := by
  induction xs with
  | nil => cases fails
  | cons x xs inductionHypothesis =>
      rw [List.mapM_cons] at fails
      rcases of_bind_error fails with first | ⟨y, _, fails⟩
      · exact ⟨x, List.mem_cons_self, first⟩
      · rcases of_bind_error fails with rest | ⟨ys, _, fails⟩
        · obtain ⟨z, member, failed⟩ := inductionHypothesis rest
          exact ⟨z, List.mem_cons_of_mem x member, failed⟩
        · cases fails

end Checks

/-! ### Names -/

/-- A text that begins and ends nothing: without quotes and without colons. -/
structure Unmarked (text : List Char) : Prop where
  unquoted : '\'' ∉ text
  single : ':' ∉ text

theorem unmarked_nil : Unmarked [] := ⟨List.not_mem_nil, List.not_mem_nil⟩

theorem Unmarked.append {left right : List Char} (first : Unmarked left)
    (second : Unmarked right) : Unmarked (left ++ right) where
  unquoted member := (List.mem_append.mp member).elim first.unquoted second.unquoted
  single member := (List.mem_append.mp member).elim first.single second.single

/-- All characters of a text are of a kind that quotes and colons are not. -/
theorem unmarked_of_forall (kind : Char → Prop) {text : List Char} (quote : ¬ kind '\'')
    (colon : ¬ kind ':') (all : ∀ c ∈ text, kind c) : Unmarked text where
  unquoted member := quote (all _ member)
  single member := colon (all _ member)

namespace IdentPart

private theorem unmarked_parseQuoted {inner : List Char} {part : IdentPart}
    (parses : parseQuoted inner = .ok part) : Unmarked part.chars := by
  unfold parseQuoted at parses
  split at parses
  · rename_i reversed _
    dsimp only at parses
    split at parses
    · cases parses
    · split at parses
      · cases parses
      · rename_i allowed
        cases parses
        have free : Unmarked reversed.reverse := by
          apply unmarked_of_forall (isForbidden · = false) (by decide) (by decide)
          intro c member
          simpa using List.find?_eq_none.mp allowed c member
        have quote : Unmarked ['"'] := ⟨by decide, by decide⟩
        exact (quote.append free).append quote
  · cases parses

private theorem unmarked_plain {first : Char} {later : List Char} (begins : isFirst first = true)
    (goesOn : ∀ c ∈ later, isLater c = true) : Unmarked (first :: later) := by
  apply unmarked_of_forall (fun c => isFirst c = true ∨ isLater c = true) (by decide) (by decide)
  intro c member
  rcases List.mem_cons.mp member with rfl | inLater
  · exact Or.inl begins
  · exact Or.inr (goesOn c inLater)

/-- A part that can be read begins neither a literal nor a placeholder. -/
theorem unmarked_parse {text : List Char} {part : IdentPart} (parses : parse text = .ok part) :
    Unmarked part.chars := by
  unfold parse at parses
  split at parses
  · cases parses
  · exact unmarked_parseQuoted parses
  · split at parses
    · rename_i begins
      split at parses
      · cases parses
      · rename_i allowed
        cases parses
        apply unmarked_plain begins
        intro c member
        simpa using List.find?_eq_none.mp allowed c member
    · cases parses

end IdentPart

namespace Ident

private theorem unmarked_joinPoints {parts : List IdentPart}
    (all : ∀ part ∈ parts, Unmarked part.chars) : Unmarked (joinPoints parts) := by
  fun_induction joinPoints parts with
  | case1 => exact unmarked_nil
  | case2 part => exact all part List.mem_cons_self
  | case3 part rest _ inductionHypothesis =>
      have point : Unmarked ['.'] := ⟨by decide, by decide⟩
      have later := inductionHypothesis fun other member =>
        all other (List.mem_cons_of_mem _ member)
      exact (all part List.mem_cons_self).append (point.append later)

/-- A name that can be read begins neither a literal nor a placeholder. -/
theorem unmarked_parse {text : String} {name : Ident} (parses : parse text = .ok name) :
    Unmarked name.chars := by
  unfold parse at parses
  split at parses
  · cases parses
  · cases read : (splitPoints text.toList).mapM IdentPart.parse with
    | error fault =>
        rw [read] at parses
        cases parses
    | ok parts =>
        rw [read] at parses
        cases parses
        exact unmarked_joinPoints (forall_mem_of_mapM IdentPart.unmarked_parse read)

end Ident

namespace Table

private theorem unmarked_parseName {text : String} {name : Ident}
    (parses : parseName text = .ok name) : Unmarked name.chars := by
  unfold parseName at parses
  split at parses
  · rename_i name read
    cases parses
    exact Ident.unmarked_parse read
  · cases parses

theorem unmarked_named {text : String} {t : Table} (named : Table.named text = .ok t) :
    Unmarked t.name.chars := by
  unfold Table.named at named
  cases read : parseName text with
  | error e =>
      rw [read] at named
      cases named
  | ok name =>
      rw [read] at named
      cases named
      exact unmarked_parseName read

theorem unmarked_columns {names : List String} {idents : List Ident}
    (read : columns names = .ok idents) : ∀ ident ∈ idents, Unmarked ident.chars :=
  forall_mem_of_mapM unmarked_parseName read

end Table

/-! ### Generated texts -/

namespace Sql

private theorem unmarked_joined {separator : List Char} (between : Unmarked separator)
    {texts : List (List Char)} (all : ∀ text ∈ texts, Unmarked text) :
    Unmarked (joined separator texts) := by
  fun_induction joined separator texts with
  | case1 => exact unmarked_nil
  | case2 text => exact all text List.mem_cons_self
  | case3 text rest _ inductionHypothesis =>
      have later := inductionHypothesis fun other member =>
        all other (List.mem_cons_of_mem _ member)
      exact ((all text List.mem_cons_self).append between).append later

/-- Placeholders that are numbered from `index` on, each behind a text of its own. -/
def placed (letter : Char) (index : Nat) : List (List Char) → List (List Char)
  | [] => []
  | lead :: rest => (lead ++ numbered letter index) :: placed letter (index + 1) rest

private theorem numberedFor_eq_placed (letter : Char) (index : Nat) (columns : List Ident) :
    numberedFor letter index columns = placed letter index (columns.map fun _ => []) := by
  induction columns generalizing index with
  | nil => rfl
  | cons column rest inductionHypothesis =>
      exact congrArg (numbered letter index :: ·) (inductionHypothesis (index + 1))

theorem equations_eq_placed (letter : Char) (index : Nat) (columns : List Ident) :
    equations letter index columns =
      placed letter index (columns.map fun column => column.chars ++ " = ".toList) := by
  induction columns generalizing index with
  | nil => rfl
  | cons column rest inductionHypothesis =>
      exact congrArg (_ :: ·) (inductionHypothesis (index + 1))

/-- The tokens of such placeholders with a separator between them. -/
def slots (separator : List Char) (letter : Char) (index : Nat) : List (List Char) → List Token
  | [] => []
  | [lead] => lead.map .other ++ [.placeholder (letter :: Nat.toDigits 10 index)]
  | lead :: rest =>
      lead.map .other ++ .placeholder (letter :: Nat.toDigits 10 index) ::
        (separator.map .other ++ slots separator letter (index + 1) rest)

/-- The tokens of slots spell the text that is generated for them. -/
theorem flatMap_text_slots (separator : List Char) (letter : Char) (index : Nat)
    (leads : List (List Char)) :
    (slots separator letter index leads).flatMap Token.text =
      joined separator (placed letter index leads) := by
  fun_induction slots separator letter index leads with
  | case1 index => rfl
  | case2 index lead =>
      rw [List.flatMap_append, flatMap_text_other]
      exact congrArg (lead ++ ·) (List.append_nil _)
  | case3 index lead rest nonempty inductionHypothesis =>
      cases rest with
      | nil => exact absurd rfl nonempty
      | cons next later =>
          rw [List.flatMap_append, List.flatMap_cons, List.flatMap_append, inductionHypothesis]
          simp only [flatMap_text_other, placed, joined, List.append_assoc]
          rfl

theorem names_slots (separator : List Char) (letter : Char) (index : Nat)
    (leads : List (List Char)) :
    ((slots separator letter index leads).filterMap Token.name?).map String.ofList =
      (List.range' index leads.length).map (numberedName letter) := by
  fun_induction slots separator letter index leads with
  | case1 index => rfl
  | case2 index lead =>
      rw [List.filterMap_append, names_other]
      rfl
  | case3 index lead rest nonempty inductionHypothesis =>
      rw [List.filterMap_append, names_other, List.nil_append, List.filterMap_cons]
      simp only [Token.name?, List.filterMap_append, names_other, List.nil_append, List.map_cons,
        inductionHypothesis]
      rfl

/-- Slots are read back as the tokens that they were written for. -/
theorem separated_slots {separator : List Char} (between : Unmarked separator)
    (begins : ∃ c tail, separator = c :: tail ∧ isWordChar c = false) {letter : Char}
    (word : isWordChar letter = true) (index : Nat) {leads : List (List Char)}
    (all : ∀ lead ∈ leads, Unmarked lead) {rest : List Token} (later : Separated rest)
    (stops : ∀ c ∈ (rest.flatMap Token.text).head?, isWordChar c = false) :
    Separated (slots separator letter index leads ++ rest) := by
  have inside : ∀ number, ∀ c ∈ letter :: Nat.toDigits 10 number, isWordChar c = true := by
    intro number c member
    rcases List.mem_cons.mp member with rfl | digit
    · exact word
    · exact isWordChar_of_mem_ordinal digit
  fun_induction slots separator letter index leads with
  | case1 index => exact later
  | case2 index lead =>
      have plain := all lead List.mem_cons_self
      rw [List.append_assoc]
      exact separated_other plain.unquoted plain.single
        ⟨⟨List.cons_ne_nil _ _, inside index, stops⟩, later⟩
  | case3 index lead rest _ inductionHypothesis =>
      have plain := all lead List.mem_cons_self
      have behind := inductionHypothesis fun other member =>
        all other (List.mem_cons_of_mem _ member)
      rw [List.append_assoc, List.cons_append, List.append_assoc]
      apply separated_other plain.unquoted plain.single
      refine ⟨⟨List.cons_ne_nil _ _, inside index, ?_⟩,
        separated_other between.unquoted between.single behind⟩
      obtain ⟨first, tail, split, apart⟩ := begins
      rw [List.flatMap_append, flatMap_text_other, split]
      intro c member
      cases member
      exact apart

/-! ### The statements of a table -/

def numberedKeys (letter : Char) (count : Nat) : List String :=
  (List.range' 0 count).map (numberedName letter)

theorem nodup_numberedKeys (letter : Char) (count : Nat) : (numberedKeys letter count).Nodup :=
  nodup_numberedNames letter 0 count

/-- The names of changes and those of conditions begin with different letters. -/
theorem nodup_updateKeys (changed conditioned : Nat) :
    (numberedKeys 'u' changed ++ numberedKeys 'w' conditioned).Nodup := by
  apply List.nodup_append.mpr
  refine ⟨nodup_numberedKeys 'u' changed, nodup_numberedKeys 'w' conditioned, ?_⟩
  intro change changes condition conditions same
  obtain ⟨number, -, rfl⟩ := List.mem_map.mp changes
  obtain ⟨other, -, rfl⟩ := List.mem_map.mp conditions
  have letters := String.ofList_injective same
  injection letters with letter digits
  exact absurd letter (by decide)

/-- The statement for a convention whose template reads as these tokens. -/
def statementOf (style : ParamStyle) (scanned : List Token) : Statement where
  sql := String.ofList (rewritten style 1 scanned)
  keys := (scanned.filterMap Token.name?).map String.ofList
  style := style

def insertTokens (table : Ident) (columns : List Ident) : List Token :=
  ("INSERT INTO ".toList ++ table.chars ++ " (".toList
    ++ joined ", ".toList (columns.map Ident.chars) ++ ") VALUES (".toList).map .other
    ++ (slots ", ".toList 'c' 0 (columns.map fun _ => []) ++ [.other ')'])

def conditionTokens (conditioned : List Ident) : List Token :=
  if conditioned.isEmpty then []
  else " WHERE ".toList.map .other
    ++ slots " AND ".toList 'w' 0 (conditioned.map fun column => column.chars ++ " = ".toList)

def updateTokens (table : Ident) (changed conditioned : List Ident) : List Token :=
  ("UPDATE ".toList ++ table.chars ++ " SET ".toList).map .other
    ++ (slots ", ".toList 'u' 0 (changed.map fun column => column.chars ++ " = ".toList)
      ++ conditionTokens conditioned)

def deleteTokens (table : Ident) (conditioned : List Ident) : List Token :=
  ("DELETE FROM ".toList ++ table.chars ++ " WHERE ".toList).map .other
    ++ slots " AND ".toList 'w' 0 (conditioned.map fun column => column.chars ++ " = ".toList)

theorem keys_insertTokens (style : ParamStyle) (table : Ident) (columns : List Ident) :
    (statementOf style (insertTokens table columns)).keys = numberedKeys 'c' columns.length := by
  have names := names_slots ", ".toList 'c' 0 (columns.map fun _ => [])
  rw [List.length_map] at names
  unfold statementOf insertTokens
  dsimp only
  rw [List.filterMap_append, names_other, List.nil_append, List.filterMap_append, List.map_append,
    names]
  exact List.append_nil _

theorem keys_deleteTokens (style : ParamStyle) (table : Ident) (conditioned : List Ident) :
    (statementOf style (deleteTokens table conditioned)).keys =
      numberedKeys 'w' conditioned.length := by
  have names := names_slots " AND ".toList 'w' 0
    (conditioned.map fun column => column.chars ++ " = ".toList)
  rw [List.length_map] at names
  unfold statementOf deleteTokens
  dsimp only
  rw [List.filterMap_append, names_other, List.nil_append, names]
  rfl

/-- Changes are bound before conditions, each numbered from zero. -/
theorem keys_updateTokens (style : ParamStyle) (table : Ident) (changed conditioned : List Ident) :
    (statementOf style (updateTokens table changed conditioned)).keys =
      numberedKeys 'u' changed.length ++ numberedKeys 'w' conditioned.length := by
  have changes := names_slots ", ".toList 'u' 0
    (changed.map fun column => column.chars ++ " = ".toList)
  have conditions := names_slots " AND ".toList 'w' 0
    (conditioned.map fun column => column.chars ++ " = ".toList)
  rw [List.length_map] at changes conditions
  have rest : ((conditionTokens conditioned).filterMap Token.name?).map String.ofList =
      numberedKeys 'w' conditioned.length := by
    cases conditioned with
    | nil => rfl
    | cons column later =>
        unfold conditionTokens
        rw [if_neg (by simp), List.filterMap_append, names_other, List.nil_append, conditions]
        rfl
  unfold statementOf updateTokens
  dsimp only
  rw [List.filterMap_append, names_other, List.nil_append, List.filterMap_append, List.map_append,
    changes, rest]
  rfl

theorem distinct_insertTokens (style : ParamStyle) (table : Ident) (columns : List Ident) :
    (statementOf style (insertTokens table columns)).keys.Nodup := by
  rw [keys_insertTokens]
  exact nodup_numberedKeys 'c' columns.length

theorem distinct_deleteTokens (style : ParamStyle) (table : Ident) (conditioned : List Ident) :
    (statementOf style (deleteTokens table conditioned)).keys.Nodup := by
  rw [keys_deleteTokens]
  exact nodup_numberedKeys 'w' conditioned.length

/-- Columns with what is written between them and their placeholders. -/
theorem unmarked_equated {columns : List Ident} (all : ∀ column ∈ columns, Unmarked column.chars) :
    ∀ lead ∈ columns.map fun column => column.chars ++ " = ".toList, Unmarked lead := by
  intro lead member
  obtain ⟨column, held, rfl⟩ := List.mem_map.mp member
  have equals : Unmarked " = ".toList := ⟨by decide, by decide⟩
  exact (all column held).append equals

private theorem separated_condition {conditioned : List Ident}
    (all : ∀ column ∈ conditioned, Unmarked column.chars) :
    Separated (slots " AND ".toList 'w' 0
      (conditioned.map fun column => column.chars ++ " = ".toList)) := by
  have conjunction : Unmarked " AND ".toList := ⟨by decide, by decide⟩
  -- Nothing follows the condition, so that its last placeholder ends with the text.
  rw [← List.append_nil (slots _ _ _ _)]
  apply separated_slots conjunction ⟨' ', "AND ".toList, rfl, by decide⟩ (by decide)
  · exact unmarked_equated all
  · trivial
  · nofun

private theorem separated_conditionTokens {conditioned : List Ident}
    (all : ∀ column ∈ conditioned, Unmarked column.chars) :
    Separated (conditionTokens conditioned) := by
  unfold conditionTokens
  split
  · trivial
  · have keyword : Unmarked " WHERE ".toList := ⟨by decide, by decide⟩
    exact separated_other keyword.unquoted keyword.single (separated_condition all)

/-- The text of an update is read as the tokens that it was written for. -/
theorem compile_updateText {table : Ident} {changed conditioned : List Ident}
    (named : Unmarked table.chars) (changes : ∀ column ∈ changed, Unmarked column.chars)
    (conditions : ∀ column ∈ conditioned, Unmarked column.chars) (style : ParamStyle) :
    compile (updateText table changed conditioned) style =
      .ok (statementOf style (updateTokens table changed conditioned)) := by
  have ends : (conditionTokens conditioned).flatMap Token.text =
      if conditioned.isEmpty then [] else " WHERE ".toList ++ condition conditioned := by
    unfold conditionTokens condition
    split
    · rfl
    · rw [List.flatMap_append, flatMap_text_other, flatMap_text_slots, equations_eq_placed]
  have written : updateText table changed conditioned =
      String.ofList ((updateTokens table changed conditioned).flatMap Token.text) := by
    unfold updateText updateTokens
    rw [List.flatMap_append, flatMap_text_other, List.flatMap_append, flatMap_text_slots, ends,
      equations_eq_placed]
    exact congrArg String.ofList (List.append_assoc _ _ _)
  rw [written]
  apply compile_of_separated
  have header : Unmarked ("UPDATE ".toList ++ table.chars ++ " SET ".toList) := by
    have update : Unmarked "UPDATE ".toList := ⟨by decide, by decide⟩
    have keyword : Unmarked " SET ".toList := ⟨by decide, by decide⟩
    exact (update.append named).append keyword
  have comma : Unmarked ", ".toList := ⟨by decide, by decide⟩
  apply separated_other header.unquoted header.single
  apply separated_slots comma ⟨',', [' '], rfl, by decide⟩ (by decide)
  · exact unmarked_equated changes
  · exact separated_conditionTokens conditions
  · -- The last change ends before the blank of the keyword, or with the text.
    rw [ends]
    intro c member
    split at member
    · cases member
    · cases member
      decide

section Texts

variable {table : Ident} {columns : List Ident} (named : Unmarked table.chars)
  (all : ∀ column ∈ columns, Unmarked column.chars)

include named all

/-- The text of an insertion is read as the tokens that it was written for. -/
theorem compile_insertText (style : ParamStyle) :
    compile (insertText table columns) style =
      .ok (statementOf style (insertTokens table columns)) := by
  have written : insertText table columns =
      String.ofList ((insertTokens table columns).flatMap Token.text) := by
    unfold insertText insertTokens
    rw [List.flatMap_append, flatMap_text_other, List.flatMap_append, flatMap_text_slots,
      numberedFor_eq_placed]
    exact congrArg String.ofList (List.append_assoc _ _ _)
  rw [written]
  apply compile_of_separated
  have comma : Unmarked ", ".toList := ⟨by decide, by decide⟩
  have listed : Unmarked (joined ", ".toList (columns.map Ident.chars)) :=
    unmarked_joined comma (List.forall_mem_map.mpr all)
  have header : Unmarked ("INSERT INTO ".toList ++ table.chars ++ " (".toList
      ++ joined ", ".toList (columns.map Ident.chars) ++ ") VALUES (".toList) := by
    have insert : Unmarked "INSERT INTO ".toList := ⟨by decide, by decide⟩
    have opening : Unmarked " (".toList := ⟨by decide, by decide⟩
    have values : Unmarked ") VALUES (".toList := ⟨by decide, by decide⟩
    exact (((insert.append named).append opening).append listed).append values
  apply separated_other header.unquoted header.single
  apply separated_slots comma ⟨',', [' '], rfl, by decide⟩ (by decide)
  · intro lead member
    obtain ⟨column, -, rfl⟩ := List.mem_map.mp member
    exact unmarked_nil
  · exact ⟨⟨by decide, by decide⟩, trivial⟩
  · intro c member
    cases member
    decide

/-- The text of a deletion is read as the tokens that it was written for. -/
theorem compile_deleteText (style : ParamStyle) :
    compile (deleteText table columns) style =
      .ok (statementOf style (deleteTokens table columns)) := by
  have written : deleteText table columns =
      String.ofList ((deleteTokens table columns).flatMap Token.text) := by
    unfold deleteText deleteTokens condition
    rw [List.flatMap_append, flatMap_text_other, flatMap_text_slots, equations_eq_placed]
  rw [written]
  apply compile_of_separated
  have header : Unmarked ("DELETE FROM ".toList ++ table.chars ++ " WHERE ".toList) := by
    have delete : Unmarked "DELETE FROM ".toList := ⟨by decide, by decide⟩
    have keyword : Unmarked " WHERE ".toList := ⟨by decide, by decide⟩
    exact (delete.append named).append keyword
  exact separated_other header.unquoted header.single (separated_condition all)

end Texts

end Sql

end SqlBind

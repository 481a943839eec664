import SqlBind.Proofs.Binding.Keyed
import SqlBind.Proofs.Ident.Reading

/-!
Owns: generated statements in the names that the caller wrote. The text that reaches a driver is
written out, with the names as they are and the driver's own placeholders; it is made of the table
and the columns alone.

Main statement: a generated text compiles to this text in every convention, and its keys, which all
differ, are numbered in the order of the columns (`Template.compiles`).
-/

set_option autoImplicit false

namespace SqlBind

/-! ### Names -/

namespace Table

/-- Names that can be read. -/
def Readable (names : List String) : Prop :=
  ∀ name ∈ names, ∃ ident, Ident.parse name = .ok ident

theorem parseName_of_parse {text : String} {name : Ident} (parses : Ident.parse text = .ok name) :
    parseName text = .ok name := by
  rw [parseName, parses]

private theorem chars_of_parseName {text : String} {name : Ident}
    (parses : parseName text = .ok name) : name.chars = text.toList := by
  unfold parseName at parses
  split at parses
  · rename_i name read
    cases parses
    exact Ident.chars_of_parse read
  · cases parses

theorem chars_of_named {text : String} {t : Table} (named : Table.named text = .ok t) :
    t.name.chars = text.toList := by
  unfold Table.named at named
  cases read : parseName text with
  | error e =>
      rw [read] at named
      cases named
  | ok name =>
      rw [read] at named
      cases named
      exact chars_of_parseName read

/-- Columns keep the names that the caller wrote. -/
theorem map_chars_of_columns {names : List String} {idents : List Ident}
    (read : columns names = .ok idents) : idents.map Ident.chars = names.map String.toList := by
  have each := forall₂_of_mapM read
  clear read
  induction each with
  | nil => rfl
  | cons first rest inductionHypothesis =>
      rw [List.map_cons, List.map_cons, chars_of_parseName first, inductionHypothesis]

/-- Columns that can be read one by one can be read together. -/
theorem columns_of_readable {names : List String} (readable : Readable names) :
    ∃ idents, columns names = .ok idents := by
  induction names with
  | nil => exact ⟨[], rfl⟩
  | cons name rest inductionHypothesis =>
      obtain ⟨⟨ident, first⟩, later⟩ := List.forall_mem_cons.mp readable
      obtain ⟨idents, read⟩ := inductionHypothesis later
      refine ⟨ident :: idents, ?_⟩
      unfold columns at read ⊢
      rw [List.mapM_cons, parseName_of_parse first, read]
      rfl

end Table

/-! ### Texts for drivers -/

namespace Sql

/-- The native placeholders that are named by a letter and the numbers from `index` on, the first of
them the `ordinal`-th of its statement, each behind a text of its own. -/
def natively (style : ParamStyle) (letter : Char) (index ordinal : Nat) :
    List (List Char) → List (List Char)
  | [] => []
  | lead :: rest =>
      (lead ++ placeholderText style ordinal (letter :: Nat.toDigits 10 index)) ::
        natively style letter (index + 1) (ordinal + 1) rest

theorem rewritten_other (style : ParamStyle) (ordinal : Nat) (text : List Char)
    (rest : List Token) :
    rewritten style ordinal (text.map .other ++ rest) = text ++ rewritten style ordinal rest := by
  induction text with
  | nil => rfl
  | cons c later inductionHypothesis =>
      rw [List.map_cons, List.cons_append, rewritten, inductionHypothesis]
      · rfl
      · simp

/-- Slots are rewritten to native placeholders with the same texts before and between them. -/
theorem rewritten_slots (style : ParamStyle) (separator : List Char) (letter : Char)
    (index ordinal : Nat) (leads : List (List Char)) (rest : List Token) :
    rewritten style ordinal (slots separator letter index leads ++ rest) =
      joined separator (natively style letter index ordinal leads) ++
        rewritten style (ordinal + leads.length) rest := by
  -- Every slot holds one placeholder, so the ordinal grows with the index.
  fun_induction slots separator letter index leads generalizing ordinal with
  | case1 index => rfl
  | case2 index lead =>
      rw [List.append_assoc, rewritten_other]
      simp [rewritten, natively, joined]
  | case3 index lead later nonempty inductionHypothesis =>
      cases later with
      | nil => exact absurd rfl nonempty
      | cons next others =>
          rw [List.append_assoc, rewritten_other, List.cons_append, rewritten, List.append_assoc,
            rewritten_other, inductionHypothesis]
          have places : ordinal + 1 + (next :: others).length =
              ordinal + (lead :: next :: others).length := by
            simp only [List.length_cons]
            omega
          simp only [natively, joined, List.append_assoc, places]

/-- Such tokens at the end of a text. -/
theorem rewritten_slots_last (style : ParamStyle) (separator : List Char) (letter : Char)
    (index ordinal : Nat) (leads : List (List Char)) :
    rewritten style ordinal (slots separator letter index leads) =
      joined separator (natively style letter index ordinal leads) := by
  have whole := rewritten_slots style separator letter index ordinal leads []
  rw [List.append_nil, rewritten, List.append_nil] at whole
  exact whole

/-- A driver that takes names gets the text as it was generated. -/
theorem sql_of_compile_named {sql : String} {statement : Statement}
    (compiled : compile sql .named = .ok statement) : statement.sql = sql := by
  have sound := compile_of_sound (sound_of_compile compiled) .named
  obtain rfl := Except.ok.inj (compiled.symm.trans sound)
  show String.ofList (rewritten .named 1 (tokens sql.toList)) = sql
  rw [rewritten_named, flatMap_text_tokens, String.ofList_toList]

end Sql

/-! ### Generated statements -/

namespace Table

/-- A statement that is generated for a table, by the columns that it names. -/
inductive Template where
  | insert (names : List String)
  | update (changed conditioned : List String)
  | delete (conditioned : List String)
deriving DecidableEq, Repr, Inhabited

/-- `a = `, `b = `, and so on. -/
def equated (names : List String) : List (List Char) :=
  names.map fun name => name.toList ++ " = ".toList

namespace Template

/-- The columns that the placeholders are written for, in the order of the text. -/
def columns : Template → List String
  | insert names => names
  | update changed conditioned => changed ++ conditioned
  | delete conditioned => conditioned

/-- The names of these placeholders. -/
def keys : Template → List String
  | insert names => Sql.numberedKeys 'c' names.length
  | update changed conditioned =>
      Sql.numberedKeys 'u' changed.length ++ Sql.numberedKeys 'w' conditioned.length
  | delete conditioned => Sql.numberedKeys 'w' conditioned.length

/-- The text that is generated, if the columns can be read. -/
def text (table : Ident) : Template → Except DbError String
  | insert names => do return Sql.insertText table (← Table.columns names)
  | update changed conditioned => do
    return Sql.updateText table (← Table.columns changed) (← Table.columns conditioned)
  | delete conditioned => do return Sql.deleteText table (← Table.columns conditioned)

/-- The text that reaches a driver. -/
def native (style : ParamStyle) (table : String) : Template → String
  | insert names =>
      String.ofList ("INSERT INTO ".toList ++ table.toList ++ " (".toList
        ++ Sql.joined ", ".toList (names.map String.toList) ++ ") VALUES (".toList
        ++ Sql.joined ", ".toList (Sql.natively style 'c' 0 1 (names.map fun _ => [])) ++ [')'])
  | update changed conditioned =>
      String.ofList ("UPDATE ".toList ++ table.toList ++ " SET ".toList
        ++ Sql.joined ", ".toList (Sql.natively style 'u' 0 1 (equated changed))
        ++ if conditioned.isEmpty then [] else " WHERE ".toList ++ Sql.joined " AND ".toList
            (Sql.natively style 'w' 0 (changed.length + 1) (equated conditioned)))
  | delete conditioned =>
      String.ofList ("DELETE FROM ".toList ++ table.toList ++ " WHERE ".toList
        ++ Sql.joined " AND ".toList (Sql.natively style 'w' 0 1 (equated conditioned)))

/-- The compiled statement. -/
def statement (style : ParamStyle) (table : String) (template : Template) : Statement :=
  ⟨template.native style table, template.keys, style⟩

end Template

section Reading

variable {names changed conditioned : List String} {idents : List Ident}

theorem length_columns (read : columns names = .ok idents) : idents.length = names.length := by
  simpa using congrArg List.length (map_chars_of_columns read)

theorem map_equated (read : columns names = .ok idents) :
    idents.map (fun column => column.chars ++ " = ".toList) = equated names := by
  have written := congrArg (List.map (· ++ " = ".toList)) (map_chars_of_columns read)
  rw [List.map_map, List.map_map] at written
  exact written

private theorem map_unnamed (read : columns names = .ok idents) :
    idents.map (fun _ => ([] : List Char)) = names.map fun _ => [] := by
  rw [List.map_const', List.map_const', length_columns read]

variable {table : String} {t : Table} (named : Table.named table = .ok t)

include named

private theorem statement_insert (read : columns names = .ok idents) (style : ParamStyle) :
    Sql.statementOf style (Sql.insertTokens t.name idents) =
      (Template.insert names).statement style table := by
  have keys := Sql.keys_insertTokens style t.name idents
  rw [length_columns read] at keys
  have sql : (Template.insert names).native style table =
      String.ofList (Sql.rewritten style 1 (Sql.insertTokens t.name idents)) := by
    unfold Template.native Sql.insertTokens
    rw [Sql.rewritten_other, Sql.rewritten_slots, map_unnamed read, chars_of_named named,
      map_chars_of_columns read]
    exact congrArg String.ofList (List.append_assoc _ _ _)
  rw [Template.statement, sql, Template.keys, ← keys]
  rfl

private theorem statement_delete (read : columns conditioned = .ok idents) (style : ParamStyle) :
    Sql.statementOf style (Sql.deleteTokens t.name idents) =
      (Template.delete conditioned).statement style table := by
  have keys := Sql.keys_deleteTokens style t.name idents
  rw [length_columns read] at keys
  have sql : (Template.delete conditioned).native style table =
      String.ofList (Sql.rewritten style 1 (Sql.deleteTokens t.name idents)) := by
    unfold Template.native Sql.deleteTokens
    rw [Sql.rewritten_other, map_equated read, chars_of_named named, Sql.rewritten_slots_last]
  rw [Template.statement, sql, Template.keys, ← keys]
  rfl

omit named in
private theorem rewritten_conditionTokens (read : columns conditioned = .ok idents)
    (style : ParamStyle) (ordinal : Nat) :
    Sql.rewritten style ordinal (Sql.conditionTokens idents) =
      if conditioned.isEmpty then [] else " WHERE ".toList ++ Sql.joined " AND ".toList
        (Sql.natively style 'w' 0 ordinal (equated conditioned)) := by
  have lengths := length_columns read
  have same : idents.isEmpty = conditioned.isEmpty := by
    cases idents <;> cases conditioned <;> simp_all
  unfold Sql.conditionTokens
  rw [same]
  split
  · rfl
  · rw [Sql.rewritten_other, map_equated read, Sql.rewritten_slots_last]

private theorem statement_update {others : List Ident} (changes : columns changed = .ok idents)
    (conditions : columns conditioned = .ok others) (style : ParamStyle) :
    Sql.statementOf style (Sql.updateTokens t.name idents others) =
      (Template.update changed conditioned).statement style table := by
  have keys := Sql.keys_updateTokens style t.name idents others
  rw [length_columns changes, length_columns conditions] at keys
  have ordinal : 1 + (equated changed).length = changed.length + 1 := by
    rw [equated, List.length_map, Nat.add_comm]
  have sql : (Template.update changed conditioned).native style table =
      String.ofList (Sql.rewritten style 1 (Sql.updateTokens t.name idents others)) := by
    unfold Template.native Sql.updateTokens
    rw [Sql.rewritten_other, map_equated changes, chars_of_named named, Sql.rewritten_slots,
      ordinal, rewritten_conditionTokens conditions]
    exact congrArg String.ofList (List.append_assoc _ _ _)
  rw [Template.statement, sql, Template.keys, ← keys]
  rfl

end Reading

namespace Template

theorem length_keys (template : Template) : template.keys.length = template.columns.length := by
  cases template <;> simp [keys, columns, Sql.numberedKeys]

/-- No name is bound twice in a generated statement. -/
theorem nodup_keys (template : Template) : template.keys.Nodup := by
  cases template with
  | insert names => exact Sql.nodup_numberedKeys 'c' names.length
  | update changed conditioned => exact Sql.nodup_updateKeys changed.length conditioned.length
  | delete conditioned => exact Sql.nodup_numberedKeys 'w' conditioned.length

/-- What holds of a generated statement before a record is bound to it. -/
structure Prepared (template : Template) (t : Table) (table : String) : Prop where
  text : template.text t.name = .ok (template.native .named table)
  compiles : ∀ style,
    compile (template.native .named table) style = .ok (template.statement style table)
  single : ∀ style, (template.statement style table).layout.hasDuplicates = false
  bindKeys : ∀ style, (template.statement style table).bindKeys = template.keys
  /-- Each placeholder gets the value at its own place. -/
  slots : ∀ style i key, template.keys[i]? = some key →
    (template.statement style table).slot i key = i
  binds : ∀ style row index, (template.statement style table).bindPositional row index = .ok row

theorem prepared_of_compile {template : Template} {t : Table} {table text : String}
    (generated : template.text t.name = .ok text)
    (compiles : ∀ style, compile text style = .ok (template.statement style table)) :
    Prepared template t table := by
  have same : template.native .named table = text := Sql.sql_of_compile_named (compiles .named)
  -- As no key is repeated, no convention treats the statement apart.
  have distinct := template.nodup_keys
  rw [← same] at generated compiles
  refine ⟨generated, compiles, ?_, ?_, ?_, ?_⟩
  · intro style
    rw [Statement.layout, Statement.bindKeys_of_distinct distinct]
    exact BindLayout.hasDuplicates_of_distinct distinct
  · intro style
    exact Statement.bindKeys_of_distinct distinct
  · intro style i key placed
    exact Statement.slot_of_distinct distinct placed
  · intro style row index
    exact Statement.bindPositional_of_distinct distinct row index

/-- A statement of columns that can be read compiles to the text for drivers. -/
theorem prepared {template : Template} (readable : Readable template.columns) {t : Table}
    {table : String} (named : Table.named table = .ok t) : Prepared template t table := by
  cases template with
  | insert names =>
      obtain ⟨idents, read⟩ : ∃ idents, Table.columns names = .ok idents :=
        columns_of_readable readable
      have generated : (insert names).text t.name = .ok (Sql.insertText t.name idents) := by
        rw [text, read]
        rfl
      apply prepared_of_compile generated
      intro style
      rw [← statement_insert named read]
      exact Sql.compile_insertText (unmarked_named named) (unmarked_columns read) style
  | update changed conditioned =>
      obtain ⟨changes, conditions⟩ := List.forall_mem_append.mp readable
      obtain ⟨idents, readChanged⟩ := columns_of_readable changes
      obtain ⟨others, readConditioned⟩ := columns_of_readable conditions
      have generated : (update changed conditioned).text t.name =
          .ok (Sql.updateText t.name idents others) := by
        rw [text, readChanged, readConditioned]
        rfl
      apply prepared_of_compile generated
      intro style
      rw [← statement_update named readChanged readConditioned]
      exact Sql.compile_updateText (unmarked_named named) (unmarked_columns readChanged)
        (unmarked_columns readConditioned) style
  | delete conditioned =>
      obtain ⟨idents, read⟩ : ∃ idents, Table.columns conditioned = .ok idents :=
        columns_of_readable readable
      have generated : (delete conditioned).text t.name = .ok (Sql.deleteText t.name idents) := by
        rw [text, read]
        rfl
      apply prepared_of_compile generated
      intro style
      rw [← statement_delete named read]
      exact Sql.compile_deleteText (unmarked_named named) (unmarked_columns read) style

end Template

end Table

end SqlBind

import SqlBind.Proofs.Session.Writes
import SqlBind.Proofs.Table.Columns
import SqlBind.Proofs.Table.Merge

/-!
Owns: the writes of a table from the records to the rows that reach the driver. The columns of a
statement and the values of a row are listed apart, from the same fields, and meet again in the
statement.

Main statement: every value is bound to the placeholder of its own column, whatever the values are
(`table_writes_bind_columns`).
-/

set_option autoImplicit false

namespace SqlBind

variable {σ : Type}

/-! ### Values by name -/

private theorem Fields.map_lookup {α : Type} {fields : List (String × α)}
    (ordered : Ascending fields) :
    (fields.map Prod.fst).map (fun name => fields.lookup name) =
      (fields.map Prod.snd).map some := by
  induction fields with
  | nil => rfl
  | cons field rest inductionHypothesis =>
      obtain ⟨name, value⟩ := field
      obtain ⟨below, later⟩ := List.pairwise_cons.mp ordered
      -- The first name is smaller than all others, so it hides none of them.
      have others : ∀ other ∈ rest.map Prod.fst,
          ((name, value) :: rest).lookup other = rest.lookup other := by
        intro other member
        obtain ⟨field, held, rfl⟩ := List.mem_map.mp member
        have different : field.1 ≠ name := (String.ne_of_lt (below field held)).symm
        rw [List.lookup_cons, beq_false_of_ne different]
      rw [List.map_cons, List.map_cons, List.map_cons, List.map_cons, List.map_congr_left others,
        inductionHypothesis later, List.lookup_cons, beq_self_eq_true]

namespace FieldMap

variable {α : Type}

/-- The values are listed in the order of the names. -/
theorem map_get?_keys (m : FieldMap α) : m.keys.map m.get? = m.values.map some :=
  Fields.map_lookup m.ascending

private theorem get?_ne_none_of_mem {m : FieldMap α} {name : String} (member : name ∈ m.keys) :
    m.get? name ≠ none := by
  intro lacks
  have listed := List.mem_map_of_mem (f := m.get?) member
  rw [map_get?_keys, lacks] at listed
  simp at listed

end FieldMap

def KeyedRecord.blank (record : KeyedRecord) : KeyedRecord :=
  ⟨record.fields.map fun field => (field.1, Value.null), by
    have ordered := record.ascending
    unfold Fields.Ascending at ordered ⊢
    exact List.pairwise_map.mpr ordered⟩

@[simp] theorem KeyedRecord.keys_blank (record : KeyedRecord) :
    (KeyedRecord.blank record).keys = record.keys := by
  simp [KeyedRecord.blank, FieldMap.keys, Function.comp_def]

namespace Table

/-- What a record holds under names. -/
def valuesUnder (names : List String) (record : KeyedRecord) : List (Option Value) :=
  names.map record.get?

/-- The record has a value under every name. -/
def Covers (names : List String) (record : KeyedRecord) : Prop :=
  ∀ name ∈ names, record.get? name ≠ none

private theorem exists_valuesAt {names : List String} {record : KeyedRecord}
    (covers : Covers names record) (index : Option Nat) :
    ∃ row, valuesAt names record index = .ok row ∧ row.map some = valuesUnder names record := by
  rcases Statement.mapM_valueUnder record index names with ⟨row, holds⟩ | ⟨name, first, -⟩
  · exact ⟨row, holds⟩
  · have lacks : record.get? name = none := by simpa using List.find?_some first
    exact absurd lacks (covers name (List.mem_of_find?_eq_some first))

/-- Records that have the columns have a row of values each. -/
theorem exists_project {names : List String} {records : List KeyedRecord}
    (covers : ∀ record ∈ records, Covers names record) :
    ∃ rows, project records names = .ok rows ∧
      rows.map (List.map some) = records.map (valuesUnder names) := by
  unfold project
  generalize 0 = index
  induction records generalizing index with
  | nil => exact ⟨[], rfl, rfl⟩
  | cons record rest inductionHypothesis =>
      obtain ⟨here, later⟩ := List.forall_mem_cons.mp covers
      obtain ⟨row, bound, values⟩ := exists_valuesAt here (some index)
      obtain ⟨rows, boundLater, valuesLater⟩ := inductionHypothesis later (index + 1)
      refine ⟨row :: rows, ?_, ?_⟩
      · rw [Statement.bindEach, bound, boundLater]
        rfl
      · rw [List.map_cons, List.map_cons, values, valuesLater]

end Table

/-! ### Writes -/

/-- A write to a table by records. -/
inductive TableWrite where
  | insertOne (record : KeyedRecord)
  | insertMany (records : List KeyedRecord)
  | update (condition changes : KeyedRecord)
  | delete (condition : KeyedRecord)
  | merge (records : List KeyedRecord) (unique : List String)

namespace TableWrite

open Table (Readable Covers Template valuesUnder)

/-- The columns can be read, and what must not be empty is not. -/
def Usable (record : KeyedRecord) : Prop := record.isEmpty = false ∧ Readable record.keys

/-- The records pass the checks of the write. -/
def Accepted : TableWrite → Prop
  | insertOne record => Usable record
  | insertMany records => ∀ first ∈ records.head?, Usable first ∧
      ∀ record ∈ records, Covers first.keys record
  | update condition changes => Usable changes ∧ Readable condition.keys
  | delete condition => Usable condition
  | merge records unique => unique ≠ [] ∧ ∀ first ∈ records.head?, Usable first ∧
      (∀ name ∈ unique, name ∈ first.keys) ∧ ∀ record ∈ records, Covers first.keys record

/-- The statements that the write sends. -/
def templates : TableWrite → List Template
  | insertOne record => [.insert record.keys]
  | insertMany [] => []
  | insertMany (first :: _) => [.insert first.keys]
  | update condition changes => [.update changes.keys condition.keys]
  | delete condition => [.delete condition.keys]
  | merge [] _ => []
  | merge (first :: _) unique => [.delete unique, .insert first.keys]

/-- What the records hold under the columns of each statement, record by record. -/
def values : TableWrite → List (List (List (Option Value)))
  | insertOne record => [[valuesUnder record.keys record]]
  | insertMany [] => []
  | insertMany (first :: rest) => [(first :: rest).map (valuesUnder first.keys)]
  | update condition changes =>
      [[valuesUnder changes.keys changes ++ valuesUnder condition.keys condition]]
  | delete condition => [[valuesUnder condition.keys condition]]
  | merge [] _ => []
  | merge (first :: rest) unique =>
      [(first :: rest).map (valuesUnder unique), (first :: rest).map (valuesUnder first.keys)]

/-- The write with records of the same keys and no values. -/
def blank : TableWrite → TableWrite
  | insertOne record => insertOne (KeyedRecord.blank record)
  | insertMany records => insertMany (records.map KeyedRecord.blank)
  | update condition changes => update (KeyedRecord.blank condition) (KeyedRecord.blank changes)
  | delete condition => delete (KeyedRecord.blank condition)
  | merge records unique => merge (records.map KeyedRecord.blank) unique

/-- The calls that reach the driver during the write, oldest first. -/
def calls (t : Table) (s : Session σ) : TableWrite → List Exchange
  | insertOne record => Session.calls (t.insertOne record) s
  | insertMany records => Session.calls (t.insertMany records) s
  | update condition changes => Session.calls (t.update condition changes) s
  | delete condition => Session.calls (t.delete condition) s
  | merge records unique => Session.calls (t.merge records unique) s

private theorem templates_blank (write : TableWrite) : write.blank.templates = write.templates := by
  cases write with
  | insertMany records => cases records <;> simp [blank, templates]
  | merge records unique => cases records <;> simp [blank, templates]
  | _ => simp [blank, templates]

end TableWrite

/-! ### Deliveries -/

namespace Table

variable {s : Session σ} {t : Table} {table : String} {template : Template}

/-- A statement that is prepared is sent in its native form with the row as it is. -/
theorem write_delivers (sound : s.Sound) (prepared : template.Prepared t table) (row : Row) :
    Delivers (template.native s.style table) [row] (Session.calls
      (Session.write (template.native .named table) (.positional row)) s) := by
  have binds : (template.statement s.style table).bind (.positional row) = .ok row :=
    prepared.binds s.style row none
  obtain ⟨made, result, after, makes, -, written⟩ :=
    Session.write_makes sound (prepared.compiles s.style) binds
  rw [makes.calls_eq]
  exact written.delivers

private theorem writeMany_delivers (sound : s.Sound) (prepared : template.Prepared t table)
    {rows : List Row} (nonempty : rows ≠ []) :
    Delivers (template.native s.style table) rows (Session.calls
      (Session.writeMany (template.native .named table) (.positional rows)) s) := by
  have filled : (Batch.positional rows).isEmpty = false := by
    simpa [Batch.isEmpty, Batch.size] using nonempty
  have binds : (template.statement s.style table).bindBatch (.positional rows) = .ok rows :=
    Statement.bindEach_same (prepared.binds s.style) rows 0
  obtain ⟨after, makes, -⟩ :=
    Session.writeMany_makes sound (prepared.compiles s.style) binds filled
  rw [makes.calls_eq]
  exact Execution.batchCourse_delivers s.driver _ sound.positive nonempty s.channel.conn

/-- Calls for several statements, each with rows of its own, that begin with an execution. -/
structure Serves (style : ParamStyle) (table : String) (bound : List (Template × List Row))
    (calls : List Exchange) : Prop where
  begins : bound ≠ [] → ∃ first later, calls = first :: later ∧ first.call.executes = true
  carries : ∀ exchange ∈ calls, ∃ part ∈ bound,
    exchange.call.Carries (part.1.native style table) part.2

private theorem serves_nothing (style : ParamStyle) (table : String) : Serves style table [] [] :=
  ⟨fun nonempty => absurd rfl nonempty, nofun⟩

theorem serves_of_delivers {style : ParamStyle} {rows : List Row} {calls : List Exchange}
    (delivers : Delivers (template.native style table) rows calls) :
    Serves style table [(template, rows)] calls where
  begins _ := delivers.begins
  carries exchange member := ⟨_, List.mem_singleton_self _, delivers.carries exchange member⟩

private theorem insertOne_eq {record : KeyedRecord}
    (prepared : (Template.insert record.keys).Prepared t table) (filled : record.isEmpty = false) :
    (t.insertOne record : SessionAction σ Nat) =
      Session.write ((Template.insert record.keys).native .named table)
        (.positional record.values) := by
  obtain ⟨names, read, text⟩ := of_bind_ok prepared.text
  unfold insertOne
  rw [filled, read, ← Except.ok.inj text]
  rfl

private theorem delete_eq {condition : KeyedRecord}
    (prepared : (Template.delete condition.keys).Prepared t table)
    (filled : condition.isEmpty = false) :
    (t.delete condition : SessionAction σ Nat) =
      Session.write ((Template.delete condition.keys).native .named table)
        (.positional condition.values) := by
  obtain ⟨names, read, text⟩ := of_bind_ok prepared.text
  unfold delete
  rw [filled, read, ← Except.ok.inj text]
  rfl

private theorem update_eq {condition changes : KeyedRecord}
    (prepared : (Template.update changes.keys condition.keys).Prepared t table)
    (filled : changes.isEmpty = false) :
    (t.update condition changes : SessionAction σ Nat) =
      Session.write ((Template.update changes.keys condition.keys).native .named table)
        (.positional (changes.values ++ condition.values)) := by
  obtain ⟨changed, readChanged, text⟩ := of_bind_ok prepared.text
  obtain ⟨conditioned, readConditioned, text⟩ := of_bind_ok text
  unfold update
  rw [filled, readChanged, readConditioned, ← Except.ok.inj text]
  rfl

private theorem insertMany_eq {first : KeyedRecord} {rest : List KeyedRecord} {rows : List Row}
    (prepared : (Template.insert first.keys).Prepared t table) (filled : first.isEmpty = false)
    (projected : project (first :: rest) first.keys = .ok rows) :
    (t.insertMany (first :: rest) : SessionAction σ Nat) =
      Session.writeMany ((Template.insert first.keys).native .named table) (.positional rows) := by
  obtain ⟨names, read, text⟩ := of_bind_ok prepared.text
  unfold insertMany
  rw [← Except.ok.inj text]
  simp only [filled, read, projected]
  rfl

theorem merge_nil {unique : List String} (nonempty : unique ≠ []) :
    (t.merge [] unique : SessionAction σ MergeOutcome) = pure ⟨0, 0⟩ := by
  unfold merge
  simp only [List.isEmpty_eq_false_iff.mpr nonempty]
  rfl

private theorem merge_eq {first : KeyedRecord} {rest : List KeyedRecord} {unique : List String}
    {deleteRows insertRows : List Row} (deletion : (Template.delete unique).Prepared t table)
    (insertion : (Template.insert first.keys).Prepared t table) (nonempty : unique.isEmpty = false)
    (filled : first.isEmpty = false) (checked : checkUnique first.keys unique = .ok ())
    (projected : project (first :: rest) unique = .ok deleteRows)
    (collected : project (first :: rest) first.keys = .ok insertRows) :
    (t.merge (first :: rest) unique : SessionAction σ MergeOutcome) =
      sendMerge ((Template.delete unique).native .named table) deleteRows
        ((Template.insert first.keys).native .named table) insertRows t.name.text := by
  obtain ⟨conditioned, readUnique, deleteText⟩ := of_bind_ok deletion.text
  obtain ⟨names, readNames, insertText⟩ := of_bind_ok insertion.text
  unfold merge
  rw [← Except.ok.inj deleteText, ← Except.ok.inj insertText]
  simp only [nonempty, filled, checked, readUnique, readNames, projected, collected]
  rfl

private theorem checkUnique_of_forall {available unique : List String}
    (all : ∀ name ∈ unique, name ∈ available) : checkUnique available unique = .ok () := by
  have none : (unique.find? fun name => !available.contains name) = none := by
    apply List.find?_eq_none.mpr
    intro name member
    simpa using all name member
  rw [checkUnique, none]

theorem Settling.carries {d : Driver σ} {config : ExecutorConfig} {conn after : σ}
    {made : List Exchange} {result : Except DbError Unit}
    (settling : Settling d config conn made result after) (sql : String) (batch : List Row) :
    ∀ exchange ∈ made, exchange.call.Carries sql batch := by
  cases settling with
  | left mode => nofun
  | committed mode settled => simp
  | uncommitted mode refused undone => simp [Execution.Trial.rollbackExchange]

/-- The statements of a merge are served one after the other. -/
theorem serves_two {style : ParamStyle} {deletion insertion : Template}
    {deleteRows insertRows : List Row} {calls later : List Exchange}
    (delivers : Delivers (deletion.native style table) deleteRows calls)
    (rest : ∀ exchange ∈ later, exchange.call.Carries (insertion.native style table) insertRows) :
    Serves style table [(deletion, deleteRows), (insertion, insertRows)] (calls ++ later) where
  begins _ := by
    obtain ⟨first, others, rfl, executes⟩ := delivers.begins
    exact ⟨first, others ++ later, rfl, executes⟩
  carries exchange member := by
    rcases List.mem_append.mp member with here | there
    · exact ⟨(deletion, deleteRows), by simp, delivers.carries exchange here⟩
    · exact ⟨(insertion, insertRows), by simp, rest exchange there⟩

/-- However far a merge gets, it deletes with the rows for that and then inserts with the others. -/
theorem Sending.serves {d : Driver σ} {config : ExecutorConfig} {style : ParamStyle}
    {deletion insertion : Template} {deleteRows insertRows : List Row} {conn after : σ}
    {made : List Exchange} {result : Except DbError MergeOutcome}
    (positive : 0 < config.chunkSize)
    (sending : Sending d config ⟨deletion.statement style table, deleteRows,
      insertion.statement style table, insertRows⟩ conn made result after)
    (someDeletes : deleteRows ≠ []) :
    Serves style table [(deletion, deleteRows), (insertion, insertRows)] made := by
  cases sending with
  | undeleted deletes =>
      rw [← List.append_nil made]
      exact serves_two (deletes.delivers positive someDeletes) nofun
  | uninserted deletes inserts =>
      apply serves_two (deletes.delivers positive someDeletes)
      exact inserts.carries positive List.infix_rfl
  | sent deletes inserts settles =>
      apply serves_two (deletes.delivers positive someDeletes)
      exact List.forall_mem_append.mpr
        ⟨inserts.carries positive List.infix_rfl, settles.carries _ _⟩

private theorem merge_serves (sound : s.Sound) {first : KeyedRecord} {rest : List KeyedRecord}
    {unique : List String} {deleteRows insertRows : List Row}
    (deletion : (Template.delete unique).Prepared t table)
    (insertion : (Template.insert first.keys).Prepared t table) (nonempty : unique ≠ [])
    (filled : first.isEmpty = false) (held : ∀ name ∈ unique, name ∈ first.keys)
    (projected : project (first :: rest) unique = .ok deleteRows)
    (collected : project (first :: rest) first.keys = .ok insertRows) :
    Serves s.style table [(.delete unique, deleteRows), (.insert first.keys, insertRows)]
      (Session.calls (t.merge (first :: rest) unique) s) := by
  have someRecords : first :: rest ≠ [] := List.cons_ne_nil first rest
  have someDeletes := project_ne_nil projected someRecords
  have someInserts := project_ne_nil collected someRecords
  let plan : MergePlan :=
    ⟨(Template.delete unique).statement s.style table, deleteRows,
      (Template.insert first.keys).statement s.style table, insertRows⟩
  have bindDeletes : plan.deletion.bindBatch (.positional deleteRows) = .ok deleteRows :=
    Statement.bindEach_same (deletion.binds s.style) deleteRows 0
  have bindInserts : plan.insertion.bindBatch (.positional insertRows) = .ok insertRows :=
    Statement.bindEach_same (insertion.binds s.style) insertRows 0
  obtain ⟨made, result, after, makes, -, sending⟩ :=
    sendMerge_makes sound plan (deletion.compiles s.style) bindDeletes someDeletes
      (insertion.compiles s.style) bindInserts someInserts t.name.text
  rw [merge_eq deletion insertion (List.isEmpty_eq_false_iff.mpr nonempty) filled
    (checkUnique_of_forall held)
    projected collected, makes.calls_eq]
  exact sending.serves sound.positive someDeletes

end Table

namespace TableWrite

open Table (Readable Covers Template valuesUnder Serves)

variable {s : Session σ} {t : Table} {table : String}

/-- A record holds its own values under its own columns. -/
theorem map_some_values (record : KeyedRecord) :
    record.values.map some = valuesUnder record.keys record :=
  record.map_get?_keys.symm

/-- All columns of an accepted write can be read. -/
theorem readable {write : TableWrite} (accepted : write.Accepted) :
    ∀ template ∈ write.templates, Readable template.columns := by
  cases write with
  | insertOne record => simpa [templates, Template.columns] using accepted.2
  | delete condition => simpa [templates, Template.columns] using accepted.2
  | update condition changes =>
      have both : Readable (changes.keys ++ condition.keys) :=
        List.forall_mem_append.mpr ⟨accepted.1.2, accepted.2⟩
      simpa [templates, Template.columns] using both
  | insertMany records =>
      cases records with
      | nil => simp [templates]
      | cons first rest =>
          have usable := (accepted first rfl).1
          simpa [templates, Template.columns] using usable.2
  | merge records unique =>
      cases records with
      | nil => simp [templates]
      | cons first rest =>
          obtain ⟨usable, held, -⟩ := accepted.2 first rfl
          have some : Readable unique := fun name member => usable.2 name (held name member)
          simp [templates, Template.columns, usable.2, some]

/-- The rows that an accepted write binds, and the calls that carry them. -/
theorem serves (sound : s.Sound) {write : TableWrite} (accepted : write.Accepted)
    (prepared : ∀ template ∈ write.templates, template.Prepared t table) :
    ∃ bound : List (Template × List Row), bound.map Prod.fst = write.templates ∧
      bound.map (fun part => part.2.map (List.map some)) = write.values ∧
      Serves s.style table bound (write.calls t s) := by
  cases write with
  | insertOne record =>
      have ready := prepared _ List.mem_cons_self
      refine ⟨[(.insert record.keys, [record.values])], rfl, ?_, ?_⟩
      · simp [values, map_some_values]
      · rw [calls, Table.insertOne_eq ready accepted.1]
        exact Table.serves_of_delivers (Table.write_delivers sound ready _)
  | delete condition =>
      have ready := prepared _ List.mem_cons_self
      refine ⟨[(.delete condition.keys, [condition.values])], rfl, ?_, ?_⟩
      · simp [values, map_some_values]
      · rw [calls, Table.delete_eq ready accepted.1]
        exact Table.serves_of_delivers (Table.write_delivers sound ready _)
  | update condition changes =>
      have ready := prepared _ List.mem_cons_self
      refine ⟨[(.update changes.keys condition.keys, [changes.values ++ condition.values])], rfl,
        ?_, ?_⟩
      · simp [values, map_some_values]
      · rw [calls, Table.update_eq ready accepted.1.1]
        exact Table.serves_of_delivers (Table.write_delivers sound ready _)
  | insertMany records =>
      cases records with
      | nil => exact ⟨[], rfl, rfl, Table.serves_nothing _ _⟩
      | cons first rest =>
          obtain ⟨usable, covers⟩ := accepted first rfl
          have ready := prepared _ List.mem_cons_self
          obtain ⟨rows, projected, held⟩ := Table.exists_project covers
          refine ⟨[(.insert first.keys, rows)], rfl, ?_, ?_⟩
          · simp [values, held]
          · rw [calls, Table.insertMany_eq ready usable.1 projected]
            have nonempty := Table.project_ne_nil projected (List.cons_ne_nil first rest)
            exact Table.serves_of_delivers (Table.writeMany_delivers sound ready nonempty)
  | merge records unique =>
      cases records with
      | nil =>
          refine ⟨[], rfl, rfl, ?_⟩
          rw [calls, Table.merge_nil accepted.1]
          exact Table.serves_nothing _ _
      | cons first rest =>
          obtain ⟨nonempty, checks⟩ := accepted
          obtain ⟨usable, held, covers⟩ := checks first rfl
          -- The unique columns are among those of the first record, which all records have.
          have coversUnique : ∀ record ∈ first :: rest, Covers unique record :=
            fun record member name listed => covers record member name (held name listed)
          obtain ⟨deleteRows, projected, deletes⟩ := Table.exists_project coversUnique
          obtain ⟨insertRows, collected, inserts⟩ := Table.exists_project covers
          refine ⟨[(.delete unique, deleteRows), (.insert first.keys, insertRows)], rfl, ?_, ?_⟩
          · simp [values, deletes, inserts]
          · exact Table.merge_serves sound (prepared _ (by simp [templates]))
              (prepared _ (by simp [templates])) nonempty usable.1 held projected collected

end TableWrite

/-- Every write whose records pass its checks binds each value to its own column. Its statements
compile in every convention, with all keys different and one for each column; their texts show the
names as they were written and do not depend on any value. Rows bind as they are, and every
execution carries, under the text for the driver, rows whose values are those that the records hold
under the columns, in the order of the placeholders. -/
theorem table_writes_bind_columns {s : Session σ} (sound : s.Sound) {table : String} {t : Table}
    (named : Table.named table = .ok t) (write : TableWrite) (accepted : write.Accepted) :
    (∀ template ∈ write.templates, template.Prepared t table ∧
      template.keys.length = template.columns.length ∧ template.keys.Nodup) ∧
      write.blank.templates = write.templates ∧
      ∃ bound : List (Table.Template × List Row), bound.map Prod.fst = write.templates ∧
        bound.map (fun part => part.2.map (List.map some)) = write.values ∧
        Table.Serves s.style table bound (write.calls t s) := by
  have prepared : ∀ template ∈ write.templates, template.Prepared t table :=
    fun template member => Table.Template.prepared (TableWrite.readable accepted template member)
      named
  refine ⟨?_, write.templates_blank, TableWrite.serves sound accepted prepared⟩
  intro template member
  exact ⟨prepared template member, template.length_keys, template.nodup_keys⟩

/-- A merge by a quoted column: the deletion binds that column alone, the insertion both. -/
theorem table_writes_bind_columns_merge :
    let s : Session ScriptedState :=
      ⟨Scripted.driver .dollar Row.describe, {}, Compiler.withCache .dollar 0, ⟨.start {}, #[]⟩⟩
    let t : Table := ⟨⟨[.plain ['t']]⟩⟩
    let record : Int64 → KeyedRecord := fun i => .ofList [("a", .int i), ("\"B\"", .int (i + 10))]
    let write := TableWrite.merge [record 1, record 2] ["\"B\""]
    let deletion := Table.Template.delete ["\"B\""]
    let insertion := Table.Template.insert ["\"B\"", "a"]
    s.Sound ∧ Table.named "t" = .ok t ∧ write.Accepted ∧
      write.templates = [deletion, insertion] ∧
      deletion.native .dollar "t" = "DELETE FROM t WHERE \"B\" = $1" ∧
      insertion.native .dollar "t" = "INSERT INTO t (\"B\", a) VALUES ($1, $2)" ∧
      ∃ deleteRows insertRows,
        deleteRows.map (List.map some) = [[some (.int 11)], [some (.int 12)]] ∧
        insertRows.map (List.map some) =
          [[some (.int 11), some (.int 1)], [some (.int 12), some (.int 2)]] ∧
        Table.Serves .dollar "t" [(deletion, deleteRows), (insertion, insertRows)]
          (write.calls t s) := by
  intro s t record write deletion insertion
  have opened : Session.withConfig s.driver s.channel.conn {} = .ok s := rfl
  have sound := Session.sound_withConfig opened
  have named : Table.named "t" = .ok t := rfl
  have keys : ∀ other ∈ [record 1, record 2], other.keys = ["\"B\"", "a"] := by decide +kernel
  have accepted : write.Accepted := by
    refine ⟨List.cons_ne_nil _ _, ?_⟩
    rintro first ⟨⟩
    rw [keys (record 1) (by simp)]
    refine ⟨⟨rfl, ?_⟩, by simp, ?_⟩
    · rw [keys (record 1) (by simp)]
      simp only [Table.Readable, List.forall_mem_cons]
      exact ⟨⟨⟨[.quoted ['B']]⟩, rfl⟩, ⟨⟨[.plain ['a']]⟩, rfl⟩, nofun⟩
    · intro other member name listed
      rw [← keys other member] at listed
      exact FieldMap.get?_ne_none_of_mem listed
  have templates : write.templates = [deletion, insertion] := by
    simp only [write, TableWrite.templates, keys (record 1) (by simp)]
    rfl
  obtain ⟨-, -, bound, sent, held, serves⟩ :=
    table_writes_bind_columns sound named write accepted
  rw [templates] at sent
  rcases bound with - | ⟨⟨first, deleteRows⟩, - | ⟨⟨second, insertRows⟩, - | ⟨third, rest⟩⟩⟩ <;>
    simp only [List.map_cons, List.map_nil, List.cons.injEq, reduceCtorEq, and_false] at sent
  obtain ⟨rfl, rfl, -⟩ := sent
  have values : write.values = [[[some (.int 11)], [some (.int 12)]],
      [[some (.int 11), some (.int 1)], [some (.int 12), some (.int 2)]]] := rfl
  rw [values] at held
  simp only [List.map_cons, List.map_nil, List.cons.injEq, and_true] at held
  exact ⟨sound, named, accepted, templates, by decide +kernel, by decide +kernel, deleteRows,
    insertRows, held.1, held.2, serves⟩

end SqlBind

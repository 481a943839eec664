import SqlBind.Proofs.Binding.Missing
import SqlBind.Proofs.Session.Books
import SqlBind.Proofs.Table.Writes

/-!
Owns: operations that are refused before any driver is involved. Names are read, columns compared,
texts compiled and records bound, all of them, before the first call; so a fault of any of them
leaves the connection as it was, however late in a batch it stands.

Main statements: a faulty operation fails without a call (`Operation.refuses_run`), a missing
parameter of a batch names the first record and key at fault (`Operation.misses_of_run`), and
without any record nothing is done at all (`Operation.idle_run`).
-/

set_option autoImplicit false

namespace SqlBind

open Execution (ending)

variable {σ α β : Type}

/-! ### Faults -/

namespace Operation

/-- The text that the operation is given, with the records to bind to it. Without records in a
batch, or without values for a single execution, there is nothing to check. -/
def given? : Operation → Option (String × List Record)
  | write sql record => some (sql, [record])
  | writeMany sql batch => if batch.isEmpty then none else some (sql, batch.records)
  | execute sql (.one record) => if record.isEmpty then none else some (sql, [record])
  | execute sql (.many batch) => if batch.isEmpty then none else some (sql, batch.records)
  | _ => none

/-- The names that the operation has to read: that of its table and those of its columns. -/
def names : Operation → List String
  | insertOne table record => table :: record.keys
  | insertMany table [] => [table]
  | insertMany table (first :: _) => table :: first.keys
  | update table condition changes => table :: (changes.keys ++ condition.keys)
  | delete table condition => table :: condition.keys
  | deleteAll table => [table]
  | merge table [] _ => [table]
  | merge table (first :: _) unique => table :: (unique ++ first.keys)
  | _ => []

/-- The records that have to hold the columns of the first of them. -/
def rows : Operation → List KeyedRecord
  | insertMany _ records => records
  | merge _ records _ => records
  | _ => []

/-- A record, a condition or a list of columns is empty that must not be. -/
def Hollow : Operation → Prop
  | insertOne _ record => record.isEmpty = true
  | insertMany _ records => ∃ first ∈ records.head?, first.isEmpty = true
  | update _ _ changes => changes.isEmpty = true
  | delete _ condition => condition.isEmpty = true
  | merge _ records unique => unique = [] ∨ ∃ first ∈ records.head?, first.isEmpty = true
  | _ => False

/-- What can be wrong with an operation before any driver is involved. -/
inductive Faulty (style : ParamStyle) (operation : Operation) : Prop where
  | malformed {sql : String} {records : List Record}
      (given : operation.given? = some (sql, records))
      (colon : .malformed ∈ Sql.tokens sql.toList)
  | incomplete {sql : String} {records : List Record} {statement : Statement} {record : Record}
      (given : operation.given? = some (sql, records))
      (compiles : compile sql style = .ok statement) (member : record ∈ records)
      (lacks : statement.Incomplete record)
  | unreadable {name : String} {fault : IdentFault} (listed : name ∈ operation.names)
      (rejected : Ident.parse name = .error fault)
  | foreign {table : String} {first : KeyedRecord} {rest : List KeyedRecord} {unique : List String}
      {name : String} (merges : operation = merge table (first :: rest) unique)
      (listed : name ∈ unique) (lacks : name ∉ first.keys)
  | uncovered {first record : KeyedRecord} {rest : List KeyedRecord} {name : String}
      (rows : operation.rows = first :: rest) (member : record ∈ first :: rest)
      (column : name ∈ first.keys) (lacks : record.get? name = none)
  | hollow (empty : operation.Hollow)

/-- There is no record to write, and nothing else is wrong. -/
def Idle : Operation → Prop
  | writeMany _ batch => batch.isEmpty = true
  | execute _ (.many batch) => batch.isEmpty = true
  | insertMany table records => records = [] ∧ ∃ name, Ident.parse table = .ok name
  | merge table records unique =>
      records = [] ∧ unique ≠ [] ∧ ∃ name, Ident.parse table = .ok name
  | _ => False

/-- The operation works off a batch of records. -/
def IsBatch : Operation → Prop
  | writeMany _ _ | insertMany _ _ => True
  | _ => False

/-- In a batch of records, the record at `position` is the first that misses a key, and `key` the
first that it misses. -/
inductive Misses (style : ParamStyle) (key : String) : Operation → Nat → Prop where
  | bound {sql : String} {batch : Batch} {statement : Statement} {before after : List Record}
      {record : Record} (compiles : compile sql style = .ok statement)
      (records : batch.records = before ++ record :: after)
      (earlier : ∀ other ∈ before, ¬ statement.Incomplete other)
      (missing : statement.FirstMissing record key) :
      Misses style key (.writeMany sql batch) before.length
  | column {table : String} {first record : KeyedRecord} {rest before after : List KeyedRecord}
      (records : first :: rest = before ++ record :: after)
      (earlier : ∀ other ∈ before, ∀ name ∈ first.keys, other.get? name ≠ none)
      (missing : FirstUnset record first.keys key) :
      Misses style key (.insertMany table (first :: rest)) before.length

end Operation

/-! ### Refusals -/

namespace Session

variable {s : Session σ}

/-- The action fails without a call. -/
def Refuses (plain : SessionAction σ α) (noted : SessionAction (Recorded σ) α) (s : Session σ) :
    Prop :=
  ∃ e after, Makes plain noted s [] (.error e) after ∧ after.channel.conn = s.channel.conn

namespace Refuses

/-- An action that refuses does so whatever would follow it. -/
theorem bind {plain : SessionAction σ α} {noted : SessionAction (Recorded σ) α}
    (refuses : Refuses plain noted s) (next : α → SessionAction σ β)
    (nextNoted : α → SessionAction (Recorded σ) β) :
    Refuses (plain >>= next) (noted >>= nextNoted) s := by
  obtain ⟨e, after, makes, kept⟩ := refuses
  exact ⟨e, after, makes.bind_error, kept⟩

/-- A check comes before what is refused. -/
theorem check {checked : Except DbError α} {next : α → SessionAction σ β}
    {nextNoted : α → SessionAction (Recorded σ) β}
    (rest : ∀ value, checked = .ok value → Refuses (next value) (nextNoted value) s) :
    Refuses (Session.check checked >>= next) (Session.check checked >>= nextNoted) s := by
  rcases answered : checked with e | value
  · exact ⟨e, s, (Makes.check rfl s).bind_error, rfl⟩
  · obtain ⟨e, after, makes, kept⟩ := rest value answered
    exact ⟨e, after, (Makes.check rfl s).bind makes, kept⟩

theorem guard {refused : Bool} {e : DbError} {next : SessionAction σ α}
    {nextNoted : SessionAction (Recorded σ) α}
    (rest : refused = false → Refuses next nextNoted s) :
    Refuses
      (do
        if refused then throw e
        next)
      (do
        if refused then throw e
        nextNoted) s := by
  rcases refused with _ | _
  · exact rest rfl
  · exact ⟨e, s, (SqlBind.Makes.throw e s).bind_error, rfl⟩

/-- A text that does not compile is refused, so only what follows one that does has to be. -/
theorem compile {sql : String} {next : Statement → SessionAction σ α}
    {nextNoted : Statement → SessionAction (Recorded σ) α} (faithful : s.compiler.Faithful)
    (rest : ∀ statement, SqlBind.compile sql s.style = .ok statement →
      Refuses (next statement) (nextNoted statement)
        { s with compiler := (s.compiler.compile sql).2 }) :
    Refuses (Session.compile sql >>= next) (Session.compile sql >>= nextNoted) s := by
  rcases answered : SqlBind.compile sql s.style with e | statement
  · exact ⟨e, _, (Makes.compile faithful answered).bind_error, rfl⟩
  · obtain ⟨e, after, makes, kept⟩ := rest statement answered
    exact ⟨e, after, (Makes.compile faithful answered).bind makes, kept⟩

/-- An action that refuses fails, makes no call and leaves the connection as it was. -/
theorem result {plain : SessionAction σ α} {noted : SessionAction (Recorded σ) α}
    (refuses : Refuses plain noted s) :
    calls noted s = [] ∧ (∃ e, (ending plain s).1 = .error e) ∧
      (ending plain s).2.channel.conn = s.channel.conn := by
  obtain ⟨e, after, makes, kept⟩ := refuses
  obtain ⟨told, ended⟩ := makes.ends
  rw [ended]
  exact ⟨makes.calls_eq, ⟨e, rfl⟩, kept⟩

end Refuses

/-! ### Statements and their records -/

/-- A write is refused unless its text compiles and its record binds. -/
theorem write_refuses (faithful : s.compiler.Faithful) {sql : String} {record : Record}
    (fault : ∀ statement, SqlBind.compile sql s.style = .ok statement →
      ∃ other ∈ [record], statement.Incomplete other) :
    Refuses (write sql record) (write sql record) s := by
  apply Refuses.compile faithful
  intro statement compiles
  apply Refuses.check
  intro row binds
  obtain ⟨_, member, incomplete⟩ := fault statement compiles
  rw [List.mem_singleton.mp member] at incomplete
  exact absurd incomplete (Statement.complete_of_bind binds)

private theorem writeMany_refuses (faithful : s.compiler.Faithful) {sql : String} {batch : Batch}
    (filled : batch.isEmpty = false)
    (fault : ∀ statement, SqlBind.compile sql s.style = .ok statement →
      ∃ record ∈ batch.records, statement.Incomplete record) :
    Refuses (writeMany sql batch) (writeMany sql batch) s := by
  unfold writeMany
  simp only [filled, Bool.false_eq_true, if_false]
  apply Refuses.compile faithful
  intro statement compiles
  apply Refuses.check
  intro rows binds
  obtain ⟨record, member, incomplete⟩ := fault statement compiles
  exact absurd incomplete (Statement.complete_of_bindBatch binds record member)

end Session

/-! ### Tables -/

namespace Table

private theorem parse_of_parseName {text : String} {name : Ident}
    (parses : parseName text = .ok name) : Ident.parse text = .ok name := by
  unfold parseName at parses
  split at parses
  · rename_i read
    rw [read, Except.ok.inj parses]
  · contradiction

theorem readable_of_columns {names : List String} {idents : List Ident}
    (read : columns names = .ok idents) : Readable names := by
  intro name member
  obtain ⟨ident, parses⟩ := exists_ok_of_mapM read name member
  exact ⟨ident, parse_of_parseName parses⟩

theorem named_of_parse {text : String} {name : Ident} (parses : Ident.parse text = .ok name) :
    Table.named text = .ok ⟨name⟩ := by
  rw [Table.named, parseName_of_parse parses]
  rfl

private theorem exists_parse_of_named {text : String} {t : Table}
    (named : Table.named text = .ok t) : ∃ name, Ident.parse text = .ok name := by
  unfold Table.named at named
  rcases read : parseName text with e | name
  · rw [read] at named
    contradiction
  · exact ⟨name, parse_of_parseName read⟩

private theorem mem_of_checkUnique {available unique : List String}
    (checked : checkUnique available unique = .ok ()) : ∀ name ∈ unique, name ∈ available := by
  intro name member
  unfold checkUnique at checked
  split at checked
  · contradiction
  · rename_i none
    simpa using List.find?_eq_none.mp none name member

/-- Either every record has the columns, or the error names the first that lacks one. -/
theorem project_cases (records : List KeyedRecord) (names : List String) :
    ((∃ rows, project records names = .ok rows) ∧ ∀ record ∈ records, Covers names record) ∨
      ∃ before record after key, records = before ++ record :: after ∧
        (∀ other ∈ before, Covers names other) ∧ FirstUnset record names key ∧
        project records names = .error (.missingParameter key (some before.length)) := by
  have spec : ∀ record index e, valuesAt names record index = .error e ↔
      ∃ key, FirstUnset record names key ∧ e = .missingParameter key index :=
    fun _ _ _ => Statement.valuesUnder_error_iff
  have covers : ∀ record, (∀ key, ¬ FirstUnset record names key) ↔ Covers names record := by
    intro record
    rw [← not_exists, Statement.exists_firstUnset]
    simp [Covers]
  have ends := Statement.bindEach_cases spec 0 records
  simp only [Nat.zero_add, covers] at ends
  exact ends

private theorem covers_of_project {records : List KeyedRecord} {names : List String}
    {rows : List Row} (projected : project records names = .ok rows) :
    ∀ record ∈ records, Covers names record := by
  rcases project_cases records names with ⟨-, covers⟩ | ⟨_, _, _, _, _, _, _, fails⟩
  · exact covers
  · rw [projected] at fails
    contradiction

section Refusals

variable {s : Session σ} (t : Table)

private theorem insertOne_refuses {record : KeyedRecord}
    (rejected : ¬ (TableWrite.insertOne record).Accepted) :
    Session.Refuses (t.insertOne record) (t.insertOne record) s := by
  apply Session.Refuses.guard
  intro filled
  apply Session.Refuses.check
  intro names read
  exact absurd ⟨filled, readable_of_columns read⟩ rejected

private theorem insertMany_refuses {records : List KeyedRecord}
    (rejected : ¬ (TableWrite.insertMany records).Accepted) :
    Session.Refuses (t.insertMany records) (t.insertMany records) s := by
  rcases records with _ | ⟨first, rest⟩
  · exact absurd (by simp [TableWrite.Accepted]) rejected
  · apply Session.Refuses.guard
    intro filled
    apply Session.Refuses.check
    intro names read
    apply Session.Refuses.check
    intro rows projected
    apply absurd _ rejected
    rintro _ ⟨⟩
    exact ⟨⟨filled, readable_of_columns read⟩, covers_of_project projected⟩

private theorem update_refuses {condition changes : KeyedRecord}
    (rejected : ¬ (TableWrite.update condition changes).Accepted) :
    Session.Refuses (t.update condition changes) (t.update condition changes) s := by
  apply Session.Refuses.guard
  intro filled
  apply Session.Refuses.check
  intro changed readChanged
  apply Session.Refuses.check
  intro conditioned readConditioned
  exact absurd ⟨⟨filled, readable_of_columns readChanged⟩, readable_of_columns readConditioned⟩
    rejected

private theorem delete_refuses {condition : KeyedRecord}
    (rejected : ¬ (TableWrite.delete condition).Accepted) :
    Session.Refuses (t.delete condition) (t.delete condition) s := by
  apply Session.Refuses.guard
  intro filled
  apply Session.Refuses.check
  intro conditioned read
  exact absurd ⟨filled, readable_of_columns read⟩ rejected

private theorem merge_refuses {records : List KeyedRecord} {unique : List String}
    (rejected : ¬ (TableWrite.merge records unique).Accepted) :
    Session.Refuses (t.merge records unique) (t.merge records unique) s := by
  apply Session.Refuses.guard
  intro someUnique
  have nonempty : unique ≠ [] := List.isEmpty_eq_false_iff.mp someUnique
  rcases records with _ | ⟨first, rest⟩
  · exact absurd ⟨nonempty, by simp⟩ rejected
  · apply Session.Refuses.guard
    intro filled
    apply Session.Refuses.check
    intro _ checked
    apply Session.Refuses.check
    intro conditioned readUnique
    apply Session.Refuses.check
    intro names read
    apply Session.Refuses.check
    intro deleteRows projected
    apply Session.Refuses.check
    intro insertRows collected
    apply absurd _ rejected
    refine ⟨nonempty, ?_⟩
    rintro _ ⟨⟩
    exact ⟨⟨filled, readable_of_columns read⟩, mem_of_checkUnique checked,
      covers_of_project collected⟩

end Refusals

end Table

/-! ### Operations -/

namespace Operation

/-- The operation as a write to a table of a name. -/
def tableWrite? : Operation → Option (String × TableWrite)
  | insertOne table record => some (table, .insertOne record)
  | insertMany table records => some (table, .insertMany records)
  | update table condition changes => some (table, .update condition changes)
  | delete table condition => some (table, .delete condition)
  | merge table records unique => some (table, .merge records unique)
  | _ => none

section Accepted

variable {operation : Operation} {table : String} {write : TableWrite}
  (writes : operation.tableWrite? = some (table, write)) (accepted : write.Accepted)

include writes

private theorem given?_of_tableWrite : operation.given? = none := by
  cases operation <;> cases writes <;> rfl

/-- The names are those of the table and of the columns in the statements. -/
theorem names_of_tableWrite :
    operation.names = table :: write.templates.flatMap Table.Template.columns := by
  rcases operation with _ | _ | _ | _ | ⟨_, _ | _⟩ | _ | _ | _ | ⟨_, _ | _, _⟩ | _ | _ <;>
    cases writes <;> simp [names, TableWrite.templates, Table.Template.columns]

include accepted

private theorem readable_names {ident : Ident} (named : Ident.parse table = .ok ident) :
    Table.Readable operation.names := by
  rw [names_of_tableWrite writes]
  refine List.forall_mem_cons.mpr ⟨⟨ident, named⟩, fun name listed => ?_⟩
  obtain ⟨template, member, column⟩ := List.mem_flatMap.mp listed
  exact TableWrite.readable accepted template member name column

private theorem not_hollow : ¬ operation.Hollow := by
  intro hollow
  cases operation with
  | insertOne table record =>
      cases writes
      exact Bool.false_ne_true (accepted.1.symm.trans hollow)
  | insertMany table records =>
      cases writes
      obtain ⟨first, begins, empty⟩ := hollow
      exact Bool.false_ne_true ((accepted first begins).1.1.symm.trans empty)
  | update table condition changes =>
      cases writes
      exact Bool.false_ne_true (accepted.1.1.symm.trans hollow)
  | delete table condition =>
      cases writes
      exact Bool.false_ne_true (accepted.1.symm.trans hollow)
  | merge table records unique =>
      cases writes
      rcases hollow with none | ⟨first, begins, empty⟩
      · exact accepted.1 none
      · exact Bool.false_ne_true ((accepted.2 first begins).1.1.symm.trans empty)
  | _ => cases writes

private theorem covers_rows {first record : KeyedRecord} {rest : List KeyedRecord}
    (rows : operation.rows = first :: rest) (member : record ∈ first :: rest) :
    Table.Covers first.keys record := by
  cases operation with
  | insertMany table records =>
      cases writes
      cases rows
      exact (accepted first rfl).2 record member
  | merge table records unique =>
      cases writes
      cases rows
      exact (accepted.2 first rfl).2.2 record member
  | _ => cases rows

end Accepted

/-- A write to a table with a fault has a name that cannot be read for its table, or its records are
not accepted. -/
theorem Faulty.not_accepted {style : ParamStyle} {operation : Operation} {table : String}
    {write : TableWrite} (faulty : operation.Faulty style)
    (writes : operation.tableWrite? = some (table, write)) {ident : Ident}
    (named : Ident.parse table = .ok ident) : ¬ write.Accepted := by
  intro accepted
  have nothing := given?_of_tableWrite writes
  cases faulty with
  | malformed given colon => cases nothing.symm.trans given
  | incomplete given compiles member lacks => cases nothing.symm.trans given
  | unreadable listed rejected =>
      obtain ⟨other, parses⟩ := readable_names writes accepted named _ listed
      cases rejected.symm.trans parses
  | foreign merges listed lacks =>
      subst merges
      cases writes
      exact lacks ((accepted.2 _ rfl).2.1 _ listed)
  | uncovered rows member column lacks =>
      exact covers_rows writes accepted rows member _ column lacks
  | hollow empty => exact not_hollow writes accepted empty

/-- A write to a table is refused when the name of the table is read, or with its records. -/
theorem Faulty.refuses_table {s : Session σ} {operation : Operation} {table : String}
    {write : TableWrite} {next : Table → SessionAction σ α}
    {nextNoted : Table → SessionAction (Recorded σ) α} (faulty : operation.Faulty s.style)
    (writes : operation.tableWrite? = some (table, write))
    (rest : ∀ t, ¬ write.Accepted → Session.Refuses (next t) (nextNoted t) s) :
    Session.Refuses (Session.check (Table.named table) >>= next)
      (Session.check (Table.named table) >>= nextNoted) s := by
  apply Session.Refuses.check
  intro t named
  obtain ⟨ident, parses⟩ := Table.exists_parse_of_named named
  exact rest t (faulty.not_accepted writes parses)

/-- Without names there is only a text and its records to be at fault. -/
theorem Faulty.incomplete_of_nameless {style : ParamStyle} {operation : Operation}
    (faulty : operation.Faulty style) (nameless : operation.names = []) :
    ∃ sql records, operation.given? = some (sql, records) ∧
      ∀ statement, compile sql style = .ok statement →
        ∃ record ∈ records, statement.Incomplete record := by
  have noTable : operation.rows = [] ∧ ¬ operation.Hollow := by
    rcases operation with _ | _ | _ | _ | ⟨_, _ | _⟩ | _ | _ | _ | ⟨_, _ | _, _⟩ | _ | _ <;>
      first | exact ⟨rfl, id⟩ | cases nameless
  cases faulty with
  | malformed given colon =>
      refine ⟨_, _, given, fun statement compiles => ?_⟩
      exact absurd colon (Sql.sound_of_compile compiles)
  | incomplete given compiles member lacks =>
      refine ⟨_, _, given, fun statement again => ?_⟩
      obtain rfl := Except.ok.inj (compiles.symm.trans again)
      exact ⟨_, member, lacks⟩
  | unreadable listed rejected =>
      rw [nameless] at listed
      cases listed
  | foreign merges listed lacks =>
      subst merges
      cases nameless
  | uncovered rows member column lacks => cases noTable.1.symm.trans rows
  | hollow empty => exact absurd empty noTable.2

/-- Deleting all rows reads nothing but the name of the table. -/
theorem Faulty.unreadable_of_deleteAll {style : ParamStyle} {table : String}
    (faulty : (deleteAll table).Faulty style) (ident : Ident) : Ident.parse table ≠ .ok ident := by
  cases faulty with
  | malformed given colon => cases given
  | incomplete given compiles member lacks => cases given
  | unreadable listed rejected =>
      rw [List.mem_singleton.mp listed] at rejected
      intro parses
      cases rejected.symm.trans parses
  | foreign merges listed lacks => cases merges
  | uncovered rows member column lacks => cases rows
  | hollow empty => cases empty

section Runs

variable {s : Session σ} (faithful : s.compiler.Faithful)

include faithful

private theorem refuses_batch {sql text : String} {batch : Batch} {records : List Record}
    (given : (writeMany sql batch).given? = some (text, records))
    (fault : ∀ statement, compile text s.style = .ok statement →
      ∃ record ∈ records, statement.Incomplete record) :
    Session.Refuses (Session.writeMany sql batch) (Session.writeMany sql batch) s := by
  rcases filled : batch.isEmpty with _ | _
  · simp only [given?, filled] at given
    cases given
    exact Session.writeMany_refuses faithful filled fault
  · simp [given?, filled] at given

/-- Executing with values is writing them. -/
theorem refuses_execute {sql : String} {args : Args}
    (faulty : (execute sql args).Faulty s.style) :
    Session.Refuses (Session.execute sql args) (Session.execute sql args) s := by
  obtain ⟨text, records, given, fault⟩ := faulty.incomplete_of_nameless rfl
  rcases args with _ | record | batch
  · cases given
  · rcases filled : record.isEmpty with _ | _
    · simp only [given?, filled] at given
      cases given
      simp only [Session.execute, filled]
      exact Session.write_refuses faithful fault
    · simp [given?, filled] at given
  · exact refuses_batch faithful given fault

/-- A faulty operation refuses, whatever its kind. -/
theorem refuses_run {operation : Operation} (faulty : operation.Faulty s.style) :
    Session.Refuses operation.run operation.run s := by
  cases operation with
  | execute sql args => exact refuses_execute faithful faulty
  | write sql record =>
      obtain ⟨sql, records, ⟨⟩, fault⟩ := faulty.incomplete_of_nameless rfl
      exact Session.write_refuses faithful fault
  | writeMany sql batch =>
      obtain ⟨text, records, given, fault⟩ := faulty.incomplete_of_nameless rfl
      exact refuses_batch faithful given fault
  | insertOne table record => exact faulty.refuses_table rfl fun t => t.insertOne_refuses
  | insertMany table records => exact faulty.refuses_table rfl fun t => t.insertMany_refuses
  | update table condition changes => exact faulty.refuses_table rfl fun t => t.update_refuses
  | delete table condition => exact faulty.refuses_table rfl fun t => t.delete_refuses
  | merge table records unique =>
      exact faulty.refuses_table rfl fun t rejected => (t.merge_refuses rejected).bind _ _
  | deleteAll table =>
      apply Session.Refuses.check
      intro t named
      obtain ⟨ident, parses⟩ := Table.exists_parse_of_named named
      exact absurd parses (faulty.unreadable_of_deleteAll ident)
  | commit =>
      obtain ⟨sql, records, ⟨⟩, fault⟩ := faulty.incomplete_of_nameless rfl
  | rollback =>
      obtain ⟨sql, records, ⟨⟩, fault⟩ := faulty.incomplete_of_nameless rfl

end Runs

end Operation

/-! ### Missing parameters -/

/-- An error that tells applied rows is no missing parameter. -/
theorem ne_missingParameter {e : DbError} {applied : Nat} (tells : e.appliedRows = some applied)
    (key : String) (index : Option Nat) : e ≠ .missingParameter key index := by
  rintro rfl
  contradiction

namespace Execution

/-- Whatever ends a batch tells the rows that it applied. -/
theorem appliedRows_course {d : Driver σ} {config : ExecutorConfig} {sql : String} {e : DbError}
    (tasks : List Task) (progress : Progress) (conn : σ)
    (fails : (course d config sql tasks progress conn).result = .error e) :
    ∃ applied, e.appliedRows = some applied := by
  fun_induction course d config sql tasks progress conn with
  | case1 progress conn => cases fails
  | case2 task rest progress conn trial after tried fault advanced =>
      cases fails
      exact ⟨progress.ledger.committed, (Task.stops advanced).appliedRows⟩
  | case3 task rest progress conn trial after tried tasks next advanced inductionHypothesis =>
      exact inductionHypothesis fails

private theorem appliedRows_batchCourse {d : Driver σ} {config : ExecutorConfig} {sql : String}
    {rows : List Row} {conn : σ} {e : DbError}
    (fails : (batchCourse d config sql rows conn).outcome = .error e) :
    ∃ applied, e.appliedRows = some applied := by
  rcases of_bind_error fails with stopped | ⟨progress, -, verdict⟩
  · exact appliedRows_course _ _ _ stopped
  · unfold Progress.verdict at verdict
    split at verdict
    · cases verdict
    · cases verdict
      exact ⟨_, rfl⟩

end Execution

namespace Session

variable {s : Session σ}

/-- Without records a batch is noted in the log and not compiled. -/
theorem writeMany_idle (sql : String) {batch : Batch} (empty : batch.isEmpty = true) :
    Makes (writeMany sql batch) (writeMany sql batch) s [] (.ok 0) s := by
  have tells : Makes (onChannel fun _ => Channel.emit .emptyBatch)
      (onChannel fun _ => Channel.emit .emptyBatch) s [] (.ok ()) s :=
    Makes.onChannel (Channel.emit_makes .emptyBatch s.channel.conn)
  unfold writeMany
  simp only [empty, if_true]
  exact tells.andThen (SqlBind.Makes.pure 0 s)

private theorem compile_ne_missing (sql : String) (style : ParamStyle) (key : String)
    (index : Option Nat) : SqlBind.compile sql style ≠ .error (.missingParameter key index) := by
  unfold SqlBind.compile
  split <;> simp

/-- A missing parameter of a batch is found while the batch is bound. -/
theorem writeMany_missing (sound : s.Sound) (sql : String) (batch : Batch) :
    ∃ made result after, Makes (writeMany sql batch) (writeMany sql batch) s made result after ∧
      ∀ key index, result = .error (.missingParameter key index) →
        ∃ statement, SqlBind.compile sql s.style = .ok statement ∧
          statement.bindBatch batch = .error (.missingParameter key index) := by
  let compiled : Session σ := { s with compiler := (s.compiler.compile sql).2 }
  rcases filled : batch.isEmpty with _ | _
  · rcases compiles : SqlBind.compile sql s.style with e | statement
    · refine ⟨[], .error e, compiled, ?_, ?_⟩
      · unfold writeMany
        simp only [filled, Bool.false_eq_true, if_false]
        exact (Makes.compile sound.faithful compiles).bind_error
      · rintro key index ⟨⟩
        exact absurd compiles (compile_ne_missing sql s.style key index)
    · rcases binds : statement.bindBatch batch with e | rows
      · refine ⟨[], .error e, compiled, ?_, ?_⟩
        · unfold writeMany
          simp only [filled, Bool.false_eq_true, if_false]
          exact (Makes.compile sound.faithful compiles).bind (Makes.check binds _).bind_error
        · rintro key index ⟨⟩
          exact ⟨statement, rfl, binds⟩
      · obtain ⟨after, makes, -⟩ := writeMany_makes sound compiles binds filled
        refine ⟨_, _, after, makes, fun key index fails => ?_⟩
        obtain ⟨applied, tells⟩ := Execution.appliedRows_batchCourse fails
        exact absurd rfl (ne_missingParameter tells key index)
  · exact ⟨[], .ok 0, s, writeMany_idle sql filled, nofun⟩

end Session

namespace Table

variable {s : Session σ} {text : String} {t : Table}

private theorem named_ne_missing (text key : String) (index : Option Nat) :
    Table.named text ≠ .error (.missingParameter key index) := by
  unfold Table.named parseName
  split <;> simp [Except.map]

private theorem columns_ne_missing (names : List String) (key : String) (index : Option Nat) :
    columns names ≠ .error (.missingParameter key index) := by
  intro fails
  obtain ⟨name, -, fails⟩ := exists_of_mapM_error fails
  unfold parseName at fails
  split at fails <;> cases fails

/-- A missing parameter of an insertion is found while the columns are collected: the generated
statement binds every row that they give. -/
theorem insertMany_missing (sound : s.Sound) (named : Table.named text = .ok t)
    (records : List KeyedRecord) :
    ∃ made result after, Session.Makes (t.insertMany records) (t.insertMany records) s made result
        after ∧
      ∀ key index, result = .error (.missingParameter key index) →
        ∃ first ∈ records.head?,
          project records first.keys = .error (.missingParameter key index) := by
  rcases records with _ | ⟨first, rest⟩
  · exact ⟨[], .ok 0, s, SqlBind.Makes.pure 0 s, nofun⟩
  · apply Session.Makes.exists_refuse
    · rintro key index ⟨⟩
    · apply Session.Makes.exists_check
      · rintro e fails key index ⟨⟩
        exact absurd fails (columns_ne_missing first.keys key index)
      · intro names read
        apply Session.Makes.exists_check
        · rintro e fails key index ⟨⟩
          exact ⟨first, rfl, fails⟩
        · intro rows projected
          have readable : Readable (Template.insert first.keys).columns := readable_of_columns read
          have prepared := Template.prepared readable named
          obtain ⟨again, sameRead, written⟩ := of_bind_ok prepared.text
          obtain rfl := Except.ok.inj (read.symm.trans sameRead)
          rw [Except.ok.inj written]
          obtain ⟨made, result, after, makes, missing⟩ := Session.writeMany_missing sound
            ((Template.insert first.keys).native .named text) (.positional rows)
          refine ⟨made, result, after, makes, fun key index fails => ?_⟩
          obtain ⟨statement, compiles, unbound⟩ := missing key index fails
          obtain rfl := Except.ok.inj ((prepared.compiles s.style).symm.trans compiles)
          have binds := Statement.bindEach_same (prepared.binds s.style) rows 0
          cases unbound.symm.trans binds

end Table

namespace Operation

variable {s : Session σ} {operation : Operation} {style : ParamStyle} {key : String}

/-- A missing value is a fault like the others. -/
theorem Misses.faulty {position : Nat} (misses : operation.Misses style key position) :
    operation.Faulty style := by
  cases misses with
  | bound compiles records earlier missing =>
      rename_i sql batch statement before after record
      have filled : batch.isEmpty = false := by
        rw [← Bool.not_eq_true, Batch.isEmpty_iff, records]
        simp
      have given : (writeMany sql batch).given? = some (sql, batch.records) :=
        if_neg (by simp [filled])
      have member : record ∈ batch.records := by simp [records]
      exact .incomplete given compiles member (Statement.incomplete_iff.mpr ⟨key, missing⟩)
  | column records earlier missing =>
      obtain ⟨name, column, lacks⟩ := Statement.exists_firstUnset.mp ⟨key, missing⟩
      refine .uncovered rfl ?_ column lacks
      simp [records]

/-- A missing parameter of a batch is that of its first faulty record. -/
theorem misses_of_run (sound : s.Sound) (isBatch : operation.IsBatch) {index : Option Nat}
    (fails : (ending operation.run s).1 = .error (.missingParameter key index)) :
    ∃ position, index = some position ∧ operation.Misses s.style key position := by
  cases operation with
  | writeMany sql batch =>
      obtain ⟨made, result, after, makes, missing⟩ := Session.writeMany_missing sound sql batch
      obtain ⟨told, ended⟩ := makes.ends
      rw [run, ended] at fails
      obtain ⟨statement, compiles, unbound⟩ := missing key index fails
      rcases statement.bindBatch_cases batch with ⟨⟨rows, binds⟩, -⟩ | found
      · cases binds.symm.trans unbound
      · obtain ⟨before, record, after, first, records, earlier, misses, error⟩ := found
        cases error.symm.trans unbound
        exact ⟨_, rfl, .bound compiles records earlier misses⟩
  | insertMany table records =>
      obtain ⟨made, result, after, makes, missing⟩ :
          ∃ made result after, Session.Makes (insertMany table records).run
              (insertMany table records).run s made result after ∧
            ∀ key index, result = .error (.missingParameter key index) →
              ∃ first ∈ records.head?,
                Table.project records first.keys = .error (.missingParameter key index) := by
        apply Session.Makes.exists_check
        · rintro e refused key index ⟨⟩
          exact absurd refused (Table.named_ne_missing table key index)
        · intro t named
          exact Table.insertMany_missing sound named records
      obtain ⟨told, ended⟩ := makes.ends
      rw [ended] at fails
      obtain ⟨first, begins, unprojected⟩ := missing key index fails
      obtain ⟨rest, rfl⟩ := List.head?_eq_some_iff.mp begins
      rcases Table.project_cases (first :: rest) first.keys with ⟨⟨rows, projected⟩, -⟩ | found
      · cases projected.symm.trans unprojected
      · obtain ⟨before, record, after, lacking, records, earlier, misses, error⟩ := found
        cases error.symm.trans unprojected
        exact ⟨_, rfl, .column records earlier misses⟩
  | _ => cases isBatch

/-- An idle operation affects no rows and makes no call. -/
theorem idle_run (idle : operation.Idle) :
    Session.Makes operation.run operation.run s [] (.ok 0) s := by
  cases operation with
  | writeMany sql batch => exact Session.writeMany_idle sql idle
  | execute sql args =>
      rcases args with _ | record | batch
      · cases idle
      · cases idle
      · exact Session.writeMany_idle sql idle
  | insertMany table records =>
      obtain ⟨rfl, name, parses⟩ := idle
      exact (Session.Makes.check (Table.named_of_parse parses) s).bind (SqlBind.Makes.pure 0 s)
  | merge table records unique =>
      obtain ⟨rfl, nonempty, name, parses⟩ := idle
      let t : Table := ⟨name⟩
      have merges : Session.Makes (t.merge [] unique) (t.merge [] unique) s [] (.ok ⟨0, 0⟩) s := by
        rw [Table.merge_nil nonempty, Table.merge_nil nonempty]
        exact SqlBind.Makes.pure _ s
      exact (Session.Makes.check (Table.named_of_parse parses) s).bind
        (merges.bind (SqlBind.Makes.pure 0 s))
  | _ => cases idle

end Operation

end SqlBind

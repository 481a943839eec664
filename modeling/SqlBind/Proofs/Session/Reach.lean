import SqlBind.Proofs.Session.Refusals

/-!
Owns: operations without a fault. What was found wrong before the first call is all that keeps an
operation from the driver, unless it has nothing to write.

Main statement: an operation is refused without a call exactly if it is faulty, with an error that
names the first record and key at fault in a batch (`faults_precede_all_calls`).
-/

set_option autoImplicit false

namespace SqlBind

open Execution (ending)

variable {σ α : Type}

/-! ### Accepted writes -/

namespace Operation

section Faultless

variable {operation : Operation} {style : ParamStyle} (faultless : ¬ operation.Faulty style)

include faultless

private theorem readable_of_faultless : Table.Readable operation.names := by
  intro name listed
  rcases parses : Ident.parse name with fault | ident
  · exact absurd (.unreadable listed parses) faultless
  · exact ⟨ident, rfl⟩

private theorem covers_of_faultless {first : KeyedRecord} {rest : List KeyedRecord}
    (rows : operation.rows = first :: rest) :
    ∀ record ∈ first :: rest, Table.Covers first.keys record :=
  fun _ member _ column lacks => faultless (.uncovered rows member column lacks)

private theorem not_hollow_of_faultless : ¬ operation.Hollow :=
  fun empty => faultless (.hollow empty)

/-- The records of a write without a fault are accepted. -/
theorem accepted_of_faultless {table : String} {write : TableWrite}
    (writes : operation.tableWrite? = some (table, write)) :
    (∃ ident, Ident.parse table = .ok ident) ∧ write.Accepted := by
  have full := not_hollow_of_faultless faultless
  have readable := readable_of_faultless faultless
  cases operation with
  | insertOne table record =>
      cases writes
      obtain ⟨named, columns⟩ := List.forall_mem_cons.mp readable
      exact ⟨named, Bool.eq_false_iff.mpr full, columns⟩
  | delete table condition =>
      cases writes
      obtain ⟨named, columns⟩ := List.forall_mem_cons.mp readable
      exact ⟨named, Bool.eq_false_iff.mpr full, columns⟩
  | update table condition changes =>
      cases writes
      obtain ⟨named, columns⟩ := List.forall_mem_cons.mp readable
      obtain ⟨changed, conditioned⟩ := List.forall_mem_append.mp columns
      exact ⟨named, ⟨Bool.eq_false_iff.mpr full, changed⟩, conditioned⟩
  | insertMany table records =>
      cases writes
      rcases records with _ | ⟨first, rest⟩
      · exact ⟨readable table List.mem_cons_self, nofun⟩
      · obtain ⟨named, columns⟩ := List.forall_mem_cons.mp readable
        refine ⟨named, ?_⟩
        rintro _ ⟨⟩
        have filled : first.isEmpty = false :=
          Bool.eq_false_iff.mpr fun empty => full ⟨first, rfl, empty⟩
        exact ⟨⟨filled, columns⟩, covers_of_faultless faultless rfl⟩
  | merge table records unique =>
      cases writes
      obtain ⟨someUnique, someColumns⟩ := not_or.mp full
      rcases records with _ | ⟨first, rest⟩
      · exact ⟨readable table List.mem_cons_self, someUnique, nofun⟩
      · obtain ⟨named, columns⟩ := List.forall_mem_cons.mp readable
        refine ⟨named, someUnique, ?_⟩
        rintro _ ⟨⟩
        have filled : first.isEmpty = false :=
          Bool.eq_false_iff.mpr fun empty => someColumns ⟨first, rfl, empty⟩
        have held : ∀ name ∈ unique, name ∈ first.keys := by
          intro name listed
          by_contra lacks
          exact faultless (.foreign rfl listed lacks)
        exact ⟨⟨filled, (List.forall_mem_append.mp columns).2⟩, held,
          covers_of_faultless faultless rfl⟩
  | _ => cases writes

/-- A text that is given with records compiles. -/
theorem compiles_of_faultless {sql : String} {records : List Record}
    (given : operation.given? = some (sql, records)) :
    ∃ statement, compile sql style = .ok statement ∧
      ∀ record ∈ records, ¬ statement.Incomplete record := by
  have sound : .malformed ∉ Sql.tokens sql.toList := fun colon => faultless (.malformed given colon)
  have compiles := Sql.compile_of_sound sound style
  exact ⟨_, compiles, fun record member lacks =>
    faultless (.incomplete given compiles member lacks)⟩

end Faultless

end Operation

/-! ### Calls -/

theorem Delivers.ne_nil {sql : String} {batch : List Row} {calls : List Exchange}
    (delivers : Delivers sql batch calls) : calls ≠ [] := by
  obtain ⟨first, later, rfl, -⟩ := delivers.begins
  exact List.cons_ne_nil first later

namespace Session

variable {s : Session σ}

theorem executeOnce_calls (s : Session σ) (sql : String) (row : Row) :
    calls (executeOnce sql row) s ≠ [] := by
  obtain ⟨made, result, after, makes, -, written⟩ := executeOnce_makes s sql row
  rw [makes.calls_eq]
  exact written.delivers.ne_nil

private theorem write_calls (sound : s.Sound) {sql : String} {statement : Statement}
    {record : Record} (compiles : SqlBind.compile sql s.style = .ok statement)
    (complete : ¬ statement.Incomplete record) : calls (write sql record) s ≠ [] := by
  obtain ⟨row, binds⟩ := Statement.exists_bind complete
  obtain ⟨made, result, after, makes, -, written⟩ := write_makes sound compiles binds
  rw [makes.calls_eq]
  exact written.delivers.ne_nil

private theorem writeMany_calls (sound : s.Sound) {sql : String} {statement : Statement}
    {batch : Batch} (compiles : SqlBind.compile sql s.style = .ok statement)
    (filled : batch.isEmpty = false)
    (complete : ∀ record ∈ batch.records, ¬ statement.Incomplete record) :
    calls (writeMany sql batch) s ≠ [] := by
  obtain ⟨rows, binds⟩ := Statement.exists_bindBatch complete
  obtain ⟨after, makes, -⟩ := writeMany_makes sound compiles binds filled
  have nonempty : rows ≠ [] := by
    rintro rfl
    rw [Statement.bindBatch_eq] at binds
    have none := List.length_eq_zero_iff.mp (Statement.length_bindEach binds).symm
    rw [← Batch.isEmpty_iff, filled] at none
    contradiction
  rw [makes.calls_eq]
  exact (Execution.batchCourse_delivers s.driver statement.sql sound.positive nonempty
    s.channel.conn).ne_nil

/-- A check that passes makes no call. -/
theorem calls_check {checked : Except DbError α} {value : α} {β : Type}
    (next : α → SessionAction (Recorded σ) β) (s : Session σ) (passes : checked = .ok value) :
    calls (check checked >>= next) s = calls (next value) s := by
  subst passes
  rfl

theorem calls_map {β : Type} (action : SessionAction (Recorded σ) α) (outcome : α → β)
    (s : Session σ) : calls (do return outcome (← action)) s = calls action s := by
  have leaves : (ending (do return outcome (← action)) (s.noting #[])).2 =
      (ending action (s.noting #[])).2 := by
    simp only [ending, bind, EStateM.bind]
    cases action (s.noting #[]) <;> rfl
  rw [calls, leaves, calls]

end Session

/-- An accepted write with a statement to send sends it. -/
theorem TableWrite.calls_ne_nil {s : Session σ} (sound : s.Sound) {table : String} {t : Table}
    (named : Table.named table = .ok t) {write : TableWrite} (accepted : write.Accepted)
    (some : write.templates ≠ []) : write.calls t s ≠ [] := by
  obtain ⟨bound, templates, -, serves⟩ := TableWrite.serves sound accepted fun template member =>
    Table.Template.prepared (TableWrite.readable accepted template member) named
  have nonempty : bound ≠ [] := by
    rintro rfl
    exact some templates.symm
  obtain ⟨first, later, begins, -⟩ := serves.begins nonempty
  rw [begins]
  exact List.cons_ne_nil first later

namespace Operation

variable {s : Session σ} {operation : Operation}

/-- Without a fault, what is to be written reaches the driver. -/
theorem calls_ne_nil (sound : s.Sound) (faultless : ¬ operation.Faulty s.style)
    (busy : ¬ operation.Idle) : Session.calls operation.run s ≠ [] := by
  have readable := readable_of_faultless faultless
  have table : ∀ {name : String} {write : TableWrite},
      operation.tableWrite? = some (name, write) → write.templates ≠ [] →
      ∃ t, Table.named name = .ok t ∧ write.calls t s ≠ [] := by
    intro name write writes some
    obtain ⟨⟨ident, parses⟩, accepted⟩ := accepted_of_faultless faultless writes
    have named := Table.named_of_parse parses
    exact ⟨_, named, TableWrite.calls_ne_nil sound named accepted some⟩
  cases operation with
  | write sql record =>
      obtain ⟨statement, compiles, complete⟩ := compiles_of_faultless faultless rfl
      exact Session.write_calls sound compiles (complete record List.mem_cons_self)
  | writeMany sql batch =>
      have filled : batch.isEmpty = false := Bool.eq_false_iff.mpr busy
      obtain ⟨statement, compiles, complete⟩ :=
        compiles_of_faultless faultless (if_neg (by simp [filled]))
      exact Session.writeMany_calls sound compiles filled complete
  | execute sql args =>
      rcases args with _ | record | batch
      · exact Session.executeOnce_calls s sql []
      · rcases filled : record.isEmpty with _ | _
        · obtain ⟨statement, compiles, complete⟩ :=
            compiles_of_faultless faultless (if_neg (by simp [filled]))
          simp only [run, Session.execute, filled]
          exact Session.write_calls sound compiles (complete record List.mem_cons_self)
        · simp only [run, Session.execute, filled, if_true]
          exact Session.executeOnce_calls s sql []
      · have filled : batch.isEmpty = false := Bool.eq_false_iff.mpr busy
        obtain ⟨statement, compiles, complete⟩ :=
          compiles_of_faultless faultless (if_neg (by simp [filled]))
        exact Session.writeMany_calls sound compiles filled complete
  | insertOne name record =>
      obtain ⟨t, named, called⟩ := table rfl (List.cons_ne_nil _ _)
      rw [run, Session.calls_check _ s named]
      exact called
  | insertMany name records =>
      rcases records with _ | ⟨first, rest⟩
      · exact absurd ⟨rfl, readable name List.mem_cons_self⟩ busy
      · obtain ⟨t, named, called⟩ := table rfl (List.cons_ne_nil _ _)
        rw [run, Session.calls_check _ s named]
        exact called
  | update name condition changes =>
      obtain ⟨t, named, called⟩ := table rfl (List.cons_ne_nil _ _)
      rw [run, Session.calls_check _ s named]
      exact called
  | delete name condition =>
      obtain ⟨t, named, called⟩ := table rfl (List.cons_ne_nil _ _)
      rw [run, Session.calls_check _ s named]
      exact called
  | merge name records unique =>
      rcases records with _ | ⟨first, rest⟩
      · have someUnique : unique ≠ [] := fun none => faultless (.hollow (Or.inl none))
        exact absurd ⟨rfl, someUnique, readable name List.mem_cons_self⟩ busy
      · obtain ⟨t, named, called⟩ := table rfl (List.cons_ne_nil _ _)
        rw [run, Session.calls_check _ s named, Session.calls_map]
        exact called
  | deleteAll name =>
      obtain ⟨ident, parses⟩ := readable name List.mem_cons_self
      rw [run, Session.calls_check _ s (Table.named_of_parse parses)]
      exact Session.executeOnce_calls s _ []
  | commit =>
      have same := Session.calls_map Session.commit (fun _ => 0) s
      have makes : Session.Makes Session.commit Session.commit s _ _ _ := Session.commit_makes rfl
      rw [makes.calls_eq] at same
      exact same.trans_ne (List.cons_ne_nil _ _)
  | rollback =>
      have same := Session.calls_map Session.rollback (fun _ => 0) s
      have makes : Session.Makes Session.rollback Session.rollback s _ _ _ :=
        Session.Makes.onChannel (Channel.perform_makes .rollback (fun _ => 0) rfl)
      rw [makes.calls_eq] at same
      exact same.trans_ne (List.cons_ne_nil _ _)

end Operation

/-- An operation that is faulty in any way fails without a call and leaves the connection as it was.
A missing parameter of a batch is that of the first record with one, with its position, and the
first key that it misses. Without any record a batch reports no rows, without a call and without
compiling; only the log may tell of it. Every other operation reaches the driver. -/
theorem faults_precede_all_calls {s : Session σ} (sound : s.Sound) (operation : Operation) :
    (operation.Faulty s.style →
      Session.calls operation.run s = [] ∧ (∃ e, (ending operation.run s).1 = .error e) ∧
        (ending operation.run s).2.channel.conn = s.channel.conn) ∧
      (∀ key index, operation.IsBatch →
        (ending operation.run s).1 = .error (.missingParameter key index) →
        Session.calls operation.run s = [] ∧
          ∃ position, index = some position ∧ operation.Misses s.style key position) ∧
      (operation.Idle → Session.calls operation.run s = [] ∧
        ∃ told, ending operation.run s = (.ok 0, s.logging told)) ∧
      (Session.calls operation.run s = [] → operation.Faulty s.style ∨ operation.Idle) := by
  have refused : operation.Faulty s.style → Session.Refuses operation.run operation.run s :=
    fun faulty => Operation.refuses_run sound.faithful faulty
  refine ⟨fun faulty => (refused faulty).result, ?_, ?_, ?_⟩
  · intro key index isBatch fails
    obtain ⟨position, place, misses⟩ := Operation.misses_of_run sound isBatch fails
    exact ⟨(refused misses.faulty).result.1, position, place, misses⟩
  · intro idle
    have makes : Session.Makes operation.run operation.run s [] (.ok 0) s := Operation.idle_run idle
    exact ⟨makes.calls_eq, makes.ends⟩
  · intro uncalled
    by_contra neither
    obtain ⟨faultless, busy⟩ := not_or.mp neither
    exact Operation.calls_ne_nil sound faultless busy uncalled

/-- The last of three records lacks a column of the first, so none of them is sent. -/
theorem faults_precede_all_calls_late :
    let d := Scripted.driver .qmark Row.describe
    let s : Session ScriptedState :=
      ⟨d, { executor := { chunkSize := 1 } }, Compiler.withCache .qmark 0, ⟨.start {}, #[]⟩⟩
    let full : Int64 → KeyedRecord := fun i => .ofList [("a", .int i), ("b", .int i)]
    let operation := Operation.insertMany "t" [full 1, full 2, .ofList [("a", .int 3)]]
    s.Sound ∧ operation.IsBatch ∧ operation.Faulty .qmark ∧
      Session.calls operation.run s = [] ∧
      (ending operation.run s).1 = .error (.missingParameter "b" (some 2)) ∧
      operation.Misses .qmark "b" 2 := by
  intro d s full operation
  have opened : Session.withConfig d s.channel.conn s.config = .ok s := rfl
  have sound := Session.sound_withConfig opened
  have isBatch : operation.IsBatch := trivial
  have fails : (ending operation.run s).1 = .error (.missingParameter "b" (some 2)) := by rfl
  obtain ⟨-, missing, -⟩ := faults_precede_all_calls sound operation
  obtain ⟨uncalled, position, place, misses⟩ := missing "b" (some 2) isBatch fails
  cases place
  exact ⟨sound, isBatch, misses.faulty, uncalled, fails, misses⟩

end SqlBind

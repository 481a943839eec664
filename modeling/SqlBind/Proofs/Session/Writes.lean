import SqlBind.Proofs.Batch.Coverage
import SqlBind.Proofs.Batch.Discipline
import SqlBind.Proofs.Session.Calls

/-!
Owns: the driver calls of the writes of a session, and what these calls carry. A statement that
compiles and binds is executed with the rows that were bound, and with nothing else.

Main statements: a single write does to the driver what `Written` says (`write_makes`), a batch has
the calls of its course (`writeMany_makes`), and every execution carries a stretch of the bound rows
(`Written.delivers`, `batchCourse_delivers`, `Sent.delivers`).
-/

set_option autoImplicit false

namespace SqlBind

open Execution (ending Ran Sent batchCourse JournalEntry)

variable {σ α : Type}

/-! ### Batches with commits and retries -/

namespace Execution

private theorem run_makes (d : Driver σ) {config : ExecutorConfig} (sql : String) (rows : List Row)
    (positive : 0 < config.chunkSize) (conn : σ) :
    Channel.Makes (run d config sql rows) (run d.recorded config sql rows) conn
      ((batchCourse d config sql rows conn).journal.flatMap (JournalEntry.exchanges config))
      (batchCourse d config sql rows conn).outcome (batchCourse d config sql rows conn).conn where
  plain := run_ends d sql rows positive conn
  noted earlier := by
    have ended := run_ends d.recorded sql rows positive ⟨conn, earlier⟩
    simp only [batchCourse, course_recorded] at ended
    exact ended

end Execution

/-! ### Writes -/

namespace Session

/-- What a single write does to the driver: it is executed and, if the settings say so, committed,
or it fails and everything is rolled back. -/
inductive Written (d : Driver σ) (autocommits : Bool) (sql : String) (row : Row) (conn : σ) :
    List Exchange → Except DbError Nat → σ → Prop where
  | failed {made : List Exchange} {e : DbError} {after : σ}
      (ran : Ran d sql row conn made (.error e) after) :
      Written d autocommits sql row conn made (.error e) after
  | pending {made : List Exchange} {count : Nat} {after : σ} (mode : autocommits = false)
      (ran : Ran d sql row conn made (.ok count) after) :
      Written d autocommits sql row conn made (.ok count) after
  | settled {made : List Exchange} {count : Nat} {answer : Except DbError Unit} {middle after : σ}
      (mode : autocommits = true) (ran : Ran d sql row conn made (.ok count) middle)
      (settled : ending d.commit middle = (answer, after)) :
      Written d autocommits sql row conn (made ++ [⟨.commit, answer.map fun _ => 0⟩])
        (answer.map fun _ => count) after

variable {s : Session σ}

/-- A commit is one call, and its answer is the session's. -/
theorem commit_makes {answer : Except DbError Unit} {conn : σ}
    (settled : ending s.driver.commit s.channel.conn = (answer, conn)) :
    Makes commit commit s [⟨.commit, answer.map fun _ => 0⟩] answer (s.onConn conn) :=
  Makes.onChannel (Channel.perform_makes .commit (fun _ => 0) settled)

private theorem autocommit_makes_off (mode : s.config.autocommit = false) :
    Makes autocommit autocommit s [] (.ok ()) s := by
  apply Makes.configured fun _ config => if config.autocommit then commit else pure ()
  simp only [mode, Bool.false_eq_true, if_false]
  exact SqlBind.Makes.pure () s

private theorem autocommit_makes_on (mode : s.config.autocommit = true)
    {answer : Except DbError Unit} {conn : σ}
    (settled : ending s.driver.commit s.channel.conn = (answer, conn)) :
    Makes autocommit autocommit s [⟨.commit, answer.map fun _ => 0⟩] answer (s.onConn conn) := by
  apply Makes.configured fun _ config => if config.autocommit then commit else pure ()
  simp only [mode, if_true]
  exact commit_makes settled

/-- A single execution does what `Written` says and leaves the session as it was otherwise. -/
theorem executeOnce_makes (s : Session σ) (sql : String) (row : Row) :
    ∃ made result after, Makes (executeOnce sql row) (executeOnce sql row) s made result after ∧
      s.Continues after ∧
      Written s.driver s.config.autocommit sql row s.channel.conn made result
        after.channel.conn := by
  obtain ⟨made, result, middle, runs, ran⟩ :=
    Execution.runOne_makes s.driver sql row s.channel.conn
  have first : Makes (onChannel fun d => Execution.runOne d sql row)
      (onChannel fun d => Execution.runOne d sql row) s made result (s.onConn middle) :=
    Makes.onChannel runs
  have continues := continues_onConn s middle
  cases result with
  | error e => exact ⟨made, .error e, _, first.bind_error, continues, .failed ran⟩
  | ok count =>
      cases mode : s.config.autocommit with
      | false =>
          have keeps := autocommit_makes_off (s := s.onConn middle) mode
          have whole : Makes (executeOnce sql row) (executeOnce sql row) s (made ++ ([] ++ []))
              (.ok count) (s.onConn middle) :=
            first.bind (keeps.andThen (SqlBind.Makes.pure count _))
          rw [List.append_nil, List.append_nil] at whole
          exact ⟨made, .ok count, _, whole, continues, .pending rfl ran⟩
      | true =>
          cases settled : ending s.driver.commit middle with
          | mk answer conn =>
              have commits := autocommit_makes_on (s := s.onConn middle) mode settled
              have written := Written.settled rfl ran settled
              have continues := continues.trans (continues_onConn (s.onConn middle) conn)
              cases answer with
              | error e => exact ⟨_, _, _, first.bind commits.bind_error, continues, written⟩
              | ok =>
                  have whole : Makes (executeOnce sql row) (executeOnce sql row) s
                      (made ++ ([⟨.commit, .ok 0⟩] ++ [])) (.ok count) _ :=
                    first.bind (commits.andThen (SqlBind.Makes.pure count _))
                  exact ⟨_, _, _, whole, continues, written⟩

/-- A single write, once it compiles and binds. -/
theorem write_makes (sound : s.Sound) {sql : String} {statement : Statement} {record : Record}
    {row : Row} (compiles : SqlBind.compile sql s.style = .ok statement)
    (binds : statement.bind record = .ok row) :
    ∃ made result after, Makes (write sql record) (write sql record) s made result after ∧
      s.Continues after ∧
      Written s.driver s.config.autocommit statement.sql row s.channel.conn made result
        after.channel.conn := by
  let compiled : Session σ := { s with compiler := (s.compiler.compile sql).2 }
  obtain ⟨made, result, after, makes, continues, written⟩ :=
    executeOnce_makes compiled statement.sql row
  refine ⟨made, result, after, ?_, (continues_compile s sql).trans continues, written⟩
  exact (Makes.compile sound.faithful compiles).bind ((Makes.check binds compiled).bind makes)

/-- A batch, once it compiles and binds. -/
theorem writeMany_makes (sound : s.Sound) {sql : String} {statement : Statement} {batch : Batch}
    {rows : List Row} (compiles : SqlBind.compile sql s.style = .ok statement)
    (binds : statement.bindBatch batch = .ok rows) (filled : batch.isEmpty = false) :
    let course := batchCourse s.driver s.config.executor statement.sql rows s.channel.conn
    ∃ after, Makes (writeMany sql batch) (writeMany sql batch) s
        (course.journal.flatMap (JournalEntry.exchanges s.config.executor)) course.outcome after ∧
      s.Continues after ∧ after.channel.conn = course.conn := by
  intro course
  have runs := Execution.run_makes s.driver statement.sql rows sound.positive s.channel.conn
  let compiled : Session σ := { s with compiler := (s.compiler.compile sql).2 }
  refine ⟨compiled.onConn course.conn, ?_,
    (continues_compile s sql).trans (continues_onConn compiled course.conn), rfl⟩
  unfold writeMany
  simp only [filled, Bool.false_eq_true, if_false]
  refine (Makes.compile sound.faithful compiles).bind ((Makes.check binds compiled).bind ?_)
  exact Makes.configured
    (fun _ config => onChannel fun d => Execution.run d config.executor statement.sql rows)
    (Makes.onChannel runs)

end Session

/-! ### What calls carry -/

/-- A call that executes a statement does so with consecutive rows of a batch, at least one. -/
def Call.Carries (sql : String) (batch : List Row) : Call → Prop
  | one text row => text = sql ∧ [row] <:+: batch
  | many text rows => text = sql ∧ rows ≠ [] ∧ rows <:+: batch
  | rollback => True
  | commit => True

@[simp] theorem Call.carries_rollback (sql : String) (batch : List Row) :
    Call.rollback.Carries sql batch := trivial

@[simp] theorem Call.carries_commit (sql : String) (batch : List Row) :
    Call.commit.Carries sql batch := trivial

/-- Calls that begin with an execution, all of them with rows of a batch. -/
structure Delivers (sql : String) (batch : List Row) (calls : List Exchange) : Prop where
  begins : ∃ first later, calls = first :: later ∧ first.call.executes = true
  carries : ∀ exchange ∈ calls, exchange.call.Carries sql batch

/-- Calls that carry rows of the batch may follow. -/
theorem Delivers.append {sql : String} {batch : List Row} {calls later : List Exchange}
    (delivers : Delivers sql batch calls)
    (rest : ∀ exchange ∈ later, exchange.call.Carries sql batch) :
    Delivers sql batch (calls ++ later) where
  begins := by
    obtain ⟨first, others, rfl, executes⟩ := delivers.begins
    exact ⟨first, others ++ later, rfl, executes⟩
  carries := List.forall_mem_append.mpr ⟨delivers.carries, rest⟩

namespace Execution

open Trial (rollbackExchange)

variable {d : Driver σ} {config : ExecutorConfig} {sql : String} {batch : List Row}

/-- A single execution delivers its row. -/
theorem Ran.delivers {row : Row} {conn after : σ} {made : List Exchange}
    {result : Except DbError Nat} (ran : Ran d sql row conn made result after) :
    Delivers sql [row] made := by
  cases ran with
  | succeeded executed => exact ⟨⟨_, _, rfl, rfl⟩, by simp [Call.Carries]⟩
  | failed executed undone =>
      exact ⟨⟨_, _, rfl, rfl⟩, by simp [Call.Carries, rollbackExchange]⟩

theorem Sent.carries {chunkSize start applied : Nat} {rows : List Row} {conn after : σ}
    {made : List Exchange} {result : Except DbError Nat} (positive : 0 < chunkSize)
    (sent : Sent d sql chunkSize start applied rows conn made result after)
    (held : rows <:+: batch) : ∀ exchange ∈ made, exchange.call.Carries sql batch := by
  -- What is sent at a time is the head of what is left, and that is a stretch of the batch.
  have filled : ∀ {rows : List Row}, rows ≠ [] → rows.take chunkSize ≠ [] := by
    intro rows nonempty none
    rcases List.take_eq_nil_iff.mp none with zero | empty
    · omega
    · exact nonempty empty
  induction sent with
  | done start applied conn => nofun
  | sent nonempty executed rest inductionHypothesis =>
      have chunk := (List.take_prefix chunkSize _).isInfix.trans held
      have later := inductionHypothesis ((List.drop_suffix chunkSize _).isInfix.trans held)
      exact List.forall_mem_cons.mpr ⟨⟨rfl, filled nonempty, chunk⟩, later⟩
  | failed nonempty executed undone =>
      have chunk := (List.take_prefix chunkSize _).isInfix.trans held
      simp [Call.Carries, rollbackExchange, chunk, filled nonempty]

/-- Sending in chunks delivers consecutive rows of the batch. -/
theorem Sent.delivers {chunkSize start applied : Nat} {conn after : σ} {made : List Exchange}
    {result : Except DbError Nat} (positive : 0 < chunkSize)
    (sent : Sent d sql chunkSize start applied batch conn made result after)
    (nonempty : batch ≠ []) : Delivers sql batch made := by
  refine ⟨?_, sent.carries positive List.infix_rfl⟩
  cases sent with
  | done start applied conn => exact absurd rfl nonempty
  | sent _ executed rest => exact ⟨_, _, rfl, rfl⟩
  | failed _ executed undone => exact ⟨_, _, rfl, rfl⟩

theorem JournalEntry.carries {entry : JournalEntry} (holds : entry.call.Carries sql batch)
    (config : ExecutorConfig) :
    ∀ exchange ∈ entry.exchanges config, exchange.call.Carries sql batch := by
  unfold JournalEntry.exchanges
  cases entry.trial with
  | applied count =>
      simp only [Trial.exchanges]
      split <;> simp [holds]
  | uncommitted count e rollback => simp [Trial.exchanges, rollbackExchange, holds]
  | failed e rollback => simp [Trial.exchanges, rollbackExchange, holds]

/-- A task carries consecutive rows of the batch. -/
theorem Task.carries {task : Task} (holds : task.rows <+: batch.drop task.start) (sql : String) :
    (task.call sql).Carries sql batch := by
  have within := (List.drop_suffix task.start batch).isInfix
  cases task with
  | chunks stretch =>
      have filled := List.length_pos_iff.mp stretch.length_chunk_pos
      exact ⟨rfl, filled, (Stretch.chunk_prefix holds).isInfix.trans within⟩
  | records range index row rest =>
      have first : [row] <+: row :: rest := ⟨rest, rfl⟩
      exact ⟨rfl, (first.trans holds).isInfix.trans within⟩

private theorem journal_ne_nil (task : Task) (rest : List Task) (progress : Progress) (conn : σ) :
    (course d config sql (task :: rest) progress conn).journal ≠ [] := by
  cases tried : Trial.ofDriver d config (task.execution d sql) conn with
  | mk trial after =>
      cases advanced : task.advance config progress trial with
      | error e =>
          rw [course_stop tried advanced]
          exact List.cons_ne_nil _ _
      | ok next =>
          rw [course_continue tried advanced]
          exact List.cons_ne_nil _ _

/-- Whatever is tried again, in whatever chunks, a batch delivers its rows. -/
theorem batchCourse_delivers (d : Driver σ) (sql : String) (positive : 0 < config.chunkSize)
    (nonempty : batch ≠ []) (conn : σ) :
    Delivers sql batch ((batchCourse d config sql batch conn).journal.flatMap
      (JournalEntry.exchanges config)) := by
  have held : ∀ entry ∈ (batchCourse d config sql batch conn).journal,
      entry.call.Carries sql batch ∧ entry.call.executes = true :=
    course_entries (fun task _ _ holds => ⟨Task.carries holds sql, task.call_executes sql⟩) d _ _
      conn 0 (tiles_ofBatch config positive batch)
  have filled : (batchCourse d config sql batch conn).journal ≠ [] := by
    rw [batchCourse, Task.ofBatch_of_ne positive nonempty]
    exact journal_ne_nil _ _ _ conn
  constructor
  · obtain ⟨entry, later, journal⟩ := List.exists_cons_of_ne_nil filled
    obtain ⟨answer, rest, split⟩ := entry.head_exchanges config
    have executes := (held entry (journal ▸ List.mem_cons_self)).2
    rw [journal, List.flatMap_cons, split]
    exact ⟨_, _, rfl, executes⟩
  · intro exchange member
    obtain ⟨entry, inJournal, noted⟩ := List.mem_flatMap.mp member
    exact JournalEntry.carries (held entry inJournal).1 config exchange noted

end Execution

theorem Session.Written.delivers {d : Driver σ} {autocommits : Bool} {sql : String} {row : Row}
    {conn after : σ} {made : List Exchange} {result : Except DbError Nat}
    (written : Session.Written d autocommits sql row conn made result after) :
    Delivers sql [row] made := by
  cases written with
  | failed ran => exact ran.delivers
  | pending mode ran => exact ran.delivers
  | settled mode ran settled => exact ran.delivers.append (by simp)

end SqlBind

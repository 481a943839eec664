import SqlBind.Proofs.Batch.Accounting
import SqlBind.Proofs.Session.Writes

/-!
Owns: writes of a single record that fail after they reached the driver. The execution itself is
cleaned up by a rollback; the automatic commit after it is not.

Main statements: a failed single write ends with a rollback unless it was the automatic commit that
failed (`failed_single_write_is_undone_or_uncommitted`), and in that case its row stays pending, so
that a later commit makes durable what was reported as failed
(`failed_autocommit_leaves_row_pending`).
-/

set_option autoImplicit false

namespace SqlBind

open Execution (ending afterRollback Counters Transactional of_ending_ok of_ending_error
  scriptedCounters scripted_transactional)
open Execution.Trial (rollbackExchange)

namespace Session

variable {σ α : Type}

inductive SingleWrite where
  | write (sql : String) (record : Record)
  /-- Executing with the arguments of one record. -/
  | execute (sql : String) (record : Record)
  /-- Executing without arguments. -/
  | bare (sql : String)

def SingleWrite.run : SingleWrite → SessionAction σ Nat
  | write sql record => Session.write sql record
  | execute sql record => Session.execute sql (.one record)
  | bare sql => Session.execute sql .none

/-- What a single write does to the driver: nothing if it is refused before, else what `Written`
says of some statement and some row. -/
inductive Attempted (d : Driver σ) (autocommits : Bool) (conn : σ) :
    List Exchange → Except DbError Nat → σ → Prop where
  | refused (e : DbError) : Attempted d autocommits conn [] (.error e) conn
  | written {sql : String} {row : Row} {made : List Exchange} {result : Except DbError Nat}
      {after : σ} (written : Written d autocommits sql row conn made result after) :
      Attempted d autocommits conn made result after

section Attempts

variable (s : Session σ)

/-- A single execution reaches the driver, with or without a commit behind it. -/
theorem executeOnce_attempts (sql : String) (row : Row) :
    ∃ made result after, Makes (executeOnce sql row) (executeOnce sql row) s made result after ∧
      Attempted s.driver s.config.autocommit s.channel.conn made result after.channel.conn := by
  obtain ⟨made, result, after, makes, -, written⟩ := executeOnce_makes s sql row
  exact ⟨made, result, after, makes, .written written⟩

private theorem write_attempts (sql : String) (record : Record) :
    ∃ made result after, Makes (write sql record) (write sql record) s made result after ∧
      Attempted s.driver s.config.autocommit s.channel.conn made result after.channel.conn := by
  let compiled : Session σ := { s with compiler := (s.compiler.compile sql).2 }
  have compiles := Makes.compileStored s sql
  cases answer : (s.compiler.compile sql).1 with
  | error e =>
      rw [answer] at compiles
      exact ⟨[], .error e, compiled, compiles.bind_error, .refused e⟩
  | ok statement =>
      rw [answer] at compiles
      have rest : ∃ made result after,
          Makes (Session.check (statement.bind record) >>= executeOnce statement.sql)
            (Session.check (statement.bind record) >>= executeOnce statement.sql) compiled made
            result after ∧
          Attempted s.driver s.config.autocommit s.channel.conn made result after.channel.conn :=
        Makes.exists_check (fun e _ => .refused e)
          (fun row _ => executeOnce_attempts compiled statement.sql row)
      obtain ⟨made, result, after, makes, attempted⟩ := rest
      exact ⟨made, result, after, compiles.bind makes, attempted⟩

private theorem SingleWrite.attempts (operation : SingleWrite) :
    ∃ made result after, Makes operation.run operation.run s made result after ∧
      Attempted s.driver s.config.autocommit s.channel.conn made result after.channel.conn := by
  cases operation with
  | write sql record => exact write_attempts s sql record
  | bare sql => exact executeOnce_attempts s sql []
  | execute sql record =>
      simp only [SingleWrite.run, Session.execute]
      split
      · exact executeOnce_attempts s sql []
      · exact write_attempts s sql record

end Attempts

/-- The open transaction is empty and no row became durable. -/
structure Cleared (counters : Counters σ) (conn after : σ) : Prop where
  pending : counters.pending after = 0
  committed : counters.committed after = counters.committed conn

/-- How a single write fails after it reached the driver. -/
inductive WriteFailed (d : Driver σ) (autocommits : Bool) (conn : σ) :
    List Exchange → DbError → σ → Prop where
  /-- The execution failed. The rollback after it is the last call, and its own failure is
  attached. -/
  | undone {sql : String} {row : Row} {cause : DbError} {rollback : Except DbError Unit} {after : σ}
      (cleared : ∀ counters, Transactional d counters → rollback = .ok () →
        Cleared counters conn after) :
      WriteFailed d autocommits conn [⟨.one sql row, .error cause⟩, rollbackExchange rollback]
        (afterRollback cause rollback) after
  /-- The automatic commit failed. It is the last call, and nothing is undone. -/
  | uncommitted {sql : String} {row : Row} {count : Nat} {e : DbError} {middle after : σ}
      (mode : autocommits = true) (settled : ending d.commit middle = (.error e, after))
      (pending : ∀ counters, Transactional d counters →
        counters.pending middle = counters.pending conn + count ∧
          counters.committed after = counters.committed conn) :
      WriteFailed d autocommits conn [⟨.one sql row, .ok count⟩, ⟨.commit, .error e⟩] e after

private theorem Written.failed_cases {d : Driver σ} {autocommits : Bool} {sql : String} {row : Row}
    {conn after : σ} {made : List Exchange} {e : DbError}
    (written : Written d autocommits sql row conn made (.error e) after) :
    WriteFailed d autocommits conn made e after := by
  generalize fails : Except.error e = result at written
  cases written with
  | pending mode ran => cases fails
  | failed ran =>
      cases fails
      cases ran with
      | failed executed undone =>
          apply WriteFailed.undone
          rintro counters transactional rfl
          have kept := (transactional.one _ _).error (of_ending_error executed)
          have back := transactional.rollback_ok (of_ending_ok undone)
          exact ⟨back.1, back.2.trans kept⟩
  | settled mode ran settled =>
      rename_i answer _
      cases answer with
      | ok => cases fails
      | error fault =>
          cases fails
          cases ran with
          | succeeded executed =>
              apply WriteFailed.uncommitted mode settled
              intro counters transactional
              have added := (transactional.one _ _).ok (of_ending_ok executed)
              have kept := transactional.commit_error (of_ending_error settled)
              exact ⟨added.1, kept.trans added.2⟩

/-- A single write that fails after it reached the driver was rolled back, and then nothing is
pending if the rollback worked, or else its automatic commit failed. -/
theorem failed_single_write_is_undone_or_uncommitted (operation : SingleWrite) (s : Session σ)
    {e : DbError} (fails : (ending operation.run s).1 = .error e)
    (called : calls operation.run s ≠ []) :
    WriteFailed s.driver s.config.autocommit s.channel.conn (calls operation.run s) e
      (ending operation.run s).2.channel.conn := by
  obtain ⟨made, result, after, makes, attempted⟩ := operation.attempts s
  obtain ⟨told, ended⟩ := makes.ends
  rw [makes.calls_eq] at called ⊢
  rw [ended] at fails ⊢
  cases fails
  show WriteFailed _ _ _ made e after.channel.conn
  generalize after.channel.conn = conn at attempted ⊢
  cases attempted with
  | refused e => exact absurd rfl called
  | written written => exact written.failed_cases

/-- The database rejects the record of a session that commits its writes. -/
theorem failed_single_write_is_undone_or_uncommitted_rejected :
    let d := Scripted.driver .qmark Row.describe
    let conn := { ScriptedState.start { bad := [1] } with pending := 3 }
    let s : Session ScriptedState :=
      ⟨d, { autocommit := true }, Compiler.new .qmark, ⟨conn, #[]⟩⟩
    let operation := SingleWrite.write "insert into t values (:id)" (.positional [.int 1])
    let made := calls operation.run s
    (ending operation.run s).1.isOk = false ∧
      made.map (fun exchange => exchange.answer.isOk) = [false, true] ∧
      ∃ e, WriteFailed d true conn made e (ending operation.run s).2.channel.conn := by
  intro d conn s operation made
  have two : made.map (fun exchange => exchange.answer.isOk) = [false, true] := by decide +kernel
  have failed : (ending operation.run s).1.isOk = false := by decide +kernel
  refine ⟨failed, two, ?_⟩
  cases fails : (ending operation.run s).1 with
  | ok count =>
      rw [fails] at failed
      cases failed
  | error e =>
      refine ⟨e, failed_single_write_is_undone_or_uncommitted operation s fails ?_⟩
      intro none
      rw [show made = calls operation.run s from rfl, none] at two
      cases two

/-- If the automatic commit fails, no rollback follows: the write is reported as failed, its row is
still pending, and the next commit makes it durable. -/
theorem failed_autocommit_leaves_row_pending :
    let d := Scripted.driver .qmark Row.describe
    let conn := ScriptedState.start { commitsBeforeFailure := some 0 }
    let s : Session ScriptedState :=
      ⟨d, { autocommit := true }, Compiler.new .qmark, ⟨conn, #[]⟩⟩
    let operation := SingleWrite.write "insert into t values (:id)" (.positional [.int 1])
    let refused : DbError := CommitFault.conflict.error
    let left := (ending operation.run s).2.channel.conn
    Transactional d scriptedCounters ∧ scriptedCounters.pending conn = 0 ∧
      (ending operation.run s).1 = .error refused ∧
      calls operation.run s =
        [⟨.one "insert into t values (?)" [.int 1], .ok 1⟩, ⟨.commit, .error refused⟩] ∧
      scriptedCounters.pending left = 1 ∧
      scriptedCounters.committed (ending d.commit (left.withScript {})).2 = 1 :=
  ⟨scripted_transactional .qmark Row.describe, rfl, rfl, rfl, rfl, rfl⟩

end Session

end SqlBind

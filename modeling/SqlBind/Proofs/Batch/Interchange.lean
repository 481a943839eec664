import Mathlib.Algebra.Ring.Nat
import SqlBind.Proofs.Batch.Accounting

/-!
Owns: batches on drivers that differ in how they execute many rows. One driver checks all rows
before it enters any; the other executes them one by one and leaves the rows before a rejected one
in the open transaction. The batch rolls back after every failure, so it cannot tell them apart.

Main statement: the two drivers get the same calls and give the same outcome and the same durable
rows; only a rollback that fails leaves them with different open transactions
(`atomic_and_looping_agree`).
-/

set_option autoImplicit false

namespace SqlBind

/-! ### Drivers that judge rows by a rule -/

/-- How commits and rollbacks end, by an own state that only they change. -/
structure Schedule (ω : Type) where
  commit : EStateM DbError ω Unit
  rollback : EStateM DbError ω Unit

/-- A connection that counts the rows of its open transaction and the durable ones. -/
structure Tally (ω : Type) where
  pending : Nat
  committed : Nat
  schedule : ω
deriving Repr

namespace Tally

variable {ω : Type}

def enter (result : Except DbError Nat) : EStateM DbError (Tally ω) Nat := fun t =>
  match result with
  | .ok count => .ok count { t with pending := t.pending + count }
  | .error e => .error e t

/-- The driver for which every row has the result that `rule` gives. It checks the rows of a chunk
in order and enters their sum only if all of them succeed. -/
def driver (style : ParamStyle) (rule : Row → Except DbError Nat) (schedule : Schedule ω) :
    Driver (Tally ω) where
  style := style
  executeOne _ row := enter (rule row)
  executeMany _ rows := enter ((rows.mapM rule).map List.sum)
  rollback t :=
    match schedule.rollback t.schedule with
    | .ok () later => .ok () ⟨0, t.committed, later⟩
    | .error e later => .error e { t with schedule := later }
  commit t :=
    match schedule.commit t.schedule with
    | .ok () later => .ok () ⟨0, t.committed + t.pending, later⟩
    | .error e later => .error e { t with schedule := later }

end Tally

namespace Execution

variable {σ ω : Type}

section Rules

variable (style : ParamStyle) {rule : Row → Except DbError Nat} (schedule : Schedule ω)

private theorem ending_executeOne_ok {row : Row} {count : Nat} (judged : rule row = .ok count)
    (sql : String) (t : Tally ω) :
    ending ((Tally.driver style rule schedule).executeOne sql row) t =
      (.ok count, { t with pending := t.pending + count }) := by
  simp [Tally.driver, Tally.enter, ending, judged]

private theorem ending_executeOne_error {row : Row} {e : DbError} (judged : rule row = .error e)
    (sql : String) (t : Tally ω) :
    ending ((Tally.driver style rule schedule).executeOne sql row) t = (.error e, t) := by
  simp [Tally.driver, Tally.enter, ending, judged]

/-- Rows that all succeed are entered one by one as they are at once. -/
theorem ending_executeEach_ok (sql : String) {rows : List Row} {counts : List Nat}
    (judged : rows.mapM rule = .ok counts) (total : Nat) (t : Tally ω) :
    ending (Driver.executeEach (Tally.driver style rule schedule).executeOne sql total rows) t =
      (.ok (total + counts.sum), { t with pending := t.pending + counts.sum }) := by
  induction rows generalizing total t counts with
  | nil =>
      cases judged
      rfl
  | cons row rest inductionHypothesis =>
      rw [List.mapM_cons] at judged
      cases first : rule row with
      | error e => simp [first, bind, Except.bind] at judged
      | ok count =>
          cases others : rest.mapM rule with
          | error e => simp [first, others, bind, Except.bind] at judged
          | ok later =>
              simp only [first, others, bind, Except.bind, pure, Except.pure,
                Except.ok.injEq] at judged
              subst judged
              have entered := ending_executeOne_ok style schedule first sql t
              rw [Driver.executeEach, ending_bind_ok entered, inductionHypothesis others]
              simp [Nat.add_assoc]

/-- A rejected row ends both ways of executing rows, with the same error. One by one, the rows
before it are pending then. -/
theorem ending_executeEach_error (sql : String) {rows : List Row} {e : DbError}
    (judged : rows.mapM rule = .error e) (total : Nat) (t : Tally ω) :
    ∃ pending,
      ending (Driver.executeEach (Tally.driver style rule schedule).executeOne sql total rows) t =
        (.error e, { t with pending := pending }) := by
  induction rows generalizing total t with
  | nil => cases judged
  | cons row rest inductionHypothesis =>
      rw [List.mapM_cons] at judged
      cases first : rule row with
      | error other =>
          simp only [first, bind, Except.bind, Except.error.injEq] at judged
          subst judged
          exact ⟨t.pending, ending_bind_error (ending_executeOne_error style schedule first sql t)⟩
      | ok count =>
          cases others : rest.mapM rule with
          | ok later => simp [first, others, bind, Except.bind, pure, Except.pure] at judged
          | error other =>
              simp only [first, others, bind, Except.bind, Except.error.injEq] at judged
              subst judged
              have entered := ending_executeOne_ok style schedule first sql t
              rw [Driver.executeEach, ending_bind_ok entered]
              exact inductionHypothesis others _ _

end Rules

/-! ### Drivers in step -/

/-- Two trials that go the same way. The connections after them are equal or, if the rollback after
a failed execution failed too, strayed from each other. -/
def Alike (strayed : σ → σ → Prop) (left right : Trial × σ) : Prop :=
  left.1 = right.1 ∧
    (left.2 = right.2 ∨
      strayed left.2 right.2 ∧ ∃ e lost, left.1 = .failed e (.error lost))

/-- Two courses that go the same way, so far as a batch can tell. -/
structure InStride (strayed : σ → σ → Prop) (config : ExecutorConfig) (left right : Course σ) :
    Prop where
  journal : left.journal = right.journal
  result : left.result = right.result
  conn : left.conn = right.conn ∨
    strayed left.conn right.conn ∧
      RollbackLost (left.journal.flatMap (JournalEntry.exchanges config))

theorem InStride.cons {strayed : σ → σ → Prop} {config : ExecutorConfig} {left right : Course σ}
    (inStride : InStride strayed config left right) (entry : JournalEntry) :
    InStride strayed config (left.cons entry) (right.cons entry) where
  journal := congrArg (entry :: ·) inStride.journal
  result := inStride.result
  conn := inStride.conn.imp id fun strayed => ⟨strayed.1, strayed.2.cons entry⟩

/-- A batch does not go on after a failed rollback. -/
theorem Task.not_goesOn_lost {config : ExecutorConfig} {task : Task} {progress next : Progress}
    {tasks : List Task} {e lost : DbError} :
    ¬ Task.GoesOn config progress task (.failed e (.error lost)) tasks next := by
  intro goesOn
  cases goesOn

/-- Drivers whose trials go the same way make the whole batch go the same way. -/
theorem course_inStride {d d' : Driver σ} {config : ExecutorConfig} {sql : String}
    {strayed : σ → σ → Prop}
    (alike : ∀ (task : Task) (conn : σ),
      Alike strayed (Trial.ofDriver d config (task.execution d sql) conn)
        (Trial.ofDriver d' config (task.execution d' sql) conn))
    (tasks : List Task) (progress : Progress) (conn : σ) :
    InStride strayed config (course d config sql tasks progress conn)
      (course d' config sql tasks progress conn) := by
  fun_induction course d config sql tasks progress conn with
  | case1 progress conn =>
      rw [course_nil]
      exact ⟨rfl, rfl, Or.inl rfl⟩
  | case2 task rest progress conn trial after tried e advanced =>
      have same := alike task conn
      cases other : Trial.ofDriver d' config (task.execution d' sql) conn with
      | mk trial' after' =>
          rw [tried, other] at same
          obtain ⟨rfl, conns⟩ := same
          rw [course_stop other advanced]
          refine ⟨rfl, rfl, conns.imp id ?_⟩
          rintro ⟨strays, e, lost, rfl⟩
          refine ⟨strays, lost, ?_⟩
          simp [JournalEntry.exchanges, Task.entry, Trial.exchanges, Trial.rollbackExchange,
            Except.map]
  | case3 task rest progress conn trial after tried tasks next advanced inductionHypothesis =>
      have same := alike task conn
      cases other : Trial.ofDriver d' config (task.execution d' sql) conn with
      | mk trial' after' =>
          rw [tried, other] at same
          obtain ⟨rfl, conns⟩ := same
          rw [course_continue other advanced]
          rcases conns with rfl | ⟨-, e, lost, rfl⟩
          · exact inductionHypothesis.cons _
          · exact absurd (Task.goesOn advanced) Task.not_goesOn_lost

/-! ### Atomic and looping execution -/

section Batches

variable (style : ParamStyle) (rule : Row → Except DbError Nat) (schedule : Schedule ω)

/-- The same rows are durable, and the schedule is in the same state. -/
def SameButPending (left right : Tally ω) : Prop :=
  left.committed = right.committed ∧ left.schedule = right.schedule

/-- A failed execution followed by a rollback, which undoes whatever was pending. -/
theorem failed_alike (config : ExecutorConfig) {left right : EStateM DbError (Tally ω) Nat}
    {e : DbError} {t : Tally ω} {pending : Nat} (atOnce : ending left t = (.error e, t))
    (oneByOne : ending right t = (.error e, { t with pending := pending })) :
    let d := Tally.driver style rule schedule
    Alike SameButPending (Trial.ofDriver d config left t) (Trial.ofDriver d.looping config right t)
    := by
  intro d
  rw [trial_of_error d config atOnce, trial_of_error d.looping config oneByOne]
  simp only [d, Driver.looping, Tally.driver, ending]
  cases answer : schedule.rollback t.schedule with
  | ok undone later => simp [Alike]
  | error lost later => simp [Alike, SameButPending]

private theorem trials_alike (config : ExecutorConfig) (sql : String) (task : Task) (t : Tally ω) :
    let d := Tally.driver style rule schedule
    Alike SameButPending (Trial.ofDriver d config (task.execution d sql) t)
      (Trial.ofDriver d.looping config (task.execution d.looping sql) t) := by
  intro d
  cases task with
  | records range index row rest => exact ⟨rfl, Or.inl rfl⟩
  | chunks stretch =>
      cases judged : stretch.chunk.mapM rule with
      | ok counts =>
          have atOnce : ending (d.executeMany sql stretch.chunk) t =
              (.ok counts.sum, { t with pending := t.pending + counts.sum }) := by
            simp [d, Tally.driver, Tally.enter, ending, judged, Except.map]
          have oneByOne := ending_executeEach_ok style schedule sql judged 0 t
          rw [Nat.zero_add] at oneByOne
          have same : Trial.ofDriver d config (d.executeMany sql stretch.chunk) t =
              Trial.ofDriver d.looping config (d.looping.executeMany sql stretch.chunk) t := by
            unfold Trial.ofDriver
            rw [atOnce, show ending (d.looping.executeMany sql stretch.chunk) t = _ from oneByOne]
            rfl
          exact ⟨congrArg Prod.fst same, Or.inl (congrArg Prod.snd same)⟩
      | error e =>
          have atOnce : ending (d.executeMany sql stretch.chunk) t = (.error e, t) := by
            simp [d, Tally.driver, Tally.enter, ending, judged, Except.map]
          obtain ⟨pending, oneByOne⟩ := ending_executeEach_error style schedule sql judged 0 t
          exact failed_alike style rule schedule config atOnce oneByOne

private theorem run_of_no_chunks (d : Driver σ) {config : ExecutorConfig}
    (none : config.chunkSize = 0) (sql : String) (rows : List Row) (channel : Channel σ) :
    ending (run d config sql rows) channel =
      (.error (.config "chunk_size must be positive"), channel) := by
  simp only [run, ExecutorConfig.validate, none, if_true]
  rfl

end Batches

/-- Checking all rows of a chunk before any is entered, or executing them one by one up to the first
error, makes no difference to a batch: it makes the same calls and gets the same answers, ends in
the same outcome and leaves the same rows durable. The rows that are left pending are the same too,
unless a rollback failed. -/
theorem atomic_and_looping_agree (style : ParamStyle) (rule : Row → Except DbError Nat)
    (schedule : Schedule ω) (config : ExecutorConfig) (sql : String) (rows : List Row)
    (channel : Channel (Tally ω)) :
    let d := Tally.driver style rule schedule
    let atomic := ending (run d config sql rows) channel
    let looping := ending (run d.looping config sql rows) channel
    let calls := exchanges d config sql rows channel.conn
    calls = exchanges d.looping config sql rows channel.conn ∧
      atomic.1 = looping.1 ∧ atomic.2.conn.committed = looping.2.conn.committed ∧
      (atomic.2.conn.pending = looping.2.conn.pending ∨ RollbackLost calls) := by
  intro d atomic looping calls
  by_cases none : config.chunkSize = 0
  · simp [calls, atomic, looping, exchanges, run_of_no_chunks _ none]
  · have positive : 0 < config.chunkSize := Nat.pos_of_ne_zero none
    have agree : InStride SameButPending config (batchCourse d config sql rows channel.conn)
        (batchCourse d.looping config sql rows channel.conn) :=
      course_inStride (trials_alike style rule schedule config sql) _ _ _
    have sameCalls : calls = exchanges d.looping config sql rows channel.conn := by
      simp only [calls]
      rw [exchanges_eq_journal d sql rows positive, agree.journal,
        exchanges_eq_journal d.looping sql rows positive]
    obtain ⟨told, atomicEnds⟩ := run_ends d sql rows positive channel.conn channel.log
    obtain ⟨toldToo, loopingEnds⟩ := run_ends d.looping sql rows positive channel.conn channel.log
    change atomic = _ at atomicEnds
    change looping = _ at loopingEnds
    rw [atomicEnds, loopingEnds]
    refine ⟨sameCalls, congrArg (· >>= Progress.verdict) agree.result, ?_⟩
    rcases agree.conn with same | ⟨⟨committed, -⟩, lost⟩
    · exact ⟨congrArg Tally.committed same, Or.inl (congrArg Tally.pending same)⟩
    · rw [← exchanges_eq_journal d sql rows positive] at lost
      exact ⟨committed, Or.inr lost⟩

/-- A rollback that fails leaves the row before the rejected one pending, if rows are executed one
by one. -/
example :
    let rule : Row → Except DbError Nat
      | [.null] => .error (.query "null" none)
      | _ => .ok 1
    let schedule : Schedule Unit := ⟨pure (), throw (.query "lost" none)⟩
    let d := Tally.driver .qmark rule schedule
    let channel : Channel (Tally Unit) := ⟨⟨0, 0, ()⟩, #[]⟩
    let rows : List Row := [[.int 1], [.null]]
    ((ending (run d { chunkSize := 2 } "insert" rows) channel).2.conn.pending,
      (ending (run d.looping { chunkSize := 2 } "insert" rows) channel).2.conn.pending) = (0, 1) :=
  by decide +kernel

end Execution

end SqlBind

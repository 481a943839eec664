import Mathlib.Data.List.Flatten
import Mathlib.Data.List.Infix
import Mathlib.Data.List.Nodup
import Mathlib.Data.List.Perm.Basic
import SqlBind.Driver.Scripted
import SqlBind.Proofs.Batch.Agreement

/-!
Owns: which records of a batch are settled, and in which order. The tasks that are left always tile
the records that are not settled yet (`Tiles`), so every trial settles the records that come next,
or none.

Main statement: whatever the driver answers, the records that are executed and those that are set
aside make up, without repetition, all records before the place where the batch stopped
(`batch_settles_each_record_once`).
-/

set_option autoImplicit false

namespace SqlBind.Execution

variable {σ : Type}

/-! ### Tasks that tile the rest of a batch -/

namespace Task

/-- The records that a task has left. -/
def rows : Task → List Row
  | chunks stretch => stretch.records
  | records _ _ row rest => row :: rest

def start : Task → Nat
  | chunks stretch => stretch.start
  | records _ index _ _ => index

/-- A task sends at most `limit` records at once; single records are the end of their chunk. -/
def Fits (limit : Nat) : Task → Prop
  | chunks stretch => stretch.chunkSize ≤ limit
  | records range index _ rest =>
      range.start ≤ index ∧ index + (rest.length + 1) = range.stop ∧
        range.stop ≤ range.start + limit

end Task

/-- The tasks have the records `start`, …, `stop - 1` of the batch left, in order. -/
def Tiles (limit : Nat) (batch : List Row) (start stop : Nat) : List Task → Prop
  | [] => start = stop
  | task :: rest =>
      task.start = start ∧ task.Fits limit ∧ task.rows <+: batch.drop start ∧
        Tiles limit batch (start + task.rows.length) stop rest

section Tiling

variable {limit : Nat} {batch : List Row}

/-- Tasks that meet at a record tile the records of both. -/
theorem Tiles.append {left right : List Task} {start middle stop : Nat}
    (first : Tiles limit batch start middle left) (second : Tiles limit batch middle stop right) :
    Tiles limit batch start stop (left ++ right) := by
  induction left generalizing start with
  | nil =>
      cases first
      exact second
  | cons task rest inductionHypothesis =>
      obtain ⟨begins, fits, holds, tiles⟩ := first
      exact ⟨begins, fits, holds, inductionHypothesis tiles⟩

private theorem tiles_ofRecords {range : ChunkRange} {index : Nat} {rows : List Row}
    (after : range.start ≤ index) (complete : index + rows.length = range.stop)
    (short : range.stop ≤ range.start + limit) (holds : rows <+: batch.drop index) :
    Tiles limit batch index (index + rows.length) (Task.ofRecords range index rows) := by
  cases rows with
  | nil => rfl
  | cons row rest => exact ⟨rfl, ⟨after, complete, short⟩, holds, rfl⟩

theorem Stretch.length_records (stretch : Stretch) :
    stretch.records.length =
      stretch.chunk.length + (stretch.records.drop stretch.chunkSize).length := by
  simp only [Stretch.chunk, List.length_take, List.length_drop]
  omega

theorem tiles_remaining {stretch : Stretch} (fits : stretch.chunkSize ≤ limit)
    (holds : stretch.records <+: batch.drop stretch.start) :
    Tiles limit batch (stretch.start + stretch.chunk.length)
      (stretch.start + stretch.records.length) (stretch.remaining.map Task.chunks) := by
  have split := Stretch.length_records stretch
  simp only [Stretch.remaining]
  by_cases nonempty : stretch.records.drop stretch.chunkSize ≠ []
  · have whole : stretch.chunk.length = stretch.chunkSize := by
      have longer := List.length_pos_iff.mpr nonempty
      simp only [List.length_drop] at longer
      simp only [Stretch.chunk, List.length_take]
      omega
    have later := List.IsPrefix.drop holds stretch.chunkSize
    rw [List.drop_drop] at later
    rw [dif_pos nonempty]
    refine ⟨rfl, fits, by rw [whole]; exact later, ?_⟩
    show stretch.start + stretch.chunk.length + (stretch.records.drop stretch.chunkSize).length =
      stretch.start + stretch.records.length
    omega
  · rw [dif_neg nonempty]
    rw [Decidable.not_not] at nonempty
    rw [nonempty, List.length_nil] at split
    show stretch.start + stretch.chunk.length = stretch.start + stretch.records.length
    omega

theorem Stretch.chunk_prefix {stretch : Stretch}
    (holds : stretch.records <+: batch.drop stretch.start) :
    stretch.chunk <+: batch.drop stretch.start :=
  (List.take_prefix _ _).trans holds

/-- A chunk holds no more records than its size says. -/
theorem Stretch.length_chunk_le (stretch : Stretch) : stretch.chunk.length ≤ stretch.chunkSize := by
  simp only [Stretch.chunk, List.length_take]
  omega

theorem threshold_lt_of_large {stretch : Stretch} (large : stretch.isSmall = false) :
    perRecordThreshold < stretch.chunkSize := by
  simp only [Stretch.isSmall, Bool.or_eq_false_iff, decide_eq_false_iff_not] at large
  omega

private theorem shrink_le_of_large {stretch : Stretch} (large : stretch.isSmall = false) :
    shrink stretch.chunkSize stretch.width ≤ stretch.chunkSize := by
  have smaller := shrink_add_two_le stretch.chunkSize stretch.width (threshold_lt_of_large large)
  omega

/-! ### What a trial settles -/

/-- The records that an entry settles, executed or set aside. -/
def JournalEntry.settled (policy : FailurePolicy) (entry : JournalEntry) : List Nat :=
  entry.applied ++ entry.isolated policy

theorem JournalEntry.isolated_applied (policy : FailurePolicy) (sql : String) (task : Task)
    (count : Nat) : (task.entry sql (.applied count)).isolated policy = [] := by
  cases policy with
  | abort => rfl
  | isolate => cases task <;> rfl

/-- An execution that succeeded settles all that it carried. -/
theorem JournalEntry.settled_applied (policy : FailurePolicy) (sql : String) (task : Task)
    (count : Nat) :
    (task.entry sql (.applied count)).settled policy = task.place.indices := by
  rw [JournalEntry.settled, JournalEntry.isolated_applied, List.append_nil]
  rfl

/-- A chunk that failed settles nothing: its records are tried again, or the batch ends. -/
theorem JournalEntry.settled_chunk_failed (policy : FailurePolicy) (sql : String)
    (stretch : Stretch) (e : DbError) (rollback : Except DbError Unit) :
    ((Task.chunks stretch).entry sql (.failed e rollback)).settled policy = [] := by
  cases policy <;> rfl

/-- A record that the database rejected is settled if rejected records are set aside. -/
theorem JournalEntry.settled_isolated (sql : String) (range : ChunkRange) (index : Nat) (row : Row)
    (rest : List Row) {e : DbError} (retryable : e.isRetryable = true) :
    ((Task.records range index row rest).entry sql (.failed e (.ok ()))).settled .isolate =
      [index] := by
  simp only [JournalEntry.settled, JournalEntry.applied, JournalEntry.isolated, Task.entry,
    Task.place, retryable, if_true, List.nil_append]

/-- A trial settles the next records, or none, and the tasks after it tile the others. -/
theorem Task.GoesOn.settles {config : ExecutorConfig} {progress next : Progress} {task : Task}
    {trial : Trial} {tasks : List Task} (goesOn : Task.GoesOn config progress task trial tasks next)
    (sql : String) (fits : task.Fits limit) (holds : task.rows <+: batch.drop task.start) :
    ∃ count,
      (task.entry sql trial).settled config.failurePolicy = List.range' task.start count ∧
      Tiles limit batch (task.start + count) (task.start + task.rows.length) tasks := by
  have singles : ∀ {range : ChunkRange} {index : Nat} {row : Row} {rest : List Row},
      (Task.records range index row rest).Fits limit →
      row :: rest <+: batch.drop index →
      Tiles limit batch (index + 1) (index + (row :: rest).length)
        (Task.ofRecords range (index + 1) rest) := by
    intro range index row rest fits holds
    obtain ⟨after, complete, short⟩ := fits
    have later := List.IsPrefix.drop holds 1
    rw [List.drop_drop] at later
    have ends : index + (row :: rest).length = index + 1 + rest.length := by
      rw [List.length_cons]
      omega
    rw [ends]
    exact tiles_ofRecords (by omega) (by omega) short later
  cases goesOn with
  | applied task count =>
      rw [JournalEntry.settled_applied]
      cases task with
      | chunks stretch =>
          refine ⟨stretch.chunk.length, ?_, tiles_remaining fits holds⟩
          show List.range' stretch.start (stretch.start + stretch.chunk.length - stretch.start) =
            List.range' stretch.start stretch.chunk.length
          rw [Nat.add_sub_cancel_left]
      | records range index row rest => exact ⟨1, rfl, singles fits holds⟩
  | single stretch retryable small =>
      refine ⟨0, JournalEntry.settled_chunk_failed _ _ _ _ _, ?_⟩
      have short := Stretch.length_chunk_le stretch
      have inside : stretch.range.stop ≤ stretch.range.start + limit := by
        simp only [Task.Fits] at fits
        simp only [Stretch.range]
        omega
      have first : Tiles limit batch stretch.start (stretch.start + stretch.chunk.length)
          (Task.ofRecords stretch.range stretch.start stretch.chunk) :=
        tiles_ofRecords (Nat.le_refl _) rfl inside (Stretch.chunk_prefix holds)
      exact first.append (tiles_remaining fits holds)
  | smaller stretch retryable large =>
      refine ⟨0, JournalEntry.settled_chunk_failed _ _ _ _ _, rfl, ?_, ?_, ?_⟩
      · exact (shrink_le_of_large large).trans fits
      · exact Stretch.chunk_prefix holds
      · exact tiles_remaining fits holds
  | isolated range index row rest retryable policy =>
      refine ⟨1, ?_, singles fits holds⟩
      rw [policy]
      exact JournalEntry.settled_isolated sql range index row rest retryable

/-! ### Where a batch stops -/

/-- The record and the chunk at which a batch stopped, by its error. -/
def faultPlace : DbError → Option (Option Nat × ChunkRange)
  | .execution index chunk _ _ _ => some (some index, chunk)
  | .interrupted index chunk _ _ => some (index, chunk)
  | .rollbackFailed e _ => faultPlace e
  | _ => none

theorem faultPlace_afterRollback {e : DbError} {place : Option Nat × ChunkRange}
    (placed : faultPlace e = some place) (rollback : Except DbError Unit) :
    faultPlace (afterRollback e rollback) = some place := by
  cases rollback <;> exact placed

private theorem Task.Stops.faultPlace_eq {config : ExecutorConfig} {progress : Progress}
    {task : Task} {trial : Trial} {e : DbError} (stops : Task.Stops config progress task trial e) :
    faultPlace e = some (task.place.index?, task.place.range) := by
  cases stops with
  | uncommitted task count e rollback => exact faultPlace_afterRollback rfl rollback
  | broken task rollback fatal => exact faultPlace_afterRollback rfl rollback
  | lost task rollback retryable => cases task <;> rfl
  | aborted range index row rest retryable policy => rfl

/-- The trial that ends a batch settles no record. -/
theorem Task.Stops.settled {config : ExecutorConfig} {progress : Progress} {task : Task}
    {trial : Trial} {e : DbError} (stops : Task.Stops config progress task trial e)
    (sql : String) : (task.entry sql trial).settled config.failurePolicy = [] := by
  cases stops with
  | uncommitted task count e rollback =>
      cases config.failurePolicy <;> cases task <;> rfl
  | broken task rollback fatal =>
      cases config.failurePolicy with
      | abort => rfl
      | isolate =>
          cases task with
          | chunks stretch => rfl
          | records range index row rest =>
              cases rollback with
              | error lost => rfl
              | ok => simp [JournalEntry.settled, JournalEntry.applied, JournalEntry.isolated,
                  Task.entry, Task.place, fatal]
  | lost task rollback retryable =>
      cases config.failurePolicy <;> cases task <;> rfl
  | aborted range index row rest retryable policy =>
      rw [policy]
      rfl

/-- A chunk of a batch of `size` records that holds a record, if one is named. -/
structure WellPlaced (limit size : Nat) (index? : Option Nat) (chunk : ChunkRange) : Prop where
  nonempty : chunk.start < chunk.stop
  within : chunk.stop ≤ size
  short : chunk.stop ≤ chunk.start + limit
  holds : ∀ index, index? = some index → chunk.start ≤ index ∧ index < chunk.stop

/-- The next trial of a task names a chunk of the batch, and the record that it begins with. -/
theorem Task.wellPlaced {task : Task} (fits : task.Fits limit)
    (holds : task.rows <+: batch.drop task.start) :
    WellPlaced limit batch.length task.place.index? task.place.range ∧
      task.place.index?.getD task.place.range.start = task.start := by
  have bound := holds.length_le
  rw [List.length_drop] at bound
  cases task with
  | chunks stretch =>
      have nonempty := stretch.length_chunk_pos
      have short := Stretch.length_chunk_le stretch
      have split := Stretch.length_records stretch
      simp only [Task.Fits, Task.rows, Task.start] at fits bound
      refine ⟨⟨?_, ?_, ?_, ?_⟩, rfl⟩
      · simp only [Task.place, Place.range, Stretch.range]
        omega
      · simp only [Task.place, Place.range, Stretch.range]
        omega
      · simp only [Task.place, Place.range, Stretch.range]
        omega
      · intro index named
        cases named
  | records range index row rest =>
      obtain ⟨after, complete, short⟩ := fits
      simp only [Task.rows, Task.start, List.length_cons] at bound
      refine ⟨⟨?_, ?_, short, ?_⟩, rfl⟩
      · simp only [Task.place, Place.range]
        omega
      · simp only [Task.place, Place.range]
        omega
      · intro other named
        cases named
        simp only [Task.place, Place.range]
        omega

/-- An execution carries the records of its place. -/
theorem Task.call_eq_place {task : Task} (holds : task.rows <+: batch.drop task.start)
    (sql : String) : task.call sql = task.place.call sql batch := by
  cases task with
  | chunks stretch =>
      have taken := List.prefix_iff_eq_take.mp (Stretch.chunk_prefix holds)
      show Call.many sql stretch.chunk = Call.many sql
        ((batch.drop stretch.start).take (stretch.start + stretch.chunk.length - stretch.start))
      rw [Nat.add_sub_cancel_left, ← taken]
  | records range index row rest =>
      obtain ⟨tail, split⟩ := holds
      show Call.one sql row = Call.one sql (batch.getD index [])
      have first : batch[index]? = some row := by
        rw [← List.head?_drop]
        show (batch.drop (Task.records range index row rest).start).head? = some row
        rw [← split]
        rfl
      rw [List.getD_eq_getElem?_getD, first]
      rfl

end Tiling

/-! ### The whole batch -/

/-- A course that begins at the record `start`, with the records `failed` set aside before, settles
the records from there to the place where it stopped, in order. -/
def Covers (config : ExecutorConfig) (batch : List Row) (start : Nat) (failed : List Nat)
    (course : Course σ) : Prop :=
  ∃ count,
    course.journal.flatMap (JournalEntry.settled config.failurePolicy) =
      List.range' start count ∧
    match course.result with
    | .ok progress =>
        start + count = batch.length ∧
          progress.failures.toList.map FailedRecord.index =
            failed ++ course.journal.flatMap (JournalEntry.isolated config.failurePolicy)
    | .error e =>
        ∃ index? chunk, faultPlace e = some (index?, chunk) ∧
          WellPlaced config.chunkSize batch.length index? chunk ∧
          index?.getD chunk.start = start + count

/-- The progress lists what was set aside. -/
theorem Task.GoesOn.failures {config : ExecutorConfig} {progress next : Progress} {task : Task}
    {trial : Trial} {tasks : List Task} (goesOn : Task.GoesOn config progress task trial tasks next)
    (sql : String) :
    next.failures.toList.map FailedRecord.index =
      progress.failures.toList.map FailedRecord.index ++
        (task.entry sql trial).isolated config.failurePolicy := by
  cases goesOn with
  | applied task count => rw [JournalEntry.isolated_applied, List.append_nil]
  | single stretch retryable small =>
      cases config.failurePolicy <;> exact (List.append_nil _).symm
  | smaller stretch retryable large =>
      cases config.failurePolicy <;> exact (List.append_nil _).symm
  | isolated range index row rest retryable policy =>
      simp [policy, retryable, JournalEntry.isolated, Task.entry, Task.place]

private theorem course_covers (d : Driver σ) (config : ExecutorConfig) (sql : String)
    (batch : List Row) (tasks : List Task) (progress : Progress) (conn : σ) (start : Nat)
    (tiles : Tiles config.chunkSize batch start batch.length tasks) :
    Covers config batch start (progress.failures.toList.map FailedRecord.index)
      (course d config sql tasks progress conn) := by
  -- The tasks tile the rest of the batch, so where they begin is how far the batch has come.
  fun_induction course d config sql tasks progress conn generalizing start with
  | case1 progress conn => exact ⟨0, rfl, tiles, (List.append_nil _).symm⟩
  | case2 task rest progress conn trial after tried e advanced =>
      obtain ⟨rfl, fits, holds, -⟩ := tiles
      have stops := Task.stops advanced
      have placed := Task.wellPlaced fits holds
      refine ⟨0, ?_, _, _, stops.faultPlace_eq, placed.1, placed.2⟩
      rw [List.flatMap_singleton]
      exact stops.settled sql
  | case3 task rest progress conn trial after tried tasks next advanced inductionHypothesis =>
      obtain ⟨rfl, fits, holds, tiles⟩ := tiles
      have goesOn := Task.goesOn advanced
      obtain ⟨first, settled, left⟩ := goesOn.settles sql fits holds
      obtain ⟨count, later, ended⟩ := inductionHypothesis (task.start + first) (left.append tiles)
      refine ⟨first + count, ?_, ?_⟩
      · simp only [Course.cons, List.flatMap_cons]
        rw [settled, later, List.range'_append_1]
      · simp only [Course.cons, List.flatMap_cons]
        rw [goesOn.failures sql] at ended
        cases result : (course d config sql (tasks ++ rest) next after).result with
        | ok final =>
            rw [result] at ended
            rw [← Nat.add_assoc, ← List.append_assoc]
            exact ended
        | error e =>
            rw [result] at ended
            rw [← Nat.add_assoc]
            exact ended

/-- What holds of every trial for records of the batch holds of all trials of a course. -/
theorem course_entries {config : ExecutorConfig} {sql : String} {batch : List Row}
    {property : JournalEntry → Prop}
    (each : ∀ (task : Task) (trial : Trial), task.Fits config.chunkSize →
      task.rows <+: batch.drop task.start → property (task.entry sql trial))
    (d : Driver σ) (tasks : List Task) (progress : Progress) (conn : σ) (start : Nat)
    (tiles : Tiles config.chunkSize batch start batch.length tasks) :
    ∀ entry ∈ (course d config sql tasks progress conn).journal, property entry := by
  fun_induction course d config sql tasks progress conn generalizing start with
  | case1 progress conn =>
      intro entry member
      cases member
  | case2 task rest progress conn trial after tried e advanced =>
      obtain ⟨rfl, fits, holds, -⟩ := tiles
      exact List.forall_mem_singleton.mpr (each task trial fits holds)
  | case3 task rest progress conn trial after tried tasks next advanced inductionHypothesis =>
      obtain ⟨rfl, fits, holds, tiles⟩ := tiles
      obtain ⟨first, settled, left⟩ := (Task.goesOn advanced).settles sql fits holds
      have later := inductionHypothesis (task.start + first) (left.append tiles)
      exact List.forall_mem_cons.mpr ⟨each task trial fits holds, later⟩

/-- Every execution of a course carries the records of its place. -/
theorem course_calls (d : Driver σ) (config : ExecutorConfig) (sql : String) (batch : List Row)
    (tasks : List Task) (progress : Progress) (conn : σ) (start : Nat)
    (tiles : Tiles config.chunkSize batch start batch.length tasks) :
    ∀ entry ∈ (course d config sql tasks progress conn).journal,
      entry.call = entry.place.call sql batch :=
  course_entries (fun _ _ _ holds => Task.call_eq_place holds sql) d tasks progress conn start tiles

/-- At first the tasks of a batch have all its records left. -/
theorem tiles_ofBatch (config : ExecutorConfig) (positive : 0 < config.chunkSize)
    (rows : List Row) :
    Tiles config.chunkSize rows 0 rows.length (Task.ofBatch config rows) := by
  by_cases empty : rows = []
  · rw [empty, Task.ofBatch_nil]
    rfl
  · rw [Task.ofBatch_of_ne positive empty]
    refine ⟨rfl, Nat.le_refl _, List.prefix_rfl, ?_⟩
    exact Nat.zero_add rows.length

/-- The records before `stop`, and no others, were executed or set aside. -/
def SettledTo (applied isolated : List Nat) (stop : Nat) : Prop :=
  ∀ index, index ∈ applied ∨ index ∈ isolated ↔ index < stop

/-- What is executed and what is set aside share no record, and each is in ascending order. -/
theorem ascending_of_settled {policy : FailurePolicy} {journal : List JournalEntry} {count : Nat}
    (settled : journal.flatMap (JournalEntry.settled policy) = List.range' 0 count) :
    (journal.flatMap JournalEntry.applied).Pairwise (· < ·) ∧
      (journal.flatMap (JournalEntry.isolated policy)).Pairwise (· < ·) ∧
      (journal.flatMap JournalEntry.applied).Disjoint
        (journal.flatMap (JournalEntry.isolated policy)) ∧
      SettledTo (journal.flatMap JournalEntry.applied)
        (journal.flatMap (JournalEntry.isolated policy)) count := by
  have ascending : (journal.flatMap (JournalEntry.settled policy)).Pairwise (· < ·) := by
    rw [settled]
    exact List.pairwise_lt_range'
  have mixed := List.flatMap_append_perm journal JournalEntry.applied (JournalEntry.isolated policy)
  refine ⟨?_, ?_, ?_, ?_⟩
  · exact ascending.sublist (List.Sublist.flatMap_right _ fun entry _ =>
      List.sublist_append_left _ _)
  · exact ascending.sublist (List.Sublist.flatMap_right _ fun entry _ =>
      List.sublist_append_right _ _)
  · have distinct : (journal.flatMap (JournalEntry.settled policy)).Nodup :=
      ascending.imp Nat.ne_of_lt
    exact List.disjoint_of_nodup_append (mixed.nodup_iff.mpr distinct)
  · intro index
    rw [← List.mem_append, mixed.mem_iff]
    show index ∈ journal.flatMap (JournalEntry.settled policy) ↔ index < count
    rw [settled, List.mem_range'_1]
    omega

/-- No record is lost, executed twice or taken out of order. The journal accounts for every call
that reaches the driver, with the records that the call carries; what was executed and what was set
aside then make up all records before the place where the batch stopped. -/
theorem batch_settles_each_record_once (d : Driver σ) {config : ExecutorConfig}
    (positive : 0 < config.chunkSize) (sql : String) (rows : List Row) (channel : Channel σ) :
    let journal := (batchCourse d config sql rows channel.conn).journal
    let applied := journal.flatMap JournalEntry.applied
    let isolated := journal.flatMap (JournalEntry.isolated config.failurePolicy)
    exchanges d config sql rows channel.conn = journal.flatMap (JournalEntry.exchanges config) ∧
      (∀ entry ∈ journal, entry.call = entry.place.call sql rows) ∧
      applied.Pairwise (· < ·) ∧ applied.Disjoint isolated ∧
      match (ending (run d config sql rows) channel).1 with
      | .ok _ => SettledTo applied isolated rows.length ∧ isolated = []
      | .error (.partialBatch _ failures) =>
          SettledTo applied isolated rows.length ∧ isolated.Pairwise (· < ·) ∧
            failures.map FailedRecord.index = isolated
      | .error e =>
          ∃ index? chunk, faultPlace e = some (index?, chunk) ∧
            WellPlaced config.chunkSize rows.length index? chunk ∧
            SettledTo applied isolated (index?.getD chunk.start) := by
  intro journal applied isolated
  have tiles := tiles_ofBatch config positive rows
  have covers : Covers config rows 0 [] (batchCourse d config sql rows channel.conn) :=
    course_covers d config sql rows _ Progress.start channel.conn 0 tiles
  obtain ⟨count, settled, ended⟩ := covers
  obtain ⟨ascending, inOrder, disjoint, settledTo⟩ := ascending_of_settled settled
  refine ⟨exchanges_eq_journal d sql rows positive channel.conn,
    course_calls d config sql rows _ Progress.start channel.conn 0 tiles, ascending, disjoint, ?_⟩
  obtain ⟨told, ends⟩ := run_ends d sql rows positive channel.conn channel.log
  rw [show channel = ⟨channel.conn, channel.log⟩ from rfl, ends]
  simp only [Course.outcome]
  cases result : (batchCourse d config sql rows channel.conn).result with
  | ok progress =>
      rw [result] at ended
      obtain ⟨whole, listed⟩ := ended
      rw [Nat.zero_add] at whole
      rw [whole] at settledTo
      simp only [Bind.bind, Except.bind, Progress.verdict]
      by_cases none : progress.failures.isEmpty
      · rw [if_pos none]
        rw [Array.isEmpty_iff] at none
        rw [none] at listed
        exact ⟨settledTo, listed.symm⟩
      · rw [if_neg none]
        exact ⟨settledTo, inOrder, listed⟩
  | error e =>
      rw [result] at ended
      obtain ⟨index?, chunk, placed, wellPlaced, stop⟩ := ended
      rw [Nat.zero_add] at stop
      rw [← stop] at settledTo
      simp only [Bind.bind, Except.bind]
      cases e with
      | partialBatch applied failures => cases placed
      | _ => exact ⟨index?, chunk, placed, wellPlaced, settledTo⟩

/-- One record of the first chunk is rejected and set aside. -/
theorem batch_settles_each_record_once_scripted :
    let d := Scripted.driver .qmark Row.describe
    let config : ExecutorConfig := { chunkSize := 2, failurePolicy := .isolate }
    let rows : List Row := [[.int 1], [.int 2], [.int 3], [.int 4]]
    let channel : Channel ScriptedState := ⟨ScriptedState.start { bad := [2] }, #[]⟩
    let journal := (batchCourse d config "insert" rows channel.conn).journal
    let applied := journal.flatMap JournalEntry.applied
    let isolated := journal.flatMap (JournalEntry.isolated config.failurePolicy)
    0 < config.chunkSize ∧ applied = [0, 2, 3] ∧ isolated = [1] ∧ applied.Disjoint isolated ∧
      ∀ entry ∈ journal, entry.call = entry.place.call "insert" rows := by
  refine ⟨by decide, by decide +kernel, by decide +kernel, ?_⟩
  obtain ⟨-, calls, -, disjoint, -⟩ := batch_settles_each_record_once
    (Scripted.driver .qmark Row.describe)
    (show 0 < ExecutorConfig.chunkSize { chunkSize := 2, failurePolicy := .isolate } by decide)
    "insert" [[.int 1], [.int 2], [.int 3], [.int 4]]
    ⟨ScriptedState.start { bad := [2] }, #[]⟩
  exact ⟨disjoint, calls⟩

end SqlBind.Execution

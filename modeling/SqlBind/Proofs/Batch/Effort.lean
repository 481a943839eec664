import Mathlib.Data.Nat.Digits.Lemmas
import SqlBind.Driver.Scripted
import SqlBind.Proofs.Batch.Coverage

/-!
Owns: how much work a batch can cause, whatever the driver answers. Every record pays for the
executions that carry it; a `Tariff` says what an execution costs and what a record that still waits
can have to pay at most. A trial never costs more than what its records have in reserve.

Main statement: a record is sent in at most as many chunks as the chunk size has decimal digits and
at most once alone, so a batch ends after a bounded number of calls
(`work_per_record_is_bounded`).
-/

set_option autoImplicit false

namespace SqlBind.Execution

variable {σ : Type}

/-! ### Shrinking -/

private theorem shrink_le_tenth {chunkSize : Nat} (width : Nat)
    (large : perRecordThreshold < chunkSize) : shrink chunkSize width ≤ chunkSize / 10 := by
  simp only [perRecordThreshold] at large
  simp only [shrink]
  split <;> omega

/-- Shrinking takes at least one digit from the chunk size. -/
theorem length_digits_shrink_lt {chunkSize : Nat} (width : Nat)
    (large : perRecordThreshold < chunkSize) :
    1 + (Nat.digits 10 (shrink chunkSize width)).length ≤ (Nat.digits 10 chunkSize).length := by
  have positive : 0 < chunkSize := Nat.zero_lt_of_lt large
  have tenth := Nat.le_length_digits_le 10 _ _ (shrink_le_tenth width large)
  rw [Nat.digits_of_two_le_of_pos (by decide) positive, List.length_cons]
  omega

/-! ### Tariffs -/

/-- Prices for executions, with reserves that last: what a record holds in reserve while it waits
covers the next execution that carries it and what it needs after that. -/
structure Tariff where
  /-- The price for each record of an execution in bulk. -/
  bulk : Nat
  /-- The price of a single execution. -/
  single : Nat
  /-- The reserve of a record that waits in chunks of a given size. -/
  waiting : Nat → Nat
  /-- The reserve of a record that waits to be sent alone. -/
  alone : Nat
  single_le : single ≤ alone
  bulk_add_alone_le : ∀ {size}, 0 < size → bulk + alone ≤ waiting size
  bulk_add_shrink_le : ∀ {size} (width : Nat), perRecordThreshold < size →
    bulk + waiting (shrink size width) ≤ waiting size

def Task.indices (task : Task) : List Nat := List.range' task.start task.rows.length

namespace Tariff

/-- What each record pays for an execution. -/
def price (tariff : Tariff) : Place → Nat
  | .chunk _ => tariff.bulk
  | .record _ _ => tariff.single

def reserve (tariff : Tariff) : Task → Nat
  | .chunks stretch => tariff.waiting stretch.chunkSize
  | .records _ _ _ _ => tariff.alone

/-- What the records that `counts` selects pay for an execution. -/
def cost (tariff : Tariff) (counts : Nat → Bool) (place : Place) : Nat :=
  tariff.price place * place.indices.countP counts

/-- What the records that `counts` selects hold in reserve for a task. -/
def held (tariff : Tariff) (counts : Nat → Bool) (task : Task) : Nat :=
  tariff.reserve task * task.indices.countP counts

section Reserves

variable (tariff : Tariff) (counts : Nat → Bool)

private theorem held_ofRecords (range : ChunkRange) (index : Nat) (rows : List Row) :
    ((Task.ofRecords range index rows).map (tariff.held counts)).sum =
      tariff.alone * (List.range' index rows.length).countP counts := by
  cases rows with
  | nil => rfl
  | cons row rest => exact Nat.add_zero _

private theorem held_remaining (stretch : Stretch) :
    ((stretch.remaining.map Task.chunks).map (tariff.held counts)).sum =
      tariff.waiting stretch.chunkSize * (List.range' (stretch.start + stretch.chunk.length)
        (stretch.records.drop stretch.chunkSize).length).countP counts := by
  simp only [Stretch.remaining]
  by_cases nonempty : stretch.records.drop stretch.chunkSize ≠ []
  · rw [dif_pos nonempty]
    exact Nat.add_zero _
  · rw [dif_neg nonempty]
    rw [Decidable.not_not] at nonempty
    simp [nonempty]

/-- The records of a stretch are those of its next chunk and those after it. -/
theorem held_chunks (stretch : Stretch) :
    tariff.held counts (.chunks stretch) =
      tariff.waiting stretch.chunkSize *
          (List.range' stretch.start stretch.chunk.length).countP counts +
        ((stretch.remaining.map Task.chunks).map (tariff.held counts)).sum := by
  rw [held_remaining, ← Nat.mul_add, ← List.countP_append, List.range'_append_1,
    ← Stretch.length_records]
  rfl

theorem cost_chunks (stretch : Stretch) :
    tariff.cost counts (Task.chunks stretch).place =
      tariff.bulk * (List.range' stretch.start stretch.chunk.length).countP counts := by
  simp [cost, price, Task.place, Place.indices, Stretch.range]

private theorem held_records (range : ChunkRange) (index : Nat) (row : Row) (rest : List Row) :
    tariff.held counts (.records range index row rest) =
      tariff.alone * [index].countP counts +
        ((Task.ofRecords range (index + 1) rest).map (tariff.held counts)).sum := by
  rw [held_ofRecords, ← Nat.mul_add, ← List.countP_append]
  rfl

/-- The next execution of a task is covered by the reserve of the records that it carries. -/
theorem cost_add_remaining_le (task : Task) :
    tariff.cost counts task.place + (task.remaining.map (tariff.held counts)).sum ≤
      tariff.held counts task := by
  cases task with
  | chunks stretch =>
      have covered : tariff.bulk ≤ tariff.waiting stretch.chunkSize :=
        (Nat.le_add_right _ _).trans (tariff.bulk_add_alone_le stretch.chunkSize_pos)
      rw [cost_chunks, held_chunks]
      exact Nat.add_le_add_right (Nat.mul_le_mul_right _ covered) _
  | records range index row rest =>
      rw [held_records]
      exact Nat.add_le_add_right (Nat.mul_le_mul_right _ tariff.single_le) _

end Reserves

variable {d : Driver σ} {config : ExecutorConfig} {sql : String}

/-- What a trial costs, and what is held for the tasks after it, was held before. -/
theorem cost_add_held_le (tariff : Tariff) (counts : Nat → Bool) {progress next : Progress}
    {task : Task} {trial : Trial} {tasks : List Task}
    (goesOn : Task.GoesOn config progress task trial tasks next) :
    tariff.cost counts task.place + (tasks.map (tariff.held counts)).sum ≤
      tariff.held counts task := by
  cases goesOn with
  | applied task count => exact tariff.cost_add_remaining_le counts task
  | isolated range index row rest retryable policy =>
      exact tariff.cost_add_remaining_le counts (.records range index row rest)
  | single stretch retryable small =>
      have covered := Nat.mul_le_mul_right
        ((List.range' stretch.start stretch.chunk.length).countP counts)
        (tariff.bulk_add_alone_le stretch.chunkSize_pos)
      rw [cost_chunks, held_chunks, List.map_append, List.sum_append, held_ofRecords]
      simp only [Task.remaining]
      rw [Nat.add_mul] at covered
      omega
  | smaller stretch retryable large =>
      -- Only the records of the chunk change their size; what is left of the stretch keeps it.
      have covered := Nat.mul_le_mul_right
        ((List.range' stretch.start stretch.chunk.length).countP counts)
        (tariff.bulk_add_shrink_le stretch.width (threshold_lt_of_large large))
      have again : tariff.held counts (.chunks stretch.retry) =
          tariff.waiting (shrink stretch.chunkSize stretch.width) *
            (List.range' stretch.start stretch.chunk.length).countP counts := rfl
      rw [cost_chunks, held_chunks, List.map_cons, List.sum_cons, again]
      simp only [Task.remaining]
      rw [Nat.add_mul] at covered
      omega

/-- A course costs no more than what is held for its tasks. -/
theorem cost_course_le (tariff : Tariff) (counts : Nat → Bool) (tasks : List Task)
    (progress : Progress) (conn : σ) :
    ((course d config sql tasks progress conn).journal.map fun entry =>
      tariff.cost counts entry.place).sum ≤ (tasks.map (tariff.held counts)).sum := by
  fun_induction course d config sql tasks progress conn with
  | case1 progress conn => exact Nat.le_refl 0
  | case2 task rest progress conn trial after tried e advanced =>
      have covered := tariff.cost_add_remaining_le counts task
      simp only [List.map_cons, List.map_nil, List.sum_cons, List.sum_nil, Task.entry]
      omega
  | case3 task rest progress conn trial after tried tasks next advanced inductionHypothesis =>
      have covered := tariff.cost_add_held_le counts (Task.goesOn advanced)
      simp only [Course.cons, List.map_cons, List.sum_cons, Task.entry]
      simp only [List.map_append, List.sum_append] at inductionHypothesis
      omega

/-- A batch costs no more than what its records hold in reserve at first. -/
theorem cost_batch_le (tariff : Tariff) (counts : Nat → Bool) (d : Driver σ)
    (config : ExecutorConfig) (sql : String) (rows : List Row) (conn : σ) :
    ((batchCourse d config sql rows conn).journal.map fun entry =>
      tariff.cost counts entry.place).sum ≤
        tariff.waiting config.chunkSize * (List.range rows.length).countP counts := by
  refine (tariff.cost_course_le counts _ _ _).trans ?_
  unfold Task.ofBatch
  split
  · split
    · simp [held, reserve, Task.indices, Task.start, Task.rows, List.range_eq_range']
    · exact Nat.zero_le _
  · exact Nat.zero_le _

def chunks : Tariff where
  bulk := 1
  single := 0
  waiting size := (Nat.digits 10 size).length
  alone := 0
  single_le := Nat.le_refl 0
  bulk_add_alone_le {size} positive := by
    rw [Nat.digits_of_two_le_of_pos (by decide) positive, List.length_cons]
    omega
  bulk_add_shrink_le := length_digits_shrink_lt

def singles : Tariff where
  bulk := 0
  single := 1
  waiting _ := 1
  alone := 1
  single_le := Nat.le_refl 1
  bulk_add_alone_le _ := Nat.le_refl 1
  bulk_add_shrink_le _ _ := Nat.le_refl 1

end Tariff

/-! ### The work of a batch -/

namespace Place

def isChunk : Place → Bool
  | chunk _ => true
  | record _ _ => false

/-- Whether an execution carries a record together with the rest of a chunk. -/
def carriesInChunk (index : Nat) (place : Place) : Bool := place.isChunk && index ∈ place.indices

/-- Whether an execution carries a record alone. -/
def carriesAlone (index : Nat) (place : Place) : Bool := !place.isChunk && index ∈ place.indices

end Place

theorem countP_le_sum {α : Type} {counted : α → Bool} {cost : α → Nat} {xs : List α}
    (pays : ∀ x ∈ xs, counted x = true → 1 ≤ cost x) : xs.countP counted ≤ (xs.map cost).sum := by
  induction xs with
  | nil => exact Nat.le_refl 0
  | cons x xs inductionHypothesis =>
      obtain ⟨here, later⟩ := List.forall_mem_cons.mp pays
      have below := inductionHypothesis later
      rw [List.countP_cons, List.map_cons, List.sum_cons]
      split
      · have paid := here ‹_›
        omega
      · omega

private theorem countP_range_le_one (index size : Nat) :
    (List.range size).countP (· == index) ≤ 1 :=
  List.nodup_iff_count_le_one.mp List.nodup_range index

private theorem one_le_countP {index : Nat} {indices : List Nat} (member : index ∈ indices) :
    1 ≤ indices.countP (· == index) :=
  List.countP_pos_iff.mpr ⟨index, member, beq_self_eq_true index⟩

/-- A trial makes one execution, with a commit and a rollback behind it at most. -/
theorem JournalEntry.length_exchanges_le (config : ExecutorConfig) (entry : JournalEntry) :
    (entry.exchanges config).length ≤ 3 := by
  unfold JournalEntry.exchanges
  cases entry.trial with
  | applied count =>
      cases mode : config.commitChunks <;> simp [Trial.exchanges, mode]
  | uncommitted count e rollback => simp [Trial.exchanges]
  | failed e rollback => simp [Trial.exchanges]

section Batches

variable (d : Driver σ) (config : ExecutorConfig) (sql : String) (rows : List Row) (conn : σ)

/-- The executions of a batch lie within the batch and within the chunk size. -/
theorem batchCourse_wellPlaced (positive : 0 < config.chunkSize) :
    ∀ entry ∈ (batchCourse d config sql rows conn).journal,
      entry.call = entry.place.call sql rows ∧
        WellPlaced config.chunkSize rows.length entry.place.index? entry.place.range :=
  course_entries (fun _ _ fits holds =>
    ⟨Task.call_eq_place holds sql, (Task.wellPlaced fits holds).1⟩) d _ _ conn 0
    (tiles_ofBatch config positive rows)

/-- Executions that a record pays for are no more than it can pay at first. -/
theorem countP_le_waiting (tariff : Tariff) (index : Nat) {carries : Place → Bool}
    (pays : ∀ place, carries place = true → index ∈ place.indices ∧ 0 < tariff.price place) :
    (batchCourse d config sql rows conn).journal.countP (fun entry => carries entry.place) ≤
      tariff.waiting config.chunkSize := by
  have paid := tariff.cost_batch_le (· == index) d config sql rows conn
  have once := Nat.mul_le_mul_left (tariff.waiting config.chunkSize)
    (countP_range_le_one index rows.length)
  rw [Nat.mul_one] at once
  refine (countP_le_sum ?_).trans (paid.trans once)
  intro entry _ carried
  obtain ⟨member, priced⟩ := pays entry.place carried
  exact Nat.mul_pos priced (one_le_countP member)

private theorem countP_carriesInChunk_le (index : Nat) :
    (batchCourse d config sql rows conn).journal.countP
      (fun entry => entry.place.carriesInChunk index) ≤
        (Nat.digits 10 config.chunkSize).length := by
  apply countP_le_waiting d config sql rows conn Tariff.chunks index
  intro place carried
  simp only [Place.carriesInChunk, Bool.and_eq_true, decide_eq_true_eq] at carried
  cases place with
  | chunk range => exact ⟨carried.2, Nat.one_pos⟩
  | record range own => cases carried.1

private theorem countP_carriesAlone_le_one (index : Nat) :
    (batchCourse d config sql rows conn).journal.countP
      (fun entry => entry.place.carriesAlone index) ≤ 1 := by
  apply countP_le_waiting d config sql rows conn Tariff.singles index
  intro place carried
  simp only [Place.carriesAlone, Bool.and_eq_true, decide_eq_true_eq] at carried
  cases place with
  | chunk range => cases carried.1
  | record range own => exact ⟨carried.2, Nat.one_pos⟩

/-- Every execution carries a record, which pays for it in one of the two tariffs. -/
theorem length_journal_le (positive : 0 < config.chunkSize) :
    (batchCourse d config sql rows conn).journal.length ≤
      rows.length * ((Nat.digits 10 config.chunkSize).length + 1) := by
  have bulk := Tariff.chunks.cost_batch_le (fun _ => true) d config sql rows conn
  have single := Tariff.singles.cost_batch_le (fun _ => true) d config sql rows conn
  rw [List.countP_true, List.length_range] at bulk single
  have inChunks : (batchCourse d config sql rows conn).journal.countP
      (fun entry => entry.place.isChunk) ≤
        (Nat.digits 10 config.chunkSize).length * rows.length := by
    refine (countP_le_sum ?_).trans bulk
    intro entry member isChunk
    have wellPlaced := (batchCourse_wellPlaced d config sql rows conn positive entry member).2
    have nonempty := wellPlaced.nonempty
    cases place : entry.place with
    | chunk range =>
        rw [place] at nonempty
        simp only [Place.range] at nonempty
        simp [Tariff.cost, Tariff.price, Tariff.chunks, Place.indices]
        omega
    | record range index => simp [place, Place.isChunk] at isChunk
  have alone : (batchCourse d config sql rows conn).journal.countP
      (fun entry => ¬ entry.place.isChunk) ≤ rows.length := by
    refine (countP_le_sum ?_).trans (single.trans_eq (Nat.one_mul _))
    intro entry member isRecord
    cases place : entry.place with
    | chunk range => simp [place, Place.isChunk] at isRecord
    | record range index => exact Nat.le_refl 1
  rw [List.length_eq_countP_add_countP (fun entry => entry.place.isChunk), Nat.mul_add,
    Nat.mul_comm]
  omega

theorem length_exchanges_le (positive : 0 < config.chunkSize) :
    (exchanges d config sql rows conn).length ≤
      3 * (rows.length * ((Nat.digits 10 config.chunkSize).length + 1)) := by
  have each : ∀ journal : List JournalEntry,
      (journal.flatMap (JournalEntry.exchanges config)).length ≤ 3 * journal.length := by
    intro journal
    induction journal with
    | nil => exact Nat.le_refl 0
    | cons entry journal inductionHypothesis =>
        have first := entry.length_exchanges_le config
        rw [List.flatMap_cons, List.length_append, List.length_cons]
        omega
  rw [exchanges_eq_journal d sql rows positive conn]
  exact (each _).trans
    (Nat.mul_le_mul_left 3 (length_journal_le d config sql rows conn positive))

end Batches

/-- A batch ends after a bounded number of calls, whatever the driver answers. Every execution in
bulk carries consecutive records, at least one of them and no more than the chunk size. Each record
is carried by at most as many of these as the chunk size has decimal digits, and by at most one
single execution. -/
theorem work_per_record_is_bounded (d : Driver σ) {config : ExecutorConfig}
    (positive : 0 < config.chunkSize) (sql : String) (rows : List Row) (conn : σ) :
    let calls := exchanges d config sql rows conn
    let journal := (batchCourse d config sql rows conn).journal
    let digits := (Nat.digits 10 config.chunkSize).length
    calls.length ≤ 3 * (rows.length * (digits + 1)) ∧
      calls = journal.flatMap (JournalEntry.exchanges config) ∧
      (∀ entry ∈ journal, entry.call = entry.place.call sql rows) ∧
      (∀ entry ∈ journal, ∀ chunk, entry.place = .chunk chunk →
        chunk.start < chunk.stop ∧ chunk.stop ≤ rows.length ∧
          chunk.stop ≤ chunk.start + config.chunkSize) ∧
      (∀ index, journal.countP (fun entry => entry.place.carriesInChunk index) ≤ digits) ∧
      ∀ index, journal.countP (fun entry => entry.place.carriesAlone index) ≤ 1 := by
  intro calls journal digits
  have placed := batchCourse_wellPlaced d config sql rows conn positive
  refine ⟨length_exchanges_le d config sql rows conn positive,
    exchanges_eq_journal d sql rows positive conn, fun entry member => (placed entry member).1, ?_,
    countP_carriesInChunk_le d config sql rows conn,
    countP_carriesAlone_le_one d config sql rows conn⟩
  intro entry member chunk place
  have wellPlaced := (placed entry member).2
  rw [place] at wellPlaced
  exact ⟨wellPlaced.nonempty, wellPlaced.within, wellPlaced.short⟩

/-- Every record is rejected. The chunk of eleven is tried once in bulk and then record by record,
first in chunks of one and then alone, and so is what follows it. -/
theorem work_per_record_is_bounded_rejecting :
    let d := Scripted.driver .qmark Row.describe
    let config : ExecutorConfig := { chunkSize := 11, failurePolicy := .isolate }
    let rows : List Row := List.replicate 12 [.null]
    let conn := ScriptedState.start { failAll := true }
    let journal := (batchCourse d config "insert" rows conn).journal
    0 < config.chunkSize ∧ (Nat.digits 10 config.chunkSize).length = 2 ∧
      journal.countP (fun entry => entry.place.carriesInChunk 3) = 2 ∧
      journal.countP (fun entry => entry.place.carriesAlone 3) = 1 ∧
      (exchanges d config "insert" rows conn).length ≤ 3 * (rows.length * (2 + 1)) := by
  intro d config rows conn journal
  have two : (Nat.digits 10 config.chunkSize).length = 2 := by
    show (Nat.digits 10 11).length = 2
    norm_num
  obtain ⟨few, -⟩ :=
    work_per_record_is_bounded d (show 0 < config.chunkSize by decide) "insert" rows conn
  rw [two] at few
  exact ⟨by decide, two, by decide +kernel, by decide +kernel, few⟩

end SqlBind.Execution

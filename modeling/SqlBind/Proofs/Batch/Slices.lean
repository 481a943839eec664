import SqlBind.Proofs.Batch.OneByOne

/-!
Owns: how far a rejected record reaches. A batch is cut into slices of the chunk size; a task either
has all records from the beginning of a slice on, or some records of one slice that holds a rejected
record (`Sliced`), however often chunks were made smaller.

Main statement: if the database only rejects records, the slices are sent one after the other, and a
slice without rejected records is sent once and as a whole (`rejection_stays_in_its_slice`).
-/

set_option autoImplicit false

namespace SqlBind.Execution

variable {σ : Type}

/-! ### Drivers that reject some rows -/

/-- An execution succeeds if all its rows are fine, and the database rejects it otherwise. -/
def Judged (fine : Bool) : Except DbError Nat → Prop
  | .ok _ => fine = true
  | .error e => fine = false ∧ e.isDatabaseError = true

/-- On steady connections an execution succeeds exactly if each of its rows is accepted, and it is
rejected by the database otherwise. Commit and rollback work. -/
structure Selects (d : Driver σ) (sql : String) (accepts : Row → Bool) (steady : σ → Prop) :
    Prop where
  one : ∀ row {conn}, steady conn →
    Judged (accepts row) (ending (d.executeOne sql row) conn).1
  many : ∀ rows {conn}, steady conn →
    Judged (rows.all accepts) (ending (d.executeMany sql rows) conn).1
  commit : ∀ {conn}, steady conn → (ending d.commit conn).1 = .ok ()
  rollback : ∀ {conn}, steady conn → (ending d.rollback conn).1 = .ok ()
  keeps_one : ∀ row, Keeps steady (d.executeOne sql row)
  keeps_many : ∀ rows, Keeps steady (d.executeMany sql rows)
  keeps_commit : Keeps steady d.commit
  keeps_rollback : Keeps steady d.rollback

/-- What a trial can be when the database only rejects rows, by whether all its rows are fine. -/
inductive Sifted : Bool → Trial → Prop where
  | accepted (count : Nat) : Sifted true (.applied count)
  | rejected {e : DbError} (retryable : e.isRetryable = true) : Sifted false (.failed e (.ok ()))

section Drivers

variable {d : Driver σ} {sql : String} {accepts : Row → Bool} {steady : σ → Prop}
  {config : ExecutorConfig} {task : Task} {trial : Trial} {conn after : σ}

/-- An execution succeeds if all records that it carries are accepted, and the database rejects it
otherwise. -/
theorem Selects.execution (selects : Selects d sql accepts steady) (task : Task)
    (begins : steady conn) :
    Judged (task.sent.all accepts) (ending (task.execution d sql) conn).1 ∧
      steady (ending (task.execution d sql) conn).2 := by
  cases task with
  | chunks stretch => exact ⟨selects.many stretch.chunk begins, selects.keeps_many _ begins⟩
  | records range index row rest =>
      refine ⟨?_, selects.keeps_one row begins⟩
      simp only [Task.sent, List.all_cons, List.all_nil, Bool.and_true]
      exact selects.one row begins

/-- A trial is decided by whether all records that it carries are accepted. -/
theorem Selects.sifted (selects : Selects d sql accepts steady) (begins : steady conn)
    (made : Trial.Made d config (task.execution d sql) conn trial after) :
    Sifted (task.sent.all accepts) trial ∧ steady after := by
  have ran := selects.execution task begins
  cases made with
  | pending mode executed =>
      rw [executed] at ran
      obtain ⟨fine, kept⟩ := ran
      rw [show task.sent.all accepts = true from fine]
      exact ⟨.accepted _, kept⟩
  | committed mode executed settled =>
      rw [executed] at ran
      obtain ⟨fine, kept⟩ := ran
      have durable := selects.keeps_commit kept
      rw [settled] at durable
      rw [show task.sent.all accepts = true from fine]
      exact ⟨.accepted _, durable⟩
  | uncommitted mode executed refused undone =>
      rw [executed] at ran
      have works := selects.commit ran.2
      rw [refused] at works
      cases works
  | failed executed undone =>
      rw [executed] at ran
      obtain ⟨⟨bad, retryable⟩, kept⟩ := ran
      have works := selects.rollback kept
      have back := selects.keeps_rollback kept
      rw [undone] at works back
      cases works
      rw [bad]
      exact ⟨.rejected retryable, back⟩

theorem Sifted.eq_false {fine : Bool} {e : DbError} {rollback : Except DbError Unit}
    (sifted : Sifted fine (.failed e rollback)) : fine = false := by
  cases sifted
  rfl

private theorem Sifted.eq_applied (sifted : Sifted true trial) :
    ∃ count, trial = .applied count := by
  cases sifted with
  | accepted count => exact ⟨count, rfl⟩

/-- A batch that sets rejected records aside never ends early. -/
theorem Sifted.not_stops {fine : Bool} (sifted : Sifted fine trial)
    (isolates : config.failurePolicy = .isolate) {progress : Progress} {e : DbError} :
    ¬ Task.Stops config progress task trial e := by
  intro stops
  cases sifted with
  | accepted count => cases stops
  | rejected retryable =>
      cases stops with
      | broken task rollback fatal => simp [retryable] at fatal
      | aborted range index row rest retryable policy => simp [isolates] at policy

end Drivers

/-! ### Slices -/

/-- The rows of a slice. -/
def sliceRows (size : Nat) (batch : List Row) (number : Nat) : List Row :=
  (batch.drop (number * size)).take size

/-- A task has all records from the beginning of a slice on, or records of one slice that holds a
rejected one. -/
inductive Sliced (accepts : Row → Bool) (size : Nat) (batch : List Row) : Task → Prop where
  | slices (stretch : Stretch) (number : Nat) (whole : stretch.chunkSize = size)
      (begins : stretch.start = number * size)
      (reaches : stretch.records = batch.drop stretch.start) :
      Sliced accepts size batch (.chunks stretch)
  | within (task : Task) (number : Nat) (after : number * size ≤ task.start)
      (before : task.start + task.rows.length ≤ number * size + size)
      (rejected : (sliceRows size batch number).all accepts = false) :
      Sliced accepts size batch task

section Slicing

variable {accepts : Row → Bool} {size : Nat} {batch : List Row} {task : Task}

private theorem Tiles.bounds {limit start stop : Nat} {tasks : List Task}
    (tiles : Tiles limit batch start stop tasks) :
    start ≤ stop ∧ ∀ task ∈ tasks, start ≤ task.start ∧ task.start + task.rows.length ≤ stop := by
  induction tasks generalizing start with
  | nil =>
      cases tiles
      simp
  | cons task rest inductionHypothesis =>
      obtain ⟨rfl, -, -, later⟩ := tiles
      obtain ⟨ordered, each⟩ := inductionHypothesis later
      refine ⟨by omega, List.forall_mem_cons.mpr ⟨⟨Nat.le_refl _, ordered⟩, ?_⟩⟩
      intro other member
      have inside := each other member
      omega

private theorem Task.length_sent_le (task : Task) : task.sent.length ≤ task.rows.length := by
  cases task with
  | chunks stretch =>
      simp only [Task.sent, Task.rows, Stretch.chunk]
      exact List.length_take_le' _ _
  | records range index row rest => simp [Task.sent, Task.rows]

theorem Task.mem_indices {index : Nat} (member : index ∈ task.place.indices) :
    task.start ≤ index ∧ index < task.start + task.sent.length := by
  cases task with
  | chunks stretch =>
      simp only [Task.place, Place.indices, Stretch.range, List.mem_range'_1] at member
      simp only [Task.start, Task.sent]
      omega
  | records range own row rest =>
      simp only [Task.place, Place.indices, List.mem_singleton] at member
      simp [Task.start, Task.sent, member]

private theorem Task.start_mem_indices (task : Task) : task.start ∈ task.place.indices := by
  cases task with
  | chunks stretch =>
      have nonempty := stretch.length_chunk_pos
      simp only [Task.start, Task.place, Place.indices, Stretch.range, List.mem_range'_1]
      omega
  | records range index row rest => simp [Task.start, Task.place, Place.indices]

theorem div_eq_of_bounds {index number : Nat} (after : number * size ≤ index)
    (before : index < number * size + size) : index / size = number :=
  Nat.div_eq_of_lt_le after (by rwa [Nat.succ_mul])

/-- The next execution of a task stays within a slice. -/
theorem Sliced.stays (sliced : Sliced accepts size batch task) :
    task.start + task.sent.length ≤ task.start / size * size + size := by
  cases sliced with
  | slices stretch number whole begins reaches =>
      have short := Stretch.length_chunk_le stretch
      have positive := stretch.chunkSize_pos
      simp only [Task.start, Task.sent]
      rw [begins, Nat.mul_div_cancel _ (by omega)]
      omega
  | within task number after before rejected =>
      have fewer := task.length_sent_le
      have nonempty := task.length_rows_pos
      rw [div_eq_of_bounds after (by omega)]
      omega

/-- All records of an execution lie in the slice of the first one. -/
theorem Sliced.div_eq (sliced : Sliced accepts size batch task) {index : Nat}
    (member : index ∈ task.place.indices) : index / size = task.start / size := by
  have stays := sliced.stays
  have inside := Task.mem_indices member
  have below := Nat.div_mul_le_self task.start size
  exact div_eq_of_bounds (by omega) (by omega)

/-- What a stretch has left after its next chunk begins with the next slice. -/
theorem sliced_remaining (accepts : Row → Bool) {stretch : Stretch} {number : Nat}
    (whole : stretch.chunkSize = size) (begins : stretch.start = number * size)
    (reaches : stretch.records = batch.drop stretch.start) :
    ∀ task ∈ stretch.remaining.map Task.chunks, Sliced accepts size batch task := by
  intro task member
  by_cases nonempty : stretch.records.drop stretch.chunkSize ≠ []
  · simp only [Stretch.remaining, dif_pos nonempty, List.map_cons, List.map_nil,
      List.mem_singleton] at member
    have full : stretch.chunk.length = size := by
      have longer := List.length_pos_iff.mpr nonempty
      simp only [List.length_drop] at longer
      simp only [Stretch.chunk, List.length_take]
      omega
    rw [member]
    refine .slices _ (number + 1) whole ?_ ?_
    · simp only [Stretch.range]
      rw [full, begins, Nat.succ_mul]
    · simp only [Stretch.range]
      rw [full, whole, reaches, List.drop_drop]
  · simp [Stretch.remaining, nonempty] at member

variable {limit : Nat} {config : ExecutorConfig} {progress next : Progress} {trial : Trial}
  {tasks : List Task}

private theorem Task.mem_ofRecords {range : ChunkRange} {index : Nat} {rows : List Row}
    (member : task ∈ Task.ofRecords range index rows) : task.start = index ∧ task.rows = rows := by
  cases rows with
  | nil => simp [Task.ofRecords] at member
  | cons row rest =>
      simp only [Task.ofRecords, List.mem_singleton] at member
      simp [member, Task.start, Task.rows]

/-- Making chunks smaller does not leave the slice. -/
theorem Sliced.goesOn (sliced : Sliced accepts size batch task)
    (sifted : Sifted (task.sent.all accepts) trial) (fits : task.Fits limit)
    (holds : task.rows <+: batch.drop task.start)
    (goesOn : Task.GoesOn config progress task trial tasks next) :
    ∀ other ∈ tasks, Sliced accepts size batch other := by
  cases sliced with
  | within task number after before rejected =>
      obtain ⟨count, -, tiles⟩ := goesOn.settles "" fits holds
      intro other member
      have inside := tiles.bounds.2 other member
      exact .within other number (by omega) (by omega) rejected
  | slices stretch number whole begins reaches =>
      have later := sliced_remaining accepts whole begins reaches
      have short := Stretch.length_chunk_le stretch
      have again : stretch.chunk.all accepts = false → ∀ other : Task,
          other.start = stretch.start → other.rows = stretch.chunk →
            Sliced accepts size batch other := by
        intro bad other starts rows
        rw [Stretch.chunk, reaches, whole, begins] at bad
        exact .within other number (by omega) (by rw [rows]; omega) bad
      cases goesOn with
      | applied task count => exact later
      | single stretch retryable small =>
          intro other member
          rcases List.mem_append.mp member with first | rest
          · obtain ⟨starts, rows⟩ := Task.mem_ofRecords first
            exact again sifted.eq_false other starts rows
          · exact later other rest
      | smaller stretch retryable large =>
          exact List.forall_mem_cons.mpr ⟨again sifted.eq_false _ rfl rfl, later⟩

/-- A trial settles no record that it does not carry. -/
theorem Task.GoesOn.length_settled_le
    (goesOn : Task.GoesOn config progress task trial tasks next) (sql : String) :
    ((task.entry sql trial).settled config.failurePolicy).length ≤ task.sent.length := by
  cases goesOn with
  | applied task count => rw [JournalEntry.settled_applied, Task.length_indices]
  | single stretch retryable small => rw [JournalEntry.settled_chunk_failed]; exact Nat.zero_le _
  | smaller stretch retryable large => rw [JournalEntry.settled_chunk_failed]; exact Nat.zero_le _
  | isolated range index row rest retryable policy =>
      rw [policy, JournalEntry.settled_isolated sql range index row rest retryable]
      exact Nat.le_refl 1

end Slicing

/-! ### Journals -/

/-- Whether an execution carries a record of a slice. -/
def Place.touches (size number : Nat) (place : Place) : Bool :=
  place.indices.any fun index => index / size == number

/-- The executions for the records from `start` on, slice after slice. -/
structure SliceBySlice (accepts : Row → Bool) (size : Nat) (batch : List Row) (start : Nat)
    (journal : List JournalEntry) : Prop where
  within : ∀ entry ∈ journal, ∀ index ∈ entry.place.indices, start ≤ index ∧ index < batch.length
  /-- No execution carries records of two slices. -/
  apart : ∀ entry ∈ journal, ∀ index ∈ entry.place.indices, ∀ other ∈ entry.place.indices,
    index / size = other / size
  /-- The executions for a slice come before those for the next. -/
  ordered : journal.Pairwise fun earlier later =>
    ∀ index ∈ earlier.place.indices, ∀ other ∈ later.place.indices, index / size ≤ other / size
  /-- A slice without rejected records is sent once, as a whole. -/
  once : ∀ number, start ≤ number * size → number * size < batch.length →
    (sliceRows size batch number).all accepts = true →
    ∃ entry count, journal.filter (fun entry => entry.place.touches size number) = [entry] ∧
      entry.place = .chunk ⟨number * size, min (number * size + size) batch.length⟩ ∧
      entry.trial = .applied count

section Journals

variable {accepts : Row → Bool} {size : Nat} {batch : List Row}

private theorem sliceBySlice_nil (accepts : Row → Bool) (size : Nat) (batch : List Row) :
    SliceBySlice accepts size batch batch.length [] where
  within := by simp
  apart := by simp
  ordered := .nil
  once number after before := by omega

variable {task : Task} {trial : Trial} {journal : List JournalEntry} {policy : FailurePolicy}
  {sql : String} {count : Nat}

private theorem not_touches {size number : Nat} {place : Place}
    (elsewhere : ∀ index ∈ place.indices, index / size ≠ number) :
    place.touches size number = false := by
  simpa [Place.touches] using elsewhere

/-- A task that begins at a slice without rejected records sends the whole slice. -/
theorem Sliced.sends_slice (sliced : Sliced accepts size batch task) {number : Nat}
    (begins : task.start = number * size)
    (clean : (sliceRows size batch number).all accepts = true) :
    task.sent.all accepts = true ∧
      task.place = .chunk ⟨number * size, min (number * size + size) batch.length⟩ := by
  cases sliced with
  | within task own after before rejected =>
      have nonempty := task.length_rows_pos
      have same : number * size / size = own := div_eq_of_bounds (by omega) (by omega)
      rw [Nat.mul_div_cancel _ (by omega)] at same
      rw [← same, clean] at rejected
      cases rejected
  | slices stretch own whole starts reaches =>
      simp only [Task.start] at begins
      have chunk : stretch.chunk = sliceRows size batch number := by
        rw [Stretch.chunk, reaches, whole, begins, sliceRows]
      have length : stretch.chunk.length = min size (batch.length - number * size) := by
        rw [chunk, sliceRows, List.length_take, List.length_drop]
      have inside := List.length_pos_iff.mpr stretch.records_ne
      rw [reaches, List.length_drop] at inside
      refine ⟨by rw [Task.sent, chunk, clean], ?_⟩
      simp only [Task.place, Stretch.range, Place.chunk.injEq, ChunkRange.mk.injEq]
      omega

/-- Such a slice is sent once: what is left after it begins behind the slice. -/
theorem SliceBySlice.filter_eq (positive : 0 < size)
    (later : SliceBySlice accepts size batch (task.start + count) journal)
    (sliced : Sliced accepts size batch task) (sifted : Sifted (task.sent.all accepts) trial)
    (settled : (task.entry sql trial).settled policy = List.range' task.start count)
    {number : Nat} (begins : task.start = number * size)
    (clean : (sliceRows size batch number).all accepts = true) :
    (task.entry sql trial :: journal).filter (fun entry => entry.place.touches size number) =
        [task.entry sql trial] ∧ ∃ count, trial = .applied count := by
  obtain ⟨fine, place⟩ := sliced.sends_slice begins clean
  rw [fine] at sifted
  obtain ⟨rows, rfl⟩ := sifted.eq_applied
  have touched : task.place.touches size number = true := by
    refine List.any_eq_true.mpr ⟨task.start, task.start_mem_indices, ?_⟩
    simp [begins, Nat.mul_div_cancel _ positive]
  have stop : task.start + count = max task.start (min (number * size + size) batch.length) := by
    have lengths := congrArg List.length settled
    rw [JournalEntry.settled_applied, place] at lengths
    simp only [Place.indices, List.length_range'] at lengths
    omega
  have untouched : ∀ entry ∈ journal, entry.place.touches size number = false := by
    intro entry among
    apply not_touches
    intro index carried
    have after := later.within entry among index carried
    rw [ne_eq, Nat.div_eq_iff positive]
    omega
  refine ⟨?_, rows, rfl⟩
  rw [List.filter_cons_of_pos (by exact touched), List.filter_eq_nil_iff.mpr]
  intro entry among
  rw [untouched entry among]
  exact Bool.false_ne_true

/-- One step further: the executions from a task on, given those from the next records on. -/
theorem SliceBySlice.cons (positive : 0 < size)
    (later : SliceBySlice accepts size batch (task.start + count) journal)
    (sliced : Sliced accepts size batch task) (sifted : Sifted (task.sent.all accepts) trial)
    (holds : task.rows <+: batch.drop task.start)
    (settled : (task.entry sql trial).settled policy = List.range' task.start count)
    (few : count ≤ task.sent.length) :
    SliceBySlice accepts size batch task.start (task.entry sql trial :: journal) where
  within := by
    have bound := (Task.sent_prefix holds).length_le
    rw [List.length_drop] at bound
    refine List.forall_mem_cons.mpr ⟨?_, ?_⟩
    · intro index carried
      have inside := Task.mem_indices carried
      omega
    · intro entry among index carried
      have inside := later.within entry among index carried
      omega
  apart := by
    refine List.forall_mem_cons.mpr ⟨?_, later.apart⟩
    intro index carried other carriedToo
    rw [sliced.div_eq carried, sliced.div_eq carriedToo]
  ordered := by
    refine List.pairwise_cons.mpr ⟨?_, later.ordered⟩
    intro entry among index carried other carriedLater
    have after := later.within entry among other carriedLater
    rw [sliced.div_eq carried]
    exact Nat.div_le_div_right (by omega)
  once := by
    intro number after inside clean
    by_cases here : task.start = number * size
    · obtain ⟨only, applied, sent⟩ :=
        later.filter_eq positive sliced sifted settled here clean
      exact ⟨_, applied, only, (sliced.sends_slice here clean).2, sent⟩
    · -- The task begins before the slice, so its next execution stays before it too.
      have earlier : task.start / size < number :=
        (Nat.div_lt_iff_lt_mul positive).mpr (by omega)
      have apart := Nat.mul_le_mul_right size (Nat.succ_le_of_lt earlier)
      have stays := sliced.stays
      rw [Nat.succ_mul] at apart
      obtain ⟨entry, applied, only, sent⟩ := later.once number (by omega) inside clean
      refine ⟨entry, applied, ?_, sent⟩
      have untouched : task.place.touches size number = false := by
        apply not_touches
        intro index carried
        rw [sliced.div_eq carried]
        omega
      rw [List.filter_cons_of_neg (by simp [Task.entry, untouched]), only]

end Journals

/-! ### The whole batch -/

section Courses

variable {d : Driver σ} {sql : String} {accepts : Row → Bool} {steady : σ → Prop}
  {config : ExecutorConfig} {batch : List Row}

private theorem course_sliceBySlice (selects : Selects d sql accepts steady)
    (positive : 0 < config.chunkSize) (isolates : config.failurePolicy = .isolate)
    (tasks : List Task) (progress : Progress) (conn : σ) (begins : steady conn) (position : Nat)
    (tiles : Tiles config.chunkSize batch position batch.length tasks)
    (sliced : ∀ task ∈ tasks, Sliced accepts config.chunkSize batch task) :
    SliceBySlice accepts config.chunkSize batch position
      (course d config sql tasks progress conn).journal := by
  fun_induction course d config sql tasks progress conn generalizing position with
  | case1 progress conn =>
      cases tiles
      exact sliceBySlice_nil accepts config.chunkSize batch
  | case2 task rest progress conn trial after tried e advanced =>
      obtain ⟨sifted, -⟩ := selects.sifted begins (Trial.made tried)
      exact absurd (Task.stops advanced) (sifted.not_stops isolates)
  | case3 task rest progress conn trial after tried tasks next advanced inductionHypothesis =>
      obtain ⟨rfl, fits, holds, tiles⟩ := tiles
      obtain ⟨here, later⟩ := List.forall_mem_cons.mp sliced
      obtain ⟨sifted, steady⟩ := selects.sifted begins (Trial.made tried)
      have goesOn := Task.goesOn advanced
      obtain ⟨count, settled, left⟩ := goesOn.settles sql fits holds
      have few := goesOn.length_settled_le sql
      rw [settled, List.length_range'] at few
      have again := here.goesOn sifted fits holds goesOn
      have further := inductionHypothesis steady (task.start + count) (left.append tiles)
        (List.forall_mem_append.mpr ⟨again, later⟩)
      exact further.cons positive here sifted holds settled few

private theorem sliced_ofBatch (accepts : Row → Bool) (positive : 0 < config.chunkSize) :
    ∀ task ∈ Task.ofBatch config batch, Sliced accepts config.chunkSize batch task := by
  by_cases empty : batch = []
  · simp [empty, Task.ofBatch_nil]
  · rw [Task.ofBatch_of_ne positive empty]
    refine List.forall_mem_singleton.mpr (.slices _ 0 rfl (Nat.zero_mul _).symm rfl)

end Courses

/-- A rejected record slows down no slice but its own. If the database does nothing but reject some
records, and these are set aside, then no execution carries records of two slices of the chunk size,
the executions for one slice come before those for the next, and a slice without rejected records is
sent in one successful execution, which carries it as a whole; none of its records is sent again. -/
theorem rejection_stays_in_its_slice {d : Driver σ} {sql : String} {accepts : Row → Bool}
    {steady : σ → Prop} (selects : Selects d sql accepts steady) {config : ExecutorConfig}
    (positive : 0 < config.chunkSize) (isolates : config.failurePolicy = .isolate)
    (rows : List Row) {conn : σ} (begins : steady conn) :
    let size := config.chunkSize
    let journal := (batchCourse d config sql rows conn).journal
    exchanges d config sql rows conn = journal.flatMap (JournalEntry.exchanges config) ∧
      (∀ entry ∈ journal, entry.call = entry.place.call sql rows) ∧
      (∀ entry ∈ journal, ∀ index ∈ entry.place.indices, ∀ other ∈ entry.place.indices,
        index / size = other / size) ∧
      (journal.Pairwise fun earlier later =>
        ∀ index ∈ earlier.place.indices, ∀ other ∈ later.place.indices,
          index / size ≤ other / size) ∧
      ∀ number, number * size < rows.length →
        (sliceRows size rows number).all accepts = true →
        ∃ entry count, journal.filter (fun entry => entry.place.touches size number) = [entry] ∧
          entry.place = .chunk ⟨number * size, min (number * size + size) rows.length⟩ ∧
          entry.trial = .applied count := by
  intro size journal
  have tiles := tiles_ofBatch config positive rows
  have sliceBySlice : SliceBySlice accepts size rows 0 journal :=
    course_sliceBySlice selects positive isolates _ _ conn begins 0 tiles
      (sliced_ofBatch accepts positive)
  exact ⟨exchanges_eq_journal d sql rows positive conn,
    course_calls d config sql rows _ _ conn 0 tiles, sliceBySlice.apart, sliceBySlice.ordered,
    fun number inside clean => sliceBySlice.once number (Nat.zero_le _) inside clean⟩

/-! ### Scripted drivers -/

section Scripts

variable (showRow : Row → String) {script : DriverScript}

private theorem OnlyRejects.judged_checkRow (onlyRejects : OnlyRejects script) (row : Row) :
    Judged (Scripted.checkRow showRow script row).isOk (Scripted.checkRow showRow script row) := by
  cases checked : Scripted.checkRow showRow script row with
  | ok count => rfl
  | error e => exact ⟨rfl, onlyRejects.checkRow_error checked⟩

private theorem OnlyRejects.judged_checkRows (onlyRejects : OnlyRejects script) (total : Nat)
    (rows : List Row) :
    Judged (rows.all fun row => (Scripted.checkRow showRow script row).isOk)
      (Scripted.checkRows showRow script total rows) := by
  induction rows generalizing total with
  | nil => rfl
  | cons row rest inductionHypothesis =>
      have judged := onlyRejects.judged_checkRow showRow row
      rw [List.all_cons, Scripted.checkRows]
      cases checked : Scripted.checkRow showRow script row with
      | ok count => exact inductionHypothesis (total + count)
      | error e =>
          rw [checked] at judged
          exact ⟨rfl, judged.2⟩

/-- A scripted driver that does nothing but reject rows selects among them. -/
theorem OnlyRejects.selects (onlyRejects : OnlyRejects script) (unlimited : script.maxRows = none)
    (style : ParamStyle) (sql : String) :
    Selects (Scripted.driver style showRow) sql
      (fun row => (Scripted.checkRow showRow script row).isOk)
      (fun conn => conn.script = script) where
  one row conn same := by
    subst same
    have answer : (ending ((Scripted.driver style showRow).executeOne sql row) conn).1 =
        Scripted.checkRow showRow conn.script row := (ending_enter _ conn).1
    rw [answer]
    exact onlyRejects.judged_checkRow showRow row
  many rows conn same := by
    subst same
    have answer : (ending ((Scripted.driver style showRow).executeMany sql rows) conn).1 =
        Scripted.checkChunk showRow conn.script rows := (ending_enter _ conn).1
    rw [answer]
    simp only [Scripted.checkChunk, onlyRejects.chunks, unlimited, Bool.false_eq_true, if_false]
    exact onlyRejects.judged_checkRows showRow 0 rows
  commit same := (onlyRejects.ending_commit same).1
  rollback same := (onlyRejects.ending_rollback same).1
  keeps_one row := keeps_enter fun conn => Scripted.checkRow showRow conn.script row
  keeps_many rows := keeps_enter fun conn => Scripted.checkChunk showRow conn.script rows
  keeps_commit same := (onlyRejects.ending_commit same).2
  keeps_rollback same := (onlyRejects.ending_rollback same).2

end Scripts

/-- The fourth of 24 records is rejected. Its slice is sent again record by record; the next slice
is sent once. -/
theorem rejection_stays_in_its_slice_scripted :
    let script : DriverScript := { bad := [3] }
    let d := Scripted.driver .qmark Row.describe
    let accepts := fun row => (Scripted.checkRow Row.describe script row).isOk
    let config : ExecutorConfig := { chunkSize := 11, failurePolicy := .isolate }
    let rows : List Row := (List.range 24).map fun i => [.int (.ofNat i)]
    let conn := ScriptedState.start script
    let journal := (batchCourse d config "insert" rows conn).journal
    Selects d "insert" accepts (fun conn => conn.script = script) ∧ 0 < config.chunkSize ∧
      config.failurePolicy = .isolate ∧ conn.script = script ∧
      (sliceRows 11 rows 0).all accepts = false ∧ (sliceRows 11 rows 1).all accepts = true ∧
      1 * 11 < rows.length ∧
      ∃ entry count, journal.filter (fun entry => entry.place.touches 11 1) = [entry] ∧
        entry.place = .chunk ⟨11, 22⟩ ∧ entry.trial = .applied count := by
  intro script d accepts config rows conn journal
  have selects : Selects d "insert" accepts (fun conn => conn.script = script) :=
    OnlyRejects.selects Row.describe ⟨rfl, rfl, rfl, rfl⟩ rfl .qmark "insert"
  have clean : (sliceRows 11 rows 1).all accepts = true := by decide +kernel
  have inside : 1 * 11 < rows.length := by decide
  obtain ⟨-, -, -, -, once⟩ := rejection_stays_in_its_slice selects
    (show 0 < config.chunkSize by decide) rfl rows (show conn.script = script by rfl)
  exact ⟨selects, by decide, rfl, rfl, by decide +kernel, clean, inside, once 1 inside clean⟩

end SqlBind.Execution

import SqlBind.Proofs.Binding.Aligned
import SqlBind.Proofs.Table.Statements

/-!
Owns: the records that a statement cannot bind. A keyed record misses every key that it has no value
under. A row by position can miss one only where a key fills several slots; then its values are
those of the different keys.

Main statement: binding a list of records fails exactly if one of them misses a key, and then with
the position of the first such record and the first key that it misses (`bindBatch_cases`).
-/

set_option autoImplicit false

namespace SqlBind

/-- The records of a batch, in order. -/
def Batch.records : Batch → List Record
  | keyed records => records.map .keyed
  | positional rows => rows.map .positional

theorem Batch.isEmpty_iff {batch : Batch} : batch.isEmpty = true ↔ batch.records = [] := by
  cases batch <;> simp [isEmpty, size, records]

/-- The record has no value under `key`, and one under every key before it. -/
def FirstUnset (record : KeyedRecord) (keys : List String) (key : String) : Prop :=
  ∃ before after, keys = before ++ key :: after ∧
    (∀ earlier ∈ before, record.get? earlier ≠ none) ∧ record.get? key = none

namespace Statement

/-- The first key, in the order in which keys are bound, that the record has no value for. -/
def FirstMissing (s : Statement) : Record → String → Prop
  | .keyed fields, key => FirstUnset fields s.bindKeys key
  | .positional row, key => ¬ s.bindKeys.Nodup ∧ s.bindKeys.eraseDups[row.length]? = some key

/-- The record has no value for some key. -/
def Incomplete (s : Statement) : Record → Prop
  | .keyed fields => ∃ key ∈ s.bindKeys, fields.get? key = none
  | .positional row => ¬ s.bindKeys.Nodup ∧ row.length < s.bindKeys.eraseDups.length

/-! ### One record -/

section Records

variable {s : Statement} {record : KeyedRecord} {keys : List String} {index : Option Nat}
  {key : String} {e : DbError}

theorem firstUnset_iff :
    FirstUnset record keys key ↔
      keys.find? (fun key => (record.get? key).isNone) = some key := by
  rw [List.find?_eq_some_iff_append]
  simp only [FirstUnset, Option.isNone_iff_eq_none, Bool.not_eq_true', Option.isNone_eq_false_iff,
    Option.isSome_iff_ne_none]
  constructor
  · rintro ⟨before, after, split, held, lacks⟩
    exact ⟨lacks, before, after, split, held⟩
  · rintro ⟨lacks, before, after, split, held⟩
    exact ⟨before, after, split, held, lacks⟩

theorem exists_firstUnset :
    (∃ key, FirstUnset record keys key) ↔ ∃ key ∈ keys, record.get? key = none := by
  simp only [firstUnset_iff, ← Option.isSome_iff_exists, List.find?_isSome,
    Option.isNone_iff_eq_none]

/-- The values under some keys fail to be there with the first key that has none. -/
theorem valuesUnder_error_iff :
    keys.mapM (valueUnder record index) = .error e ↔
      ∃ key, FirstUnset record keys key ∧ e = .missingParameter key index := by
  simp only [firstUnset_iff]
  exact mapM_valueUnder_error_iff

/-- The values of a record in driver order; `index` is its place in a batch. -/
def bindAt (s : Statement) (record : Record) (index : Option Nat) : Except DbError Row :=
  match record with
  | .keyed fields => s.bindKeyed fields index
  | .positional row => s.bindPositional row index

/-- If a record lacks keys, one of them is the first. -/
theorem incomplete_iff {record : Record} :
    s.Incomplete record ↔ ∃ key, s.FirstMissing record key := by
  rcases record with fields | row
  · exact exists_firstUnset.symm
  · simp [Incomplete, FirstMissing, List.getElem?_eq_some_iff]

private theorem bindPositional_error_iff {row : Row} :
    s.bindPositional row index = .error e ↔
      ∃ key, s.FirstMissing (.positional row) key ∧ e = .missingParameter key index := by
  simp only [FirstMissing, ← Sql.firstAppearances_eq_eraseDups]
  constructor
  · intro fails
    have repeated : ¬ s.bindKeys.Nodup := by
      intro single
      rw [bindPositional_of_single single] at fails
      contradiction
    have few : row.length < (firstAppearances s.bindKeys).length := by
      by_contra enough
      rcases Nat.lt_or_ge row.length s.bindKeys.length with short | whole
      · rw [bindPositional_by_rank repeated short (Nat.not_lt.mp enough)] at fails
        contradiction
      · rw [bindPositional_by_slot repeated whole] at fails
        contradiction
    have next := List.getElem?_eq_getElem few
    rw [bindPositional_too_short repeated next] at fails
    exact ⟨_, ⟨repeated, next⟩, (Except.error.inj fails).symm⟩
  · rintro ⟨key, ⟨repeated, next⟩, rfl⟩
    exact bindPositional_too_short repeated next

/-- Binding fails at the first key without a value, with no other error. -/
theorem bindAt_error_iff {record : Record} :
    s.bindAt record index = .error e ↔
      ∃ key, s.FirstMissing record key ∧ e = .missingParameter key index := by
  rcases record with fields | row
  · exact valuesUnder_error_iff
  · exact bindPositional_error_iff

private theorem bind_eq (s : Statement) (record : Record) :
    s.bind record = s.bindAt record none := by
  cases record <;> rfl

theorem complete_of_bind {record : Record} {row : Row} (binds : s.bind record = .ok row) :
    ¬ s.Incomplete record := by
  intro incomplete
  obtain ⟨key, missing⟩ := incomplete_iff.mp incomplete
  have fails : s.bindAt record none = .error _ := bindAt_error_iff.mpr ⟨key, missing, rfl⟩
  rw [← bind_eq, binds] at fails
  contradiction

/-- A record that lacks no key binds. -/
theorem exists_bind {record : Record} (complete : ¬ s.Incomplete record) :
    ∃ row, s.bind record = .ok row := by
  rcases binds : s.bind record with e | row
  · rw [bind_eq] at binds
    obtain ⟨key, missing, -⟩ := bindAt_error_iff.mp binds
    exact absurd (incomplete_iff.mpr ⟨key, missing⟩) complete
  · exact ⟨row, rfl⟩

end Records

/-! ### Lists of records -/

section Lists

variable {α : Type} {one : α → Option Nat → Except DbError Row} {missing : α → String → Prop}

/-- Binding a list ends with the first element that misses something. -/
theorem bindEach_cases
    (spec : ∀ record index e, one record index = .error e ↔
      ∃ key, missing record key ∧ e = .missingParameter key index)
    (start : Nat) (records : List α) :
    ((∃ rows, bindEach one start records = .ok rows) ∧
        ∀ record ∈ records, ∀ key, ¬ missing record key) ∨
      ∃ before record after key, records = before ++ record :: after ∧
        (∀ other ∈ before, ∀ key, ¬ missing other key) ∧ missing record key ∧
        bindEach one start records =
          .error (.missingParameter key (some (start + before.length))) := by
  induction records generalizing start with
  | nil => exact Or.inl ⟨⟨[], rfl⟩, by simp⟩
  | cons record rest inductionHypothesis =>
      rcases here : one record (some start) with e | row
      · obtain ⟨key, misses, rfl⟩ := (spec _ _ _).mp here
        refine Or.inr ⟨[], record, rest, key, rfl, by simp, misses, ?_⟩
        rw [bindEach, here]
        rfl
      · have complete : ∀ key, ¬ missing record key := by
          intro key misses
          have fails := (spec record (some start) _).mpr ⟨key, misses, rfl⟩
          rw [here] at fails
          contradiction
        rcases inductionHypothesis (start + 1) with ⟨⟨rows, later⟩, all⟩ | found
        · refine Or.inl ⟨⟨row :: rows, ?_⟩, List.forall_mem_cons.mpr ⟨complete, all⟩⟩
          rw [bindEach, here, later]
          rfl
        · obtain ⟨before, first, after, key, rfl, earlier, misses, later⟩ := found
          have position : start + (record :: before).length = start + 1 + before.length := by
            rw [List.length_cons]
            omega
          refine Or.inr ⟨record :: before, first, after, key, rfl,
            List.forall_mem_cons.mpr ⟨complete, earlier⟩, misses, ?_⟩
          rw [bindEach, here, later, position]
          rfl

private theorem bindEach_map {β : Type} (one : α → Option Nat → Except DbError Row) (view : β → α)
    (start : Nat) (records : List β) :
    bindEach one start (records.map view) =
      bindEach (fun record => one (view record)) start records := by
  induction records generalizing start with
  | nil => rfl
  | cons record rest inductionHypothesis =>
      rw [List.map_cons, bindEach, inductionHypothesis, bindEach]

end Lists

/-- A batch binds record by record, whatever its shape. -/
theorem bindBatch_eq (s : Statement) (batch : Batch) :
    s.bindBatch batch = bindEach s.bindAt 0 batch.records := by
  rcases batch with records | rows
  · exact (bindEach_map s.bindAt Record.keyed 0 records).symm
  · exact (bindEach_map s.bindAt Record.positional 0 rows).symm

/-- Either all records of a batch bind, or the error names the first that is incomplete. -/
theorem bindBatch_cases (s : Statement) (batch : Batch) :
    ((∃ rows, s.bindBatch batch = .ok rows) ∧
        ∀ record ∈ batch.records, ¬ s.Incomplete record) ∨
      ∃ before record after key, batch.records = before ++ record :: after ∧
        (∀ other ∈ before, ¬ s.Incomplete other) ∧ s.FirstMissing record key ∧
        s.bindBatch batch = .error (.missingParameter key (some before.length)) := by
  have spec : ∀ record index e, s.bindAt record index = .error e ↔
      ∃ key, s.FirstMissing record key ∧ e = .missingParameter key index :=
    fun _ _ _ => bindAt_error_iff
  have ends := bindEach_cases spec 0 batch.records
  simp only [Nat.zero_add] at ends
  simpa only [bindBatch_eq, incomplete_iff, not_exists] using ends

theorem complete_of_bindBatch {s : Statement} {batch : Batch} {rows : List Row}
    (binds : s.bindBatch batch = .ok rows) : ∀ record ∈ batch.records, ¬ s.Incomplete record := by
  rcases s.bindBatch_cases batch with ⟨-, complete⟩ | ⟨_, _, _, _, _, _, _, fails⟩
  · exact complete
  · rw [binds] at fails
    contradiction

/-- A batch binds if no record lacks a key. -/
theorem exists_bindBatch {s : Statement} {batch : Batch}
    (complete : ∀ record ∈ batch.records, ¬ s.Incomplete record) :
    ∃ rows, s.bindBatch batch = .ok rows := by
  rcases s.bindBatch_cases batch with ⟨binds, -⟩ | found
  · exact binds
  · obtain ⟨before, record, after, key, records, -, missing, -⟩ := found
    have member : record ∈ batch.records := by simp [records]
    exact absurd (incomplete_iff.mpr ⟨key, missing⟩) (complete record member)

end Statement

end SqlBind

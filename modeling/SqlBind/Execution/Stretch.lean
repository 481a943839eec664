import SqlBind.Config
import SqlBind.Value

/-!
Owns: the stretches of a batch that are still to be sent, and how they get smaller. The next
chunk of a stretch is sent at once; after a failure it becomes a stretch of its own with a tenth
of the chunk size, and what follows it keeps its chunk size.

Main statements: sending a chunk makes the work left smaller (`work_remaining_lt`), and so does
retrying it with smaller chunks (`work_retry_lt`).
-/

set_option autoImplicit false

namespace SqlBind.Execution

/-- The chunk size after a chunk failed within a stretch of `width` records. -/
def shrink (chunkSize width : Nat) : Nat :=
  if perRecordThreshold < min chunkSize width / 10 then min chunkSize width / 10 else 1

theorem shrink_pos (chunkSize width : Nat) : 0 < shrink chunkSize width := by
  simp only [shrink]
  split <;> omega

theorem shrink_add_two_le (chunkSize width : Nat) (large : perRecordThreshold < chunkSize) :
    shrink chunkSize width + 2 ≤ chunkSize := by
  unfold shrink
  have threshold : perRecordThreshold = 10 := rfl
  split <;> omega

/-- Consecutive records that are to be sent in chunks of one size. -/
structure Stretch where
  /-- The index of the first record in the whole batch. -/
  start : Nat
  records : List Row
  chunkSize : Nat
  /-- How many records the stretch had when its chunk size was chosen. -/
  width : Nat
  chunkSize_pos : 0 < chunkSize
  records_ne : records ≠ []

namespace Stretch

/-- The records to be sent next. -/
def chunk (s : Stretch) : List Row := s.records.take s.chunkSize

def range (s : Stretch) : ChunkRange := ⟨s.start, s.start + s.chunk.length⟩

theorem length_chunk_pos (s : Stretch) : 0 < s.chunk.length := by
  have nonempty := List.length_pos_iff.mpr s.records_ne
  have positive := s.chunkSize_pos
  simp only [chunk, List.length_take]
  omega

/-- What follows the next chunk: a stretch, unless the chunk was the last one. -/
def remaining (s : Stretch) : List Stretch :=
  if rest_ne : s.records.drop s.chunkSize ≠ [] then
    [⟨s.range.stop, s.records.drop s.chunkSize, s.chunkSize, s.width, s.chunkSize_pos, rest_ne⟩]
  else []

/-- The next chunk as a stretch of its own, in smaller chunks. -/
def retry (s : Stretch) : Stretch :=
  ⟨s.start, s.chunk, shrink s.chunkSize s.width, s.chunk.length, shrink_pos _ _,
    List.length_pos_iff.mp s.length_chunk_pos⟩

/-- Whether a failure leads to single records instead of smaller chunks. -/
def isSmall (s : Stretch) : Bool :=
  s.chunkSize ≤ perRecordThreshold || s.width ≤ perRecordThreshold

/-- A bound on the work that a stretch still causes. -/
def work (s : Stretch) : Nat := s.records.length * (s.chunkSize + 1)

def totalWork : List Stretch → Nat
  | [] => 0
  | s :: rest => s.work + totalWork rest

theorem totalWork_append (left right : List Stretch) :
    totalWork (left ++ right) = totalWork left + totalWork right := by
  induction left with
  | nil => exact (Nat.zero_add _).symm
  | cons s rest inductionHypothesis =>
      simp only [List.cons_append, totalWork]
      rw [inductionHypothesis, Nat.add_assoc]

/-- The work of a stretch is that of what remains, and a share for each record of its chunk. -/
theorem work_remaining (s : Stretch) :
    totalWork s.remaining + s.chunk.length * (s.chunkSize + 1) = s.work := by
  have split : s.records.length = s.chunk.length + (s.records.drop s.chunkSize).length := by
    simp only [chunk, List.length_take, List.length_drop]
    omega
  simp only [remaining]
  split
  · simp only [totalWork, work, Nat.add_zero, split, Nat.add_mul]
    omega
  · rename_i rest_nil
    rw [Decidable.not_not] at rest_nil
    simp only [totalWork, work, Nat.zero_add]
    rw [rest_nil, List.length_nil, Nat.add_zero] at split
    rw [split]

/-- There is less work left once a chunk is settled. -/
theorem work_remaining_lt (s : Stretch) (rest : List Stretch) :
    totalWork (s.remaining ++ rest) < totalWork (s :: rest) := by
  have balance := s.work_remaining
  have positive : 0 < s.chunk.length * (s.chunkSize + 1) :=
    Nat.mul_pos s.length_chunk_pos (Nat.succ_pos _)
  simp only [totalWork, totalWork_append] at *
  omega

/-- There is also less work left once a large chunk is to be tried again in smaller ones. -/
theorem work_retry_lt (s : Stretch) (rest : List Stretch) (large : s.isSmall = false) :
    totalWork (s.retry :: (s.remaining ++ rest)) < totalWork (s :: rest) := by
  have balance := s.work_remaining
  have big : perRecordThreshold < s.chunkSize := by
    simp only [isSmall, Bool.or_eq_false_iff, decide_eq_false_iff_not] at large
    omega
  have smaller := shrink_add_two_le s.chunkSize s.width big
  have retried : s.retry.work < s.chunk.length * (s.chunkSize + 1) :=
    Nat.mul_lt_mul_of_pos_left (by simp only [retry]; omega) s.length_chunk_pos
  simp only [totalWork, totalWork_append] at *
  omega

end Stretch

end SqlBind.Execution

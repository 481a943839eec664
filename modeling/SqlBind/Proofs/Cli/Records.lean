import SqlBind.Cli.RecordFile
import SqlBind.Proofs.Binding.Missing

/-!
Owns: what a file with one record to a line is read as. Two numberings meet here, that of the
physical lines, which counts the blank ones, and that of the records, which does not. They are kept
apart by stating each ending on the whole list it speaks of: the lines of the text, the documents in
them or the records that these are.

Main statement: a text is read as exactly the ending it has, and as the array of its documents is
read (`lines_read_as_endings`).
-/

set_option autoImplicit false

namespace SqlBind

def Json.isComposite : Json → Bool
  | .object _ | .array _ => true
  | _ => false

namespace Cli

namespace RecordFile

/-! ### The endings -/

/-- A line without the carriage return at its end. -/
def withoutReturn (line : List Char) : List Char :=
  if line.getLast? = some '\r' then line.dropLast else line

/-- The lines of what stands between line feeds: all but the last were ended by one. -/
def endedLines : List (List Char) → List (List Char)
  | [] => []
  | [last] => [last]
  | piece :: next :: rest => withoutReturn piece :: endedLines (next :: rest)

/-- The physical lines of a text. -/
def physicalLines (text : List Char) : List (List Char) := endedLines (text.splitOn '\n')

/-- A line with nothing but white space. -/
def Blank (line : List Char) : Prop := ∀ c ∈ line, Text.isBlank c = true

instance (line : List Char) : Decidable (Blank line) :=
  inferInstanceAs (Decidable (∀ c ∈ line, Text.isBlank c = true))

/-- The lines of a text that are not blank, in order. -/
def filledLines (text : List Char) : List (List Char) :=
  (physicalLines text).filter (¬ Blank ·)

/-- Every line of the text that is not blank is one of the documents, in order. -/
def Documents (readJson : List Char → Option Json) (text : List Char) (documents : List Json) :
    Prop :=
  (filledLines text).map readJson = documents.map some

/-- How the lines of a text can end up: one constructor for each ending. -/
inductive Ending (readJson : List Char → Option Json) (text : List Char) :
    Except RecordFileFault Batch → Prop where
  /-- A line that is not blank is not JSON, and every one before it is. -/
  | notJson {before after : List (List Char)} {line : List Char}
      (lines : physicalLines text = before ++ line :: after)
      (filled : ¬ Blank line) (unread : readJson line = none)
      (earlier : ∀ other ∈ before, ¬ Blank other → ∃ document, readJson other = some document) :
      Ending readJson text (.error (.line (before.length + 1)))
  /-- A document is neither an object nor an array, and every one before it is. -/
  | notRecord {before after : List Json} {document : Json}
      (documents : Documents readJson text (before ++ document :: after))
      (simple : document.isComposite = false)
      (earlier : ∀ other ∈ before, other.isComposite = true) :
      Ending readJson text (.error (.record (.validation
        ("expected a JSON object or array as a record, got " ++ document.compact))))
  /-- A record has another shape than the first, and every one before it has the same. -/
  | otherShape {documents : List Json} {first record : Record} {before after : List Record}
      (read : Documents readJson text documents)
      (records : documents.map Record.ofJson = (first :: before ++ record :: after).map .ok)
      (other : record.shape ≠ first.shape)
      (earlier : ∀ same ∈ before, same.shape = first.shape) :
      Ending readJson text (.error (.record (.validation
        ("record " ++ toString (before.length + 1) ++ " does not match the batch shape (expected "
          ++ first.shape ++ ")"))))
  /-- All lines that are not blank are records of one shape. Without any the batch is a keyed
  one. -/
  | batch {documents : List Json} {batch : Batch}
      (read : Documents readJson text documents)
      (records : documents.map Record.ofJson = batch.records.map .ok)
      (alike : ∀ record ∈ batch.records, ∀ other ∈ batch.records, record.shape = other.shape)
      (empty : batch.records = [] → batch = .keyed []) :
      Ending readJson text (.ok batch)

/-! ### Physical lines -/

theorem exists_pieces (text : List Char) : ∃ piece rest, text.splitOn '\n' = piece :: rest :=
  List.exists_cons_of_ne_nil (List.splitOn_ne_nil '\n' text)

private theorem physicalLines_feed (rest : List Char) :
    physicalLines ('\n' :: rest) = [] :: physicalLines rest := by
  obtain ⟨piece, later, split⟩ := exists_pieces rest
  unfold physicalLines
  rw [List.splitOn_cons_eq_if_modifyHead, if_pos (by decide), split]
  rfl

private theorem physicalLines_return_feed (rest : List Char) :
    physicalLines ('\r' :: '\n' :: rest) = [] :: physicalLines rest := by
  obtain ⟨piece, later, split⟩ := exists_pieces rest
  unfold physicalLines
  rw [List.splitOn_cons_eq_if_modifyHead, if_neg (by decide),
    List.splitOn_cons_eq_if_modifyHead, if_pos (by decide), split]
  rfl

private theorem withoutReturn_cons_cons (c d : Char) (line : List Char) :
    withoutReturn (c :: d :: line) = c :: withoutReturn (d :: line) := by
  unfold withoutReturn
  rw [List.getLast?_cons_cons, List.dropLast_cons_cons]
  split <;> rfl

private theorem withoutReturn_cons {c : Char} {line : List Char} (kept : line = [] → c ≠ '\r') :
    withoutReturn (c :: line) = c :: withoutReturn line := by
  rcases line with _ | ⟨d, line⟩
  · exact if_neg fun returned => kept rfl (Option.some.inj returned)
  · exact withoutReturn_cons_cons c d line

/-- A character other than a line feed joins the line that follows it, unless it is the carriage
return that this line feed takes with it. -/
theorem physicalLines_cons {c : Char} {rest first : List Char} {more : List (List Char)}
    (other : c ≠ '\n') (kept : ∀ later, rest = '\n' :: later → c ≠ '\r')
    (lines : physicalLines rest = first :: more) :
    physicalLines (c :: rest) = (c :: first) :: more := by
  obtain ⟨piece, later, split⟩ := exists_pieces rest
  unfold physicalLines at lines ⊢
  rw [List.splitOn_cons_eq_if_modifyHead, if_neg (by simpa using other), split]
  rw [split] at lines
  rcases later with _ | ⟨next, later⟩
  · cases lines
    rfl
  · obtain ⟨rfl, rfl⟩ := List.cons.inj lines
    have joins : withoutReturn (c :: piece) = c :: withoutReturn piece := by
      apply withoutReturn_cons
      rintro rfl
      -- An empty piece that another one follows stands before a line feed.
      have begins : rest = '\n' :: ['\n'].intercalate (next :: later) :=
        (split ▸ List.intercalate_splitOn '\n').symm
      exact kept _ begins
    simp only [List.modifyHead, endedLines, joins]

private theorem exists_physicalLines (text : List Char) :
    ∃ first more, physicalLines text = first :: more := by
  obtain ⟨piece, later, split⟩ := exists_pieces text
  unfold physicalLines
  rw [split]
  rcases later with _ | ⟨next, later⟩
  · exact ⟨_, _, rfl⟩
  · exact ⟨_, _, rfl⟩

private theorem splitLines_eq_physicalLines (text : List Char) :
    splitLines text = physicalLines text := by
  induction text using splitLines.induct with
  | case1 => rfl
  | case2 rest inductionHypothesis =>
      rw [splitLines, inductionHypothesis, physicalLines_feed]
  | case3 rest inductionHypothesis =>
      rw [splitLines, inductionHypothesis, physicalLines_return_feed]
  | case4 c rest other kept first more lines inductionHypothesis =>
      rw [splitLines, lines]
      · refine (physicalLines_cons other ?_ (inductionHypothesis ▸ lines)).symm
        intro later begins isReturn
        exact kept later isReturn begins
      · exact other
      · exact kept
  | case5 c rest _ _ lines inductionHypothesis =>
      obtain ⟨first, more, some⟩ := exists_physicalLines rest
      rw [← inductionHypothesis, lines] at some
      contradiction

/-! ### Lines and documents -/

def numberedFrom (start : Nat) (lines : List (List Char)) : List (List Char × Nat) :=
  (lines.zipIdx start).filter fun line => !Text.allBlank line.1

private theorem numberedLines_eq (text : List Char) :
    numberedLines text = numberedFrom 1 (physicalLines text) := by
  rw [numberedLines, splitLines_eq_physicalLines]
  rfl

private theorem blank_iff (line : List Char) :
    Text.allBlank line = true ↔ Blank line :=
  List.all_eq_true

private theorem numberedFrom_blank {start : Nat} {line : List Char} {rest : List (List Char)}
    (blank : Blank line) : numberedFrom start (line :: rest) = numberedFrom (start + 1) rest := by
  unfold numberedFrom
  rw [List.zipIdx_cons, List.filter_cons_of_neg]
  simpa using (blank_iff line).mpr blank

private theorem numberedFrom_filled {start : Nat} {line : List Char} {rest : List (List Char)}
    (filled : ¬ Blank line) :
    numberedFrom start (line :: rest) = (line, start) :: numberedFrom (start + 1) rest := by
  unfold numberedFrom
  rw [List.zipIdx_cons, List.filter_cons_of_pos]
  simpa [← blank_iff] using filled

section Reading

variable {readJson : List Char → Option Json}

/-- One step over a line. -/
theorem readLines_numberedFrom_cons (start : Nat) (line : List Char) (rest : List (List Char)) :
    readLines readJson (numberedFrom start (line :: rest)) =
      if Blank line then readLines readJson (numberedFrom (start + 1) rest)
      else match readJson line with
        | none => .error (.line start)
        | some document =>
          (readLines readJson (numberedFrom (start + 1) rest)).map (document :: ·) := by
  split
  · rename_i blank
    rw [numberedFrom_blank blank]
  · rename_i filled
    rw [numberedFrom_filled filled]
    rfl

private theorem readLines_of_documents {start : Nat} {lines : List (List Char)}
    {documents : List Json} (read : (lines.filter (¬ Blank ·)).map readJson = documents.map some) :
    readLines readJson (numberedFrom start lines) = .ok documents := by
  induction lines generalizing start documents with
  | nil =>
      obtain rfl := List.map_eq_nil_iff.mp read.symm
      rfl
  | cons line rest inductionHypothesis =>
      rw [readLines_numberedFrom_cons]
      by_cases blank : Blank line
      · rw [List.filter_cons_of_neg (by simpa using blank)] at read
        rw [if_pos blank, inductionHypothesis read]
      · rw [List.filter_cons_of_pos (by simpa using blank)] at read
        obtain ⟨document, later, rfl, first, following⟩ := List.map_eq_cons_iff.mp read.symm
        rw [if_neg blank, ← first, inductionHypothesis following.symm]
        rfl

private theorem readLines_of_unread {start : Nat} {before after : List (List Char)}
    {line : List Char} (filled : ¬ Blank line) (unread : readJson line = none)
    (earlier : ∀ other ∈ before, ¬ Blank other → ∃ document, readJson other = some document) :
    readLines readJson (numberedFrom start (before ++ line :: after)) =
      .error (.line (start + before.length)) := by
  induction before generalizing start with
  | nil =>
      rw [List.nil_append, readLines_numberedFrom_cons, if_neg filled, unread]
      rfl
  | cons other before inductionHypothesis =>
      obtain ⟨first, earlier⟩ := List.forall_mem_cons.mp earlier
      have position : start + (other :: before).length = start + 1 + before.length := by
        rw [List.length_cons]
        omega
      rw [List.cons_append, readLines_numberedFrom_cons, inductionHypothesis earlier, position]
      split
      · rfl
      · rename_i filled
        obtain ⟨document, reads⟩ := first filled
        rw [reads]
        rfl

/-- Either all lines that are not blank are JSON, or there is a first that is not. -/
theorem documents_or_unread (readJson : List Char → Option Json) (lines : List (List Char)) :
    (∃ documents : List Json,
        (lines.filter (¬ Blank ·)).map readJson = documents.map some) ∨
      ∃ before line after, lines = before ++ line :: after ∧ ¬ Blank line ∧
        readJson line = none ∧
        ∀ other ∈ before, ¬ Blank other → ∃ document, readJson other = some document := by
  induction lines with
  | nil => exact Or.inl ⟨[], rfl⟩
  | cons line rest inductionHypothesis =>
      by_cases reads : ¬ Blank line → ∃ document, readJson line = some document
      · rcases inductionHypothesis with ⟨documents, read⟩ | ⟨before, bad, after, rfl, found⟩
        · left
          by_cases blank : Blank line
          · exact ⟨documents, by rw [List.filter_cons_of_neg (by simpa using blank), read]⟩
          · obtain ⟨document, first⟩ := reads blank
            refine ⟨document :: documents, ?_⟩
            rw [List.filter_cons_of_pos (by simpa using blank), List.map_cons, first, read]
            rfl
        · obtain ⟨filled, unread, earlier⟩ := found
          exact Or.inr ⟨line :: before, bad, after, rfl, filled, unread,
            List.forall_mem_cons.mpr ⟨reads, earlier⟩⟩
      · right
        obtain ⟨filled, unread⟩ := Classical.not_imp.mp reads
        refine ⟨[], line, rest, rfl, filled, ?_, by simp⟩
        exact Option.eq_none_iff_forall_ne_some.mpr fun document reads => unread ⟨document, reads⟩

end Reading

/-! ### Documents and records -/

private theorem exists_record {document : Json} (composite : document.isComposite = true) :
    ∃ record, Record.ofJson document = .ok record := by
  unfold Json.isComposite at composite
  split at composite
  · exact ⟨_, rfl⟩
  · exact ⟨_, rfl⟩
  · contradiction

private theorem ofJson_simple {document : Json} (simple : document.isComposite = false) :
    Record.ofJson document =
      .error (.validation
        ("expected a JSON object or array as a record, got " ++ document.compact)) := by
  unfold Record.ofJson
  split
  · contradiction
  · contradiction
  · rfl

private theorem toRecords_of_records {documents : List Json} {records : List Record}
    (each : documents.map Record.ofJson = records.map .ok) :
    toRecords documents = .ok records := by
  induction documents generalizing records with
  | nil =>
      obtain rfl := List.map_eq_nil_iff.mp each.symm
      rfl
  | cons document rest inductionHypothesis =>
      obtain ⟨record, later, rfl, first, following⟩ := List.map_eq_cons_iff.mp each.symm
      rw [toRecords, ← first, inductionHypothesis following.symm]
      rfl

private theorem toRecords_of_simple {before after : List Json} {document : Json}
    (simple : document.isComposite = false)
    (earlier : ∀ other ∈ before, other.isComposite = true) :
    toRecords (before ++ document :: after) =
      .error (.validation
        ("expected a JSON object or array as a record, got " ++ document.compact)) := by
  induction before with
  | nil =>
      rw [List.nil_append, toRecords, ofJson_simple simple]
      rfl
  | cons other before inductionHypothesis =>
      obtain ⟨composite, earlier⟩ := List.forall_mem_cons.mp earlier
      obtain ⟨record, first⟩ := exists_record composite
      rw [List.cons_append, toRecords, first, inductionHypothesis earlier]
      rfl

/-- Either all documents are records, or there is a first that is none. -/
theorem records_or_simple (documents : List Json) :
    (∃ records : List Record, documents.map Record.ofJson = records.map .ok) ∨
      ∃ before document after, documents = before ++ document :: after ∧
        document.isComposite = false ∧ ∀ other ∈ before, other.isComposite = true := by
  induction documents with
  | nil => exact Or.inl ⟨[], rfl⟩
  | cons document rest inductionHypothesis =>
      rcases composite : document.isComposite with _ | _
      · exact Or.inr ⟨[], document, rest, rfl, composite, by simp⟩
      · rcases inductionHypothesis with ⟨records, each⟩ | ⟨before, simple, after, rfl, found⟩
        · obtain ⟨record, first⟩ := exists_record composite
          exact Or.inl ⟨record :: records, by rw [List.map_cons, first, each]; rfl⟩
        · exact Or.inr ⟨document :: before, simple, after, rfl, found.1,
            List.forall_mem_cons.mpr ⟨composite, found.2⟩⟩

/-! ### Records and batches -/

/-- What collects the records of one shape: those that `make` makes. -/
structure Collects {α : Type} (shape : String) (make : α → Record)
    (collect : Nat → List Record → Except DbError (List α)) : Prop where
  made : ∀ record : Record, record.shape = shape → ∃ content, record = make content
  nil : ∀ index, collect index [] = .ok []
  same : ∀ index content rest,
    collect index (make content :: rest) = (collect (index + 1) rest).map (content :: ·)
  other : ∀ index (record : Record) rest, record.shape ≠ shape →
    collect index (record :: rest) = .error (Batch.shapeMismatch index shape)

theorem collects_keyed : Collects "keyed" .keyed Batch.collectKeyed where
  made record alike := by
    rcases record with fields | row
    · exact ⟨fields, rfl⟩
    · exact absurd alike (by simp [Record.shape])
  nil index := rfl
  same index fields rest := rfl
  other index record rest differs := by
    rcases record with fields | row
    · exact absurd rfl differs
    · rfl

theorem collects_positional : Collects "positional" .positional Batch.collectPositional where
  made record alike := by
    rcases record with fields | row
    · exact absurd alike (by simp [Record.shape])
    · exact ⟨row, rfl⟩
  nil index := rfl
  same index row rest := rfl
  other index record rest differs := by
    rcases record with fields | row
    · rfl
    · exact absurd rfl differs

namespace Collects

variable {α : Type} {shape : String} {make : α → Record}
  {collect : Nat → List Record → Except DbError (List α)} (collects : Collects shape make collect)

include collects

/-- Records of one shape are collected, all of them and in order. -/
theorem all (index : Nat) (contents : List α) :
    collect index (contents.map make) = .ok contents := by
  induction contents generalizing index with
  | nil => exact collects.nil index
  | cons content rest inductionHypothesis =>
      rw [List.map_cons, collects.same, inductionHypothesis]
      rfl

/-- The first record of another shape ends the collection, by its index. -/
theorem stops {index : Nat} {before after : List Record} {record : Record}
    (other : record.shape ≠ shape) (earlier : ∀ same ∈ before, same.shape = shape) :
    collect index (before ++ record :: after) =
      .error (Batch.shapeMismatch (index + before.length) shape) := by
  induction before generalizing index with
  | nil => exact collects.other index record after other
  | cons same before inductionHypothesis =>
      obtain ⟨alike, following⟩ := List.forall_mem_cons.mp earlier
      obtain ⟨content, rfl⟩ := collects.made same alike
      have position : index + (make content :: before).length = index + 1 + before.length := by
        rw [List.length_cons]
        omega
      rw [List.cons_append, collects.same, inductionHypothesis following, position]
      rfl

private theorem exists_contents {records : List Record}
    (alike : ∀ record ∈ records, record.shape = shape) :
    ∃ contents : List α, records = contents.map make := by
  induction records with
  | nil => exact ⟨[], rfl⟩
  | cons record rest inductionHypothesis =>
      obtain ⟨first, following⟩ := List.forall_mem_cons.mp alike
      obtain ⟨content, rfl⟩ := collects.made record first
      obtain ⟨contents, rfl⟩ := inductionHypothesis following
      exact ⟨content :: contents, rfl⟩

end Collects

private theorem ofRecords_records {batch : Batch} (empty : batch.records = [] → batch = .keyed []) :
    Batch.ofRecords batch.records = .ok batch := by
  rcases batch with records | rows
  · rcases records with _ | ⟨fields, rest⟩
    · rfl
    · simp only [Batch.records, List.map_cons, Batch.ofRecords, collects_keyed.all]
      rfl
  · rcases rows with _ | ⟨row, rest⟩
    · rw [empty rfl]
      rfl
    · simp only [Batch.records, List.map_cons, Batch.ofRecords, collects_positional.all]
      rfl

private theorem ofRecords_other {first record : Record} {before after : List Record}
    (other : record.shape ≠ first.shape) (earlier : ∀ same ∈ before, same.shape = first.shape) :
    Batch.ofRecords (first :: before ++ record :: after) =
      .error (Batch.shapeMismatch (first :: before).length first.shape) := by
  rcases first with fields | row
  · rw [List.cons_append, Batch.ofRecords, collects_keyed.stops other earlier, Nat.add_comm]
    rfl
  · rw [List.cons_append, Batch.ofRecords, collects_positional.stops other earlier, Nat.add_comm]
    rfl

private theorem exists_batch {first : Record} {rest : List Record}
    (alike : ∀ record ∈ rest, record.shape = first.shape) :
    ∃ batch : Batch, batch.records = first :: rest := by
  rcases first with fields | row
  · obtain ⟨batch, rfl⟩ := collects_keyed.exists_contents alike
    exact ⟨.keyed (fields :: batch), rfl⟩
  · obtain ⟨rows, rfl⟩ := collects_positional.exists_contents alike
    exact ⟨.positional (row :: rows), rfl⟩

/-- Either some records have one shape, and form a batch, or there is a first that has another shape
than the first of them all. -/
theorem batch_or_other (records : List Record) :
    (∃ batch : Batch, batch.records = records ∧ (records = [] → batch = .keyed []) ∧
        ∀ record ∈ records, ∀ other ∈ records, record.shape = other.shape) ∨
      ∃ first before record after, records = first :: before ++ record :: after ∧
        record.shape ≠ first.shape ∧ ∀ same ∈ before, same.shape = first.shape := by
  rcases records with _ | ⟨first, rest⟩
  · exact Or.inl ⟨.keyed [], rfl, fun _ => rfl, by simp⟩
  · rcases found : rest.find? (·.shape ≠ first.shape) with _ | record
    · have alike : ∀ record ∈ rest, record.shape = first.shape := by
        simpa using List.find?_eq_none.mp found
      have all : ∀ record ∈ first :: rest, record.shape = first.shape :=
        List.forall_mem_cons.mpr ⟨rfl, alike⟩
      obtain ⟨batch, records⟩ := exists_batch alike
      refine Or.inl ⟨batch, records, by simp, fun record member other others => ?_⟩
      rw [all record member, all other others]
    · obtain ⟨differs, before, after, rfl, earlier⟩ := List.find?_eq_some_iff_append.mp found
      exact Or.inr ⟨first, before, record, after, rfl, by simpa using differs,
        by simpa using earlier⟩

private theorem toBatch_of_records {documents : List Json} {records : List Record}
    (each : documents.map Record.ofJson = records.map .ok) :
    toBatch documents = Batch.ofRecords records := by
  unfold toBatch
  rw [toRecords_of_records each]
  rfl

/-! ### Files -/

section Endings

variable {readJson : List Char → Option Json} {text : List Char}

/-- Lines that all hold documents are read as these documents. -/
theorem documents_of_lines {documents : List Json} (read : Documents readJson text documents) :
    RecordFile.documents readJson .lines text = .ok documents := by
  unfold RecordFile.documents
  rw [numberedLines_eq]
  exact readLines_of_documents read

/-- The documents decide, however they were found. -/
theorem parseRecords_of_documents {format : RecordFormat} {documents : List Json}
    (found : RecordFile.documents readJson format text = .ok documents) :
    parseRecords readJson format text =
      match toBatch documents with
      | .ok batch => .ok batch
      | .error e => .error (.record e) := by
  unfold parseRecords
  rw [found]
  rfl

/-- Whatever ending the lines have, reading them gives its result. -/
theorem Ending.parse {result : Except RecordFileFault Batch}
    (ending : Ending readJson text result) : parseRecords readJson .lines text = result := by
  cases ending with
  | notJson lines filled unread earlier =>
      rename_i before after line
      have fails : RecordFile.documents readJson .lines text =
          .error (.line (1 + before.length)) := by
        unfold RecordFile.documents
        rw [numberedLines_eq, lines]
        exact readLines_of_unread filled unread earlier
      unfold parseRecords
      rw [fails, Nat.add_comm]
      rfl
  | notRecord documents simple earlier =>
      rw [parseRecords_of_documents (documents_of_lines documents), toBatch,
        toRecords_of_simple simple earlier]
      rfl
  | otherShape read records other earlier =>
      rw [parseRecords_of_documents (documents_of_lines read), toBatch_of_records records,
        ofRecords_other other earlier]
      rfl
  | batch read records alike empty =>
      rw [parseRecords_of_documents (documents_of_lines read), toBatch_of_records records,
        ofRecords_records empty]

/-- Some ending fits every text. -/
theorem exists_ending (readJson : List Char → Option Json) (text : List Char) :
    ∃ result, Ending readJson text result := by
  rcases documents_or_unread readJson (physicalLines text) with ⟨documents, read⟩ | unread
  · rcases records_or_simple documents with ⟨records, each⟩ | simple
    · rcases batch_or_other records with ⟨batch, rfl, empty, alike⟩ | other
      · exact ⟨_, .batch read each alike empty⟩
      · obtain ⟨first, before, record, after, rfl, other, earlier⟩ := other
        exact ⟨_, .otherShape read each other earlier⟩
    · obtain ⟨before, document, after, rfl, simple, earlier⟩ := simple
      exact ⟨_, .notRecord read simple earlier⟩
  · obtain ⟨before, line, after, lines, filled, none, earlier⟩ := unread
    exact ⟨_, .notJson lines filled none earlier⟩

end Endings

end RecordFile

end Cli

end SqlBind

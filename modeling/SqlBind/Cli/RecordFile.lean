import SqlBind.Cli.Path
import SqlBind.Json.Reader
import SqlBind.Record
import SqlBind.Text.Blank

/-!
Owns: reading the records of a file, which holds them in one JSON array or one to a line. Blank
lines are passed over but counted.
-/

set_option autoImplicit false

namespace SqlBind.Cli

inductive RecordFormat where
  /-- One JSON array of records. -/
  | array
  /-- One record to a line. -/
  | lines
deriving DecidableEq, Repr, Inhabited

inductive RecordFileFault where
  /-- The text is not a JSON array. -/
  | malformed
  /-- The line of this number, counted from 1, is not JSON. -/
  | line (number : Nat)
  | record (error : DbError)
deriving Inhabited

namespace RecordFileFault

/-- The text of the complaint; `json` says what is wrong with a text that is not JSON. -/
def message (json : String) : RecordFileFault → String
  | malformed => json
  | line number => "line " ++ toString number ++ ": " ++ json
  | record error => error.message

end RecordFileFault

namespace RecordFormat

/-- The format of a file, by the ending of its name. -/
def ofPath (path : String) : RecordFormat :=
  match Path.extension? path with
  | some "jsonl" | some "ndjson" => lines
  | _ => array

end RecordFormat

namespace RecordFile

/-- The lines of a text. A line feed ends a line, together with a carriage return right before
it. -/
def splitLines : List Char → List (List Char)
  | [] => [[]]
  | '\n' :: rest => [] :: splitLines rest
  | '\r' :: '\n' :: rest => [] :: splitLines rest
  | c :: rest =>
    match splitLines rest with
    | first :: more => (c :: first) :: more
    | [] => [[c]]

def numberedLines (text : List Char) : List (List Char × Nat) :=
  ((splitLines text).zipIdx 1).filter fun line => !Text.allBlank line.1

/-- The documents of some lines, up to the first line that is not JSON. -/
def readLines (readJson : List Char → Option Json) :
    List (List Char × Nat) → Except RecordFileFault (List Json)
  | [] => .ok []
  | (line, number) :: rest =>
    match readJson line with
    | none => .error (.line number)
    | some document => (readLines readJson rest).map (document :: ·)

def documents (readJson : List Char → Option Json) (format : RecordFormat) (text : List Char) :
    Except RecordFileFault (List Json) :=
  match format with
  | .lines => readLines readJson (numberedLines text)
  | .array =>
    match readJson text with
    | some (.array items) => .ok items
    | _ => .error .malformed

/-- The records of some documents, up to the first that is no record. -/
def toRecords : List Json → Except DbError (List Record)
  | [] => .ok []
  | document :: rest => do
    let record ← Record.ofJson document
    return record :: (← toRecords rest)

def toBatch (documents : List Json) : Except DbError Batch := do
  Batch.ofRecords (← toRecords documents)

/-- The batch that a text holds; `readJson` reads the JSON in it. -/
def parseRecords (readJson : List Char → Option Json) (format : RecordFormat) (text : List Char) :
    Except RecordFileFault Batch := do
  let documents ← documents readJson format text
  match toBatch documents with
  | .ok batch => return batch
  | .error e => throw (.record e)

def read (format : RecordFormat) (text : String) : Except RecordFileFault Batch :=
  parseRecords (Json.read? Json.nestingLimit) format text.toList

end RecordFile

end SqlBind.Cli

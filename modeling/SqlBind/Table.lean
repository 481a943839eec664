import SqlBind.Ident
import SqlBind.Session

/-!
Owns: writing to one table without writing SQL. The statements are generated with named
placeholders (`:c0` for inserted columns, `:u0` for changes, `:w0` for conditions), so they pass
through the compiler and the batches like any other statement.
-/

set_option autoImplicit false

namespace SqlBind

structure Table where
  name : Ident
deriving DecidableEq, Repr, Inhabited

/-- The rows that a merge removed and inserted. -/
structure MergeOutcome where
  deleted : Nat
  inserted : Nat
deriving DecidableEq, Repr, Inhabited

namespace MergeOutcome

/-- Rows that did not exist before the merge. -/
def netNew (o : MergeOutcome) : Int := o.inserted - o.deleted

end MergeOutcome

namespace Sql

def joined (separator : List Char) : List (List Char) → List Char
  | [] => []
  | [text] => text
  | text :: rest => text ++ separator ++ joined separator rest

/-- The placeholder with a letter and a number for its name. -/
def numbered (letter : Char) (index : Nat) : List Char := ':' :: letter :: Nat.toDigits 10 index

/-- The placeholders of `columns`, numbered from `index`. -/
def numberedFor (letter : Char) (index : Nat) : List Ident → List (List Char)
  | [] => []
  | _ :: rest => numbered letter index :: numberedFor letter (index + 1) rest

/-- `a = :u0`, `b = :u1`, …, numbered from `index`. -/
def equations (letter : Char) (index : Nat) : List Ident → List (List Char)
  | [] => []
  | column :: rest =>
    (column.chars ++ " = ".toList ++ numbered letter index) :: equations letter (index + 1) rest

/-- `a = :w0 AND b = :w1`. -/
def condition (columns : List Ident) : List Char :=
  joined " AND ".toList (equations 'w' 0 columns)

/-- `INSERT INTO t (a, b) VALUES (:c0, :c1)`. -/
def insertText (table : Ident) (columns : List Ident) : String :=
  String.ofList ("INSERT INTO ".toList ++ table.chars ++ " (".toList
    ++ joined ", ".toList (columns.map Ident.chars) ++ ") VALUES (".toList
    ++ joined ", ".toList (numberedFor 'c' 0 columns) ++ [')'])

/-- `UPDATE t SET a = :u0 WHERE b = :w0`, without the end if there is no condition. -/
def updateText (table : Ident) (changed conditioned : List Ident) : String :=
  String.ofList ("UPDATE ".toList ++ table.chars ++ " SET ".toList
    ++ joined ", ".toList (equations 'u' 0 changed)
    ++ (if conditioned.isEmpty then [] else " WHERE ".toList ++ condition conditioned))

/-- `DELETE FROM t WHERE a = :w0`. -/
def deleteText (table : Ident) (conditioned : List Ident) : String :=
  String.ofList ("DELETE FROM ".toList ++ table.chars ++ " WHERE ".toList ++ condition conditioned)

/-- `DELETE FROM t`. -/
def deleteAllText (table : Ident) : String :=
  String.ofList ("DELETE FROM ".toList ++ table.chars)

end Sql

namespace Table

variable {σ : Type}

def parseName (text : String) : Except DbError Ident :=
  match Ident.parse text with
  | .ok name => .ok name
  | .error fault => .error (.validation fault.message)

def named (text : String) : Except DbError Table := (parseName text).map Table.mk

def columns (names : List String) : Except DbError (List Ident) := names.mapM parseName

/-- The values that a record holds under `keys`, in their order. -/
def valuesAt (keys : List String) (record : KeyedRecord) (index : Option Nat) :
    Except DbError Row :=
  keys.mapM fun key =>
    match record.get? key with
    | some value => .ok value
    | none => .error (.missingParameter key index)

/-- The values that every record holds under `keys`. -/
def project (records : List KeyedRecord) (keys : List String) : Except DbError (List Row) :=
  Statement.bindEach (valuesAt keys) 0 records

def nothingToInsert : DbError := .validation "insert requires at least one column"

def insertOne (t : Table) (record : KeyedRecord) : SessionAction σ Nat := do
  if record.isEmpty then throw nothingToInsert
  let names ← Session.check (columns record.keys)
  Session.write (Sql.insertText t.name names) (.positional record.values)

/-- Inserts every record. The columns are those of the first record; the others have to hold at
least these. -/
def insertMany (t : Table) (records : List KeyedRecord) : SessionAction σ Nat := do
  match records with
  | [] => return 0
  | first :: _ =>
    if first.isEmpty then throw nothingToInsert
    let names ← Session.check (columns first.keys)
    let rows ← Session.check (project records first.keys)
    Session.writeMany (Sql.insertText t.name names) (.positional rows)

/-- Changes the rows that match a condition; an empty condition is matched by all. -/
def update (t : Table) (condition changes : KeyedRecord) : SessionAction σ Nat := do
  if changes.isEmpty then throw (.validation "update requires at least one change")
  let changed ← Session.check (columns changes.keys)
  let conditioned ← Session.check (columns condition.keys)
  Session.write (Sql.updateText t.name changed conditioned)
    (.positional (changes.values ++ condition.values))

/-- Deletes the rows that match a condition, which must not be empty. -/
def delete (t : Table) (condition : KeyedRecord) : SessionAction σ Nat := do
  if condition.isEmpty then
    throw (.validation "delete requires a condition; use delete_all to remove every row")
  let conditioned ← Session.check (columns condition.keys)
  Session.write (Sql.deleteText t.name conditioned) (.positional condition.values)

def deleteAll (t : Table) : SessionAction σ Nat :=
  Session.execute (Sql.deleteAllText t.name) .none

/-- Checks that every unique column is one of the record columns. -/
def checkUnique (available unique : List String) : Except DbError Unit :=
  match unique.find? fun name => !available.contains name with
  | some name =>
    .error (.validation ("unique column '" ++ name ++ "' is not among the record columns"))
  | none => .ok ()

/-- Commits the two statements of a merge, unless commits are left to the caller. -/
def commitMerge : SessionAction σ Unit := do
  if (← get).config.executor.commitChunks then
    Session.onChannel fun d => do
      match ← Channel.attempt d.commit with
      | .ok () => return ()
      | .error e => throw (← Execution.rollbackAfter d e)

/-- Deletes the rows that agree with a record in the unique columns, then inserts all records, both
in one transaction. -/
def merge (t : Table) (records : List KeyedRecord) (unique : List String) :
    SessionAction σ MergeOutcome := do
  if unique.isEmpty then throw (.validation "merge requires at least one unique column")
  match records with
  | [] => return ⟨0, 0⟩
  | first :: _ =>
    if first.isEmpty then throw nothingToInsert
    Session.check (checkUnique first.keys unique)
    let conditioned ← Session.check (columns unique)
    let names ← Session.check (columns first.keys)
    let deleteRows ← Session.check (project records unique)
    let insertRows ← Session.check (project records first.keys)
    let deleted ← Session.writeManyAtomic (Sql.deleteText t.name conditioned)
      (.positional deleteRows)
    let inserted ← Session.writeManyAtomic (Sql.insertText t.name names) (.positional insertRows)
    commitMerge
    Session.onChannel fun _ => Channel.emit (.merged t.name.text deleted inserted)
    return ⟨deleted, inserted⟩

end Table

end SqlBind

import SqlBind.Error
import SqlBind.FieldMap
import SqlBind.Value

/-!
Owns: the records that give a statement its values, batches of records of one shape, and the
arguments of an execution.
-/

set_option autoImplicit false

namespace SqlBind

/-- Values by placeholder name. -/
abbrev KeyedRecord := FieldMap Value

/-- The values of one execution. -/
inductive Record where
  /-- Values by placeholder name. -/
  | keyed (fields : KeyedRecord)
  /-- Values in placeholder order. -/
  | positional (row : Row)
deriving Inhabited

namespace Record

def size : Record → Nat
  | keyed fields => fields.size
  | positional row => row.length

def isEmpty (r : Record) : Bool := r.size = 0

/-- An object is a keyed record and an array a positional one; nothing else is a record. -/
def ofJson : Json → Except DbError Record
  | .object fields => .ok (keyed (FieldMap.ofList (fields.map fun field =>
      (field.1, Value.ofJson field.2))))
  | .array items => .ok (positional (items.map Value.ofJson))
  | document => .error (.validation
      ("expected a JSON object or array as a record, got " ++ document.compact))

def shape : Record → String
  | keyed _ => "keyed"
  | positional _ => "positional"

end Record

/-- Records of one shape, in order. -/
inductive Batch where
  | keyed (records : List KeyedRecord)
  | positional (rows : List Row)
deriving Inhabited

namespace Batch

def size : Batch → Nat
  | keyed records => records.length
  | positional rows => rows.length

def isEmpty (b : Batch) : Bool := b.size = 0

/-- The complaint about the record at `index`, in a batch that began with another shape. -/
def shapeMismatch (index : Nat) (expected : String) : DbError :=
  .validation ("record " ++ toString index ++ " does not match the batch shape (expected "
    ++ expected ++ ")")

/-- The fields of keyed records; `index` counts them. -/
def collectKeyed (index : Nat) : List Record → Except DbError (List KeyedRecord)
  | [] => .ok []
  | .keyed fields :: rest => (collectKeyed (index + 1) rest).map (fields :: ·)
  | .positional _ :: _ => .error (shapeMismatch index "keyed")

/-- The rows of positional records; `index` counts them. -/
def collectPositional (index : Nat) : List Record → Except DbError (List Row)
  | [] => .ok []
  | .positional row :: rest => (collectPositional (index + 1) rest).map (row :: ·)
  | .keyed _ :: _ => .error (shapeMismatch index "positional")

def ofRecords : List Record → Except DbError Batch
  | [] => .ok (keyed [])
  | .keyed fields :: rest => (collectKeyed 1 rest).map fun records => keyed (fields :: records)
  | .positional row :: rest => (collectPositional 1 rest).map fun rows => positional (row :: rows)

end Batch

inductive Args where
  | none
  | one (record : Record)
  | many (batch : Batch)
deriving Inhabited

namespace Args

/-- Whether there is no value at all: no record, an empty record or an empty batch. -/
def isEmpty : Args → Bool
  | none => true
  | one record => record.isEmpty
  | many batch => batch.isEmpty

end Args

end SqlBind

import SqlBind.Value

/-!
Owns: the types of PostgreSQL columns and the binary form in which a value is sent to a column of
a given type. A value is sent only to the types that can hold it; integers and floats are narrowed
to the width of the column, integers only if they fit.
-/

set_option autoImplicit false

namespace SqlBind.Postgres

inductive ColumnType where
  | bool
  | int2
  | int4
  | int8
  | oid
  | float4
  | float8
  | text
  | varchar
  | bpchar
  | name
  | unknown
  | bytea
  | json
  | jsonb
  | timestamptz
  | timestamp
  | date
  | uuid
  | other (name : String)
deriving DecidableEq, Repr, Inhabited

namespace ColumnType

def typeName : ColumnType → String
  | bool => "bool"
  | int2 => "int2"
  | int4 => "int4"
  | int8 => "int8"
  | oid => "oid"
  | float4 => "float4"
  | float8 => "float8"
  | text => "text"
  | varchar => "varchar"
  | bpchar => "bpchar"
  | name => "name"
  | unknown => "unknown"
  | bytea => "bytea"
  | json => "json"
  | jsonb => "jsonb"
  | timestamptz => "timestamptz"
  | timestamp => "timestamp"
  | date => "date"
  | uuid => "uuid"
  | other typeName => typeName

/-- The types with a constructor of their own. -/
def common : List ColumnType :=
  [bool, int2, int4, int8, oid, float4, float8, text, varchar, bpchar, name, unknown, bytea, json,
    jsonb, timestamptz, timestamp, date, uuid]

def ofName (typeName : String) : ColumnType :=
  (common.find? fun type => type.typeName = typeName).getD (other typeName)

end ColumnType

inductive EncodingFault where
  /-- The column does not hold values of this kind. -/
  | mismatch (kind : String) (type : ColumnType)
  /-- An integer above the range of the column. -/
  | tooLarge
  /-- An integer below the range of the column. -/
  | tooSmall
  /-- An instant whose microseconds exceed 64 bits. -/
  | unsendable
deriving DecidableEq, Repr, Inhabited

namespace EncodingFault

def message : EncodingFault → String
  | mismatch kind type =>
    "cannot bind " ++ kind ++ " value to column of type " ++ type.typeName
  | tooLarge => "number too large to fit in target type"
  | tooSmall => "number too small to fit in target type"
  | unsendable => "value too large to transmit"

end EncodingFault

/-- The two's complement octets of an integer, `width` of them. -/
def signedOctets (width : Nat) (i : Int) : Bytes :=
  Bytes.bigEndian width (i.emod (Int.pow 256 width)).toNat

/-- An integer between `low` and `high`, in `width` octets. -/
def narrowed (width : Nat) (low high i : Int) : Except EncodingFault Bytes :=
  if i < low then .error .tooSmall
  else if high < i then .error .tooLarge
  else .ok (signedOctets width i)

def instantOctets (t : Timestamp) : Except EncodingFault Bytes :=
  let microseconds := t.microsecondsSince2000
  if Value.fitsInt64 microseconds then .ok (signedOctets 8 microseconds) else .error .unsendable

def encodeInt (i : Int) : ColumnType → Except EncodingFault Bytes
  | .int2 => narrowed 2 (-Int.pow 2 15) (Int.pow 2 15 - 1) i
  | .int4 => narrowed 4 (-Int.pow 2 31) (Int.pow 2 31 - 1) i
  | .int8 => .ok (signedOctets 8 i)
  | .oid => narrowed 4 0 (Int.pow 2 32 - 1) i
  | .float4 => .ok (Bytes.bigEndian 4 (Number.Single.ofInt i).bits.toNat)
  | .float8 => .ok (Bytes.bigEndian 8 (Number.Double.ofInt i).bits.toNat)
  | type => .error (.mismatch "int" type)

def encodeFloat (x : Number.Double) : ColumnType → Except EncodingFault Bytes
  | .float4 => .ok (Bytes.bigEndian 4 x.toSingle.bits.toNat)
  | .float8 => .ok (Bytes.bigEndian 8 x.bits.toNat)
  | type => .error (.mismatch "float" type)

/-- A text in UTF-8. Label paths and their queries begin with the version of their format. -/
def encodeText (text : String) : ColumnType → Except EncodingFault Bytes
  | .text | .varchar | .bpchar | .name | .unknown => .ok (Bytes.ofText text)
  | .other "citext" => .ok (Bytes.ofText text)
  | .other "ltree" | .other "lquery" | .other "ltxtquery" => .ok (1 :: Bytes.ofText text)
  | type => .error (.mismatch "text" type)

/-- The octets that send a value to a column, or none at all for null. -/
def encode (value : Value) (type : ColumnType) : Except EncodingFault (Option Bytes) :=
  match value, type with
  | .null, _ => .ok none
  | .bool b, .bool => .ok (some [if b then 1 else 0])
  | .int i, type => (encodeInt i.toInt type).map some
  | .float x, type => (encodeFloat x type).map some
  | .text s, type => (encodeText s type).map some
  | .bytes octets, .bytea => .ok (some octets)
  | .json document, .json => .ok (some (Bytes.ofText document.compact))
  | .json document, .jsonb => .ok (some (1 :: Bytes.ofText document.compact))
  | .timestamp t, .timestamptz => (instantOctets t).map some
  | .timestamp t, .timestamp => (instantOctets t).map some
  | .date d, .date => .ok (some (signedOctets 4 (d.toDays - 10957)))
  | .uuid u, .uuid => .ok (some u.bytes)
  | value, type => .error (.mismatch value.kind type)

end SqlBind.Postgres

import SqlBind.Calendar
import SqlBind.Json.Basic
import SqlBind.Uuid

/-!
Owns: the values that statements bind, their texts, and their relation to JSON documents.
-/

set_option autoImplicit false

namespace SqlBind

open Number (Double FloatNotation)

inductive Value where
  | null
  | bool (value : Bool)
  | int (value : Int64)
  | float (value : Double)
  | text (value : String)
  | bytes (value : Bytes)
  | json (value : Json)
  | timestamp (value : Timestamp)
  | date (value : Date)
  | uuid (value : Uuid)
deriving Inhabited

/-- The values of one execution, in the order of the placeholders. -/
abbrev Row := List Value

namespace Value

def isNull : Value → Bool
  | null => true
  | _ => false

def kind : Value → String
  | null => "null"
  | bool _ => "bool"
  | int _ => "int"
  | float _ => "float"
  | text _ => "text"
  | bytes _ => "bytes"
  | json _ => "json"
  | timestamp _ => "timestamp"
  | date _ => "date"
  | uuid _ => "uuid"

def boolText (value : Bool) : String := if value then "true" else "false"

/-- The text for a reader who knows SQL. -/
def display : Value → String
  | null => "NULL"
  | bool value => boolText value
  | int value => toString value.toInt
  | float value => FloatNotation.plain.write value
  | text value => "'" ++ value ++ "'"
  | bytes value => "<" ++ toString value.length ++ " bytes>"
  | json value => value.compact
  | timestamp value => value.offsetText
  | date value => value.text
  | uuid value => value.text

def describe : Value → String
  | null => "Null"
  | bool value => "Bool(" ++ boolText value ++ ")"
  | int value => "Int(" ++ toString value.toInt ++ ")"
  | float value => "Float(" ++ FloatNotation.diagnostic.write value ++ ")"
  | text value => "Text(" ++ Text.quoted value ++ ")"
  | bytes value => "Bytes([" ++ ", ".intercalate (value.map fun b => toString b.toNat) ++ "])"
  | json value => "Json(" ++ value.describe ++ ")"
  | timestamp value => "Timestamp(" ++ value.zuluText ++ ")"
  | date value => "Date(" ++ value.text ++ ")"
  | uuid value => "Uuid(" ++ value.text ++ ")"

def fitsInt64 (i : Int) : Bool := -Int.pow 2 63 ≤ i && i < Int.pow 2 63

/-- The value of a number: exact when it is a signed integer of 64 bits, otherwise a double. -/
def ofJsonNumber : JsonNumber → Value
  | .integer i => if fitsInt64 i then int (Int64.ofInt i) else float (Double.ofInt i)
  | .float x => float x

/-- Scalars become the value of their kind; arrays and objects stay documents. -/
def ofJson : Json → Value
  | .null => null
  | .bool value => bool value
  | .number value => ofJsonNumber value
  | .string value => text value
  | document => json document

/-- The document that stands for a value when it is serialised: octets are listed as numbers,
instants, dates and identifiers are texts, and a float that is no finite number is null. -/
def toJson : Value → Json
  | null => .null
  | bool value => .bool value
  | int value => .int value.toInt
  | float value => if value.isFinite then .number (.float value) else .null
  | text value => .string value
  | bytes value => .array (value.map fun b => .nat b.toNat)
  | json value => value
  | timestamp value => .string value.zuluText
  | date value => .string value.text
  | uuid value => .string value.text

end Value

namespace Row

def bracketed (parts : List String) : String := "[" ++ ", ".intercalate parts ++ "]"

def describe (row : Row) : String := bracketed (row.map Value.describe)

end Row

end SqlBind

import SqlBind.FieldMap
import SqlBind.Number.Notation
import SqlBind.Text.Quoted

/-!
Owns: JSON documents, their compact text and their diagnostic text.

The fields of an object are kept in ascending order of their names, each name once. Whole numbers
of 64 bits are kept exact; every other number is a double.
-/

set_option autoImplicit false

namespace SqlBind

open Number (Double FloatNotation)

inductive JsonNumber where
  | integer (value : Int)
  | float (value : Double)
deriving DecidableEq, Repr, Inhabited

namespace JsonNumber

def text : JsonNumber → String
  | integer value => toString value
  | float value => FloatNotation.json.write value

end JsonNumber

inductive Json where
  | null
  | bool (value : Bool)
  | number (value : JsonNumber)
  | string (value : String)
  | array (items : List Json)
  | object (fields : List (String × Json))
deriving Inhabited

namespace Json

def int (i : Int) : Json := number (.integer i)

def nat (n : Nat) : Json := int n

def ofFields (fields : List (String × Json)) : Json := object (Fields.ofList fields)

/-- The spelling of one character inside a JSON string. -/
def escaped (c : Char) : List Char :=
  if c = '"' then ['\\', '"']
  else if c = '\\' then ['\\', '\\']
  else if c = '\n' then ['\\', 'n']
  else if c = '\r' then ['\\', 'r']
  else if c = '\t' then ['\\', 't']
  else if c = '\x08' then ['\\', 'b']
  else if c = '\x0c' then ['\\', 'f']
  else if c.toNat < 32 then
    ['\\', 'u', '0', '0', Nat.digitChar (c.toNat / 16), Nat.digitChar (c.toNat % 16)]
  else [c]

def quoted (text : String) : String :=
  String.ofList ('"' :: text.toList.flatMap escaped ++ ['"'])

mutual

/-- The text without any space. -/
def compact : Json → String
  | null => "null"
  | bool value => if value then "true" else "false"
  | number value => value.text
  | string value => quoted value
  | array items => "[" ++ ",".intercalate (compactItems items) ++ "]"
  | object fields => "\x7b" ++ ",".intercalate (compactFields fields) ++ "\x7d"

def compactItems : List Json → List String
  | [] => []
  | item :: rest => compact item :: compactItems rest

def compactFields : List (String × Json) → List String
  | [] => []
  | (name, value) :: rest => (quoted name ++ ":" ++ compact value) :: compactFields rest

end

mutual

/-- The diagnostic text: every part under the name of its kind. -/
def describe : Json → String
  | null => "Null"
  | bool value => "Bool(" ++ (if value then "true" else "false") ++ ")"
  | number value => "Number(" ++ value.text ++ ")"
  | string value => "String(" ++ Text.quoted value ++ ")"
  | array items => "Array [" ++ ", ".intercalate (describeItems items) ++ "]"
  | object fields => "Object \x7b" ++ ", ".intercalate (describeFields fields) ++ "\x7d"

def describeItems : List Json → List String
  | [] => []
  | item :: rest => describe item :: describeItems rest

def describeFields : List (String × Json) → List String
  | [] => []
  | (name, value) :: rest => (Text.quoted name ++ ": " ++ describe value) :: describeFields rest

end

def field? : Json → String → Option Json
  | object fields, name => fields.lookup name
  | _, _ => none

end Json

end SqlBind

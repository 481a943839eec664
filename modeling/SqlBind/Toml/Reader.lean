import SqlBind.Toml.Text
import SqlBind.Toml.Tree
import SqlBind.Toml.Word

/-!
Owns: reading a configuration file in TOML. Arrays and inline tables may be spread over lines, with
comments, except inside a key; they may nest only so deep.
-/

set_option autoImplicit false

namespace SqlBind.Toml

/-- The most arrays and inline tables that may lie in each other. -/
def nestingLimit : Nat := 80

mutual

/-- A value with at most `room` arrays and inline tables in each other. Every bracket, item and
field takes a character at least, so `fuel` need not exceed the length of the text. -/
def value? : Nat → Nat → List Char → Option (Json × List Char)
  | 0, _, _ => none
  | fuel + 1, room, text =>
    match text with
    | '[' :: rest =>
      if room = 0 then none else do items? fuel (room - 1) [] (← skipFiller false rest)
    | '\x7b' :: rest =>
      if room = 0 then none else do fields? fuel (room - 1) [] (← skipFiller false rest)
    | '"' :: _ | '\'' :: _ => (string? text).map fun r => (.string r.1, r.2)
    | _ => (word? text).map fun r => (r.1.document, r.2)

/-- The items of an array from where one may begin, up to the closing bracket; `items` has those
read so far, newest first. -/
def items? : Nat → Nat → List Json → List Char → Option (Json × List Char)
  | 0, _, _, _ => none
  | fuel + 1, room, items, text =>
    match text with
    | ']' :: rest => some (.array items.reverse, rest)
    | _ => do
      let (item, rest) ← value? fuel room text
      match ← skipFiller false rest with
      | ',' :: rest => items? fuel room (item :: items) (← skipFiller false rest)
      | ']' :: rest => return (.array (item :: items).reverse, rest)
      | _ => none

/-- The fields of an inline table from where one may begin, up to the closing bracket. -/
def fields? : Nat → Nat → Nodes → List Char → Option (Json × List Char)
  | 0, _, _, _ => none
  | fuel + 1, room, nodes, text =>
    match text with
    | '\x7d' :: rest => some (.ofFields (nodeDocuments nodes), rest)
    | _ => do
      let (path, rest) ← key? keyLimit text
      match ← skipFiller false rest with
      | '=' :: rest =>
        let (value, rest) ← value? fuel room (← skipFiller false rest)
        let nodes ← assign value path nodes
        match ← skipFiller false rest with
        | ',' :: rest => fields? fuel room nodes (← skipFiller false rest)
        | '\x7d' :: rest => return (.ofFields (nodeDocuments nodes), rest)
        | _ => none
      | _ => none

end

/-- The statements of a text; `current` is the path of the last header. Every statement takes a
character at least, so `fuel` need not exceed the length of the text. -/
def statements? : Nat → List String → Nodes → List Char → Option Nodes
  | 0, _, _, _ => none
  | fuel + 1, current, nodes, text => do
    match ← skipFiller false text with
    | [] => return nodes
    | '[' :: '[' :: rest =>
      let (path, rest) ← key? keyLimit (skipBlanks rest)
      match rest with
      | ']' :: ']' :: rest =>
        statements? fuel path (← openElement path nodes) (← endLine false rest)
      | _ => none
    | '[' :: rest =>
      let (path, rest) ← key? keyLimit (skipBlanks rest)
      match rest with
      | ']' :: rest => statements? fuel path (← openTable path nodes) (← endLine false rest)
      | _ => none
    | text =>
      let (path, rest) ← key? keyLimit text
      match rest with
      | '=' :: rest =>
        let (value, rest) ← value? text.length nestingLimit (skipBlanks rest)
        statements? fuel current (← within (assign value path) current nodes)
          (← endLine false rest)
      | _ => none

def dropByteOrderMark : List Char → List Char
  | '\ufeff' :: rest => rest
  | text => text

def read? (text : String) : Option Json :=
  let chars := dropByteOrderMark text.toList
  (statements? (chars.length + 1) [] [] chars).map fun nodes => .ofFields (nodeDocuments nodes)

end SqlBind.Toml

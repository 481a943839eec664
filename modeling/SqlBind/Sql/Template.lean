import SqlBind.Sql.Literal
import SqlBind.Text.Alphanumeric
import SqlBind.Text.Quoted

/-!
Owns: SQL texts with named placeholders. A text is taken apart into pieces, literals untouched;
the pieces are the same for every driver.

Outside literals `::` and `:=` are operators, `:` before a word is a placeholder with the longest
word as its name, and any other `:` is malformed.
-/

set_option autoImplicit false

namespace SqlBind.Sql

/-- The characters of placeholder names. -/
def isWordChar (c : Char) : Bool := c = '_' || Text.isAlphanumeric c

inductive Piece where
  /-- Text that every driver gets as it stands. -/
  | verbatim (text : List Char)
  | placeholder (name : List Char)
deriving DecidableEq, Repr, Inhabited

/-- A colon that introduces nothing: its byte offset and the character after it, if any. -/
structure MalformedColon where
  position : Nat
  next : Option Char
deriving DecidableEq, Repr, Inhabited

namespace MalformedColon

def message (e : MalformedColon) : String :=
  match e.next with
  | some c => "':' followed by " ++ Text.quotedChar c
  | none => "':' at end of statement"

end MalformedColon

/-- What was read last in a stretch of code. -/
inductive CodeState where
  | plain
  /-- A colon, at a byte offset, whose meaning is still open. -/
  | colon (position : Nat)
  /-- A placeholder's name so far, newest first. -/
  | name (read : List Char)
deriving DecidableEq, Repr, Inhabited

/-- The pieces of a stretch of code. `offset` is the byte offset of its next character and `after`
the character that follows the whole stretch. -/
def scanCode (after : Option Char) (offset : Nat) (state : CodeState) :
    List Char → Except MalformedColon (List Piece)
  | [] =>
    match state with
    | .plain => .ok []
    | .colon position => .error ⟨position, after⟩
    | .name read => .ok [.placeholder read.reverse]
  | c :: rest =>
    let next := offset + c.utf8Size
    match state with
    | .plain =>
      if c = ':' then scanCode after next (.colon offset) rest
      else (scanCode after next .plain rest).map (.verbatim [c] :: ·)
    | .colon position =>
      if c = ':' || c = '=' then (scanCode after next .plain rest).map (.verbatim [':', c] :: ·)
      else if isWordChar c then scanCode after next (.name [c]) rest
      else .error ⟨position, some c⟩
    | .name read =>
      if isWordChar c then scanCode after next (.name (c :: read)) rest
      else
        let name := Piece.placeholder read.reverse
        if c = ':' then (scanCode after next (.colon offset) rest).map (name :: ·)
        else (scanCode after next .plain rest).map fun pieces => name :: .verbatim [c] :: pieces

/-- The pieces of a divided text, from byte `offset` on. Code is always followed by a literal or
by the end of the text. -/
def scanSegments (offset : Nat) : List Segment → Except MalformedColon (List Piece)
  | [] => .ok []
  | .code text :: rest => do
    let after := if rest.isEmpty then none else some '\''
    let pieces ← scanCode after offset .plain text
    let later ← scanSegments (offset + byteLength text) rest
    return pieces ++ later
  | .literal body :: rest => do
    let segment := Segment.literal body
    let later ← scanSegments (offset + byteLength segment.text) rest
    return .verbatim segment.text :: later

/-- The pieces of an SQL text, or its first malformed colon. -/
def pieces (sql : String) : Except MalformedColon (List Piece) :=
  scanSegments 0 (segments sql.toList)

end SqlBind.Sql

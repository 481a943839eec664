import SqlBind.Text.Quoted

/-!
Owns: table and column names. A name is one or more parts joined by points. A plain part begins
with an ASCII letter or an underscore and goes on with letters, digits, underscores and dollar
signs; a quoted part is a non-empty text between double quotes that holds neither a quote of
either kind nor a colon, a point or NUL. Such names stand in SQL without being mistaken for
literals or placeholders.
-/

set_option autoImplicit false

namespace SqlBind

inductive IdentPart where
  | plain (text : List Char)
  | quoted (text : List Char)
deriving DecidableEq, Repr, Inhabited

structure Ident where
  parts : List IdentPart
deriving DecidableEq, Repr, Inhabited

inductive IdentFault where
  | empty
  | emptyPart
  /-- A part begins with a quote and does not end with another. -/
  | unclosed (part : List Char)
  | emptyQuoted
  | quotedChar (c : Char)
  | firstChar (c : Char)
  | laterChar (c : Char)
deriving DecidableEq, Repr, Inhabited

namespace IdentFault

def message : IdentFault → String
  | empty => "Identifier cannot be empty"
  | emptyPart => "Empty identifier segment"
  | unclosed part => "Unclosed quoted identifier: " ++ String.ofList part
  | emptyQuoted => "Empty quoted identifier"
  | quotedChar c => "Invalid character in quoted identifier: " ++ Text.quotedChar c
  | firstChar c => "Invalid identifier start character: " ++ Text.quotedChar c
  | laterChar c => "Invalid character in identifier: " ++ Text.quotedChar c

end IdentFault

namespace IdentPart

/-- The part as it is written. -/
def chars : IdentPart → List Char
  | plain text => text
  | quoted text => '"' :: text ++ ['"']

/-- The characters that a plain part may begin with. -/
def isFirst (c : Char) : Bool := c = '_' || c.isAlpha

/-- The characters that a plain part may go on with. -/
def isLater (c : Char) : Bool := c = '_' || c = '$' || c.isAlphanum

/-- The characters that a quoted part must not hold. A point never gets here. -/
def isForbidden (c : Char) : Bool := c = '"' || c = '\'' || c = ':' || c = '\x00'

/-- Reads what follows the opening quote of a part. -/
def parseQuoted (inner : List Char) : Except IdentFault IdentPart :=
  match inner.reverse with
  | '"' :: reversed =>
    let text := reversed.reverse
    if text.isEmpty then .error .emptyQuoted
    else
      match text.find? isForbidden with
      | some c => .error (.quotedChar c)
      | none => .ok (quoted text)
  | _ => .error (.unclosed ('"' :: inner))

/-- Reads a part, which holds no point. -/
def parse : List Char → Except IdentFault IdentPart
  | [] => .error .emptyPart
  | '"' :: inner => parseQuoted inner
  | first :: later =>
    if isFirst first then
      match later.find? fun c => !isLater c with
      | some c => .error (.laterChar c)
      | none => .ok (plain (first :: later))
    else .error (.firstChar first)

end IdentPart

namespace Ident

def splitPoints : List Char → List (List Char)
  | [] => [[]]
  | c :: rest =>
    if c = '.' then [] :: splitPoints rest
    else
      match splitPoints rest with
      | first :: more => (c :: first) :: more
      | [] => [[c]]

/-- Reads a name. Of several faults the first is reported. -/
def parse (text : String) : Except IdentFault Ident :=
  if text.isEmpty then .error .empty
  else ((splitPoints text.toList).mapM IdentPart.parse).map Ident.mk

def joinPoints : List IdentPart → List Char
  | [] => []
  | [part] => part.chars
  | part :: rest => part.chars ++ '.' :: joinPoints rest

/-- The name as it is written. -/
def chars (i : Ident) : List Char := joinPoints i.parts

def text (i : Ident) : String := String.ofList i.chars

end Ident

end SqlBind

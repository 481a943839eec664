/-!
Owns: where the single-quoted literals of an SQL text are. Quotes are paired in the order of
their appearance; a quote without a partner opens no literal, and there are no escapes, so a
doubled quote ends one literal and begins the next.

The same division is given twice: as byte ranges (`literalSpans`) and as the stretches of text
themselves (`segments`).
-/

set_option autoImplicit false

namespace SqlBind.Sql

/-- The bytes `start`, …, `stop - 1` of a text. -/
structure Span where
  start : Nat
  stop : Nat
deriving DecidableEq, Repr, Inhabited

/-- How many bytes the UTF-8 encoding of `text` takes. -/
def byteLength (text : List Char) : Nat := text.foldr (fun c rest => c.utf8Size + rest) 0

/-- Scans from byte `offset` on; `opened` is where the current literal began, if inside one. -/
def scanSpans (offset : Nat) (opened : Option Nat) : List Char → List Span
  | [] => []
  | c :: rest =>
    let next := offset + c.utf8Size
    if c = '\'' then
      match opened with
      | none => scanSpans next (some offset) rest
      | some start => ⟨start, next⟩ :: scanSpans next none rest
    else scanSpans next opened rest

/-- The byte range of every literal, quotes included, in ascending order. -/
def literalSpans (sql : String) : List Span := scanSpans 0 none sql.toList

/-- A stretch of an SQL text. -/
inductive Segment where
  /-- Text outside literals. A quote in it has no partner. -/
  | code (text : List Char)
  /-- The text between two quotes. -/
  | literal (body : List Char)
deriving DecidableEq, Repr, Inhabited

namespace Segment

def text : Segment → List Char
  | code text => text
  | literal body => '\'' :: body ++ ['\'']

end Segment

/-- Divides the rest of a text. `code` is the current stretch of code and `opened`, if a quote was
read since, what follows that quote; both are kept newest first. -/
def divide (code : List Char) (opened : Option (List Char)) : List Char → List Segment
  | [] =>
    match opened with
    | none => [.code code.reverse]
    | some body => [.code (code.reverse ++ '\'' :: body.reverse)]
  | c :: rest =>
    match opened with
    | none => if c = '\'' then divide code (some []) rest else divide (c :: code) none rest
    | some body =>
      if c = '\'' then .code code.reverse :: .literal body.reverse :: divide [] none rest
      else divide code (some (c :: body)) rest

/-- The code and the literals of a text in turn, beginning and ending with code. -/
def segments (text : List Char) : List Segment := divide [] none text

end SqlBind.Sql

import SqlBind.Text.Hex

/-!
Owns: the strings, keys, comments and line ends of TOML. Each reader takes the text from where it
stands and answers with what it read and the text that follows, or with nothing if the text is not
TOML.
-/

set_option autoImplicit false

namespace SqlBind.Toml

/-- Controls other than the tab, which may stand nowhere. -/
def isControl (c : Char) : Bool := (c.toNat < 32 && c ≠ '\t') || c.toNat = 127

def skipBlanks (text : List Char) : List Char := text.dropWhile fun c => c = ' ' || c = '\t'

def skipFiller (inComment : Bool) : List Char → Option (List Char)
  | [] => some []
  | '\n' :: rest => skipFiller false rest
  | '\r' :: '\n' :: rest => skipFiller false rest
  | c :: rest =>
    if inComment then if isControl c then none else skipFiller true rest
    else if c = ' ' || c = '\t' then skipFiller false rest
    else if c = '#' then skipFiller true rest
    else some (c :: rest)

/-- Drops what may follow a statement up to the end of its line. -/
def endLine (inComment : Bool) : List Char → Option (List Char)
  | [] => some []
  | '\n' :: rest => some rest
  | '\r' :: '\n' :: rest => some rest
  | c :: rest =>
    if inComment then if isControl c then none else endLine true rest
    else if c = ' ' || c = '\t' then endLine false rest
    else if c = '#' then endLine true rest
    else none

/-- The character behind a backslash, unless it is given by its code point. -/
def escapedChar? (c : Char) : Option Char :=
  if c = '"' || c = '\\' then some c
  else if c = 'b' then some '\x08'
  else if c = 't' then some '\t'
  else if c = 'n' then some '\n'
  else if c = 'f' then some '\x0c'
  else if c = 'r' then some '\r'
  else if c = 'e' then some '\x1b'
  else none

def codePoint? (digits : List Char) : Option Char := do
  let n ← Bytes.natOfHex? digits
  if n < 0xd800 || (0xe000 ≤ n && n < 0x110000) then some (Char.ofNat n) else none

/-- Where the reader of a basic string stands. -/
inductive StringState where
  | inside
  | escape
  /-- Within a code point: the digits still to come and those read, newest first. -/
  | digits (missing : Nat) (read : List Char)
  /-- After a backslash and blanks that have to end the line. -/
  | lineEnd
  /-- After a line end behind a backslash: blanks and line ends are dropped. -/
  | dropping

/-- The rest of a basic string after its opening quotes; `read` is kept newest first. A string of
several lines ends at three quotes, before which up to two belong to it; its line ends stay as they
are written, of one character or of two. -/
def basicString (multiline : Bool) (state : StringState) (read : List Char) :
    List Char → Option (List Char × List Char)
  | [] => none
  | c :: rest =>
    match state with
    | .digits missing digits =>
      if missing = 1 then
        match codePoint? (c :: digits).reverse with
        | some decoded => basicString multiline .inside (decoded :: read) rest
        | none => none
      else basicString multiline (.digits (missing - 1) (c :: digits)) read rest
    | .escape =>
      if c = 'x' then basicString multiline (.digits 2 []) read rest
      else if c = 'u' then basicString multiline (.digits 4 []) read rest
      else if c = 'U' then basicString multiline (.digits 8 []) read rest
      else
        match escapedChar? c with
        | some decoded => basicString multiline .inside (decoded :: read) rest
        | none =>
          if !multiline then none
          else if c = ' ' || c = '\t' then basicString multiline .lineEnd read rest
          else if c = '\n' then basicString multiline .dropping read rest
          else if c = '\r' && rest.head? = some '\n' then basicString multiline .lineEnd read rest
          else none
    | .lineEnd =>
      if c = ' ' || c = '\t' then basicString multiline .lineEnd read rest
      else if c = '\n' then basicString multiline .dropping read rest
      else if c = '\r' && rest.head? = some '\n' then basicString multiline .lineEnd read rest
      else none
    | state =>
      let dropping := match state with
        | .dropping => true
        | _ => false
      if dropping && (c = ' ' || c = '\t' || c = '\n') then
        basicString multiline .dropping read rest
      else if dropping && c = '\r' && rest.head? = some '\n' then
        basicString multiline .dropping read rest
      else if c = '\\' then basicString multiline .escape read rest
      else if c = '"' then
        if !multiline then some (read.reverse, rest)
        else
          match rest with
          | '"' :: '"' :: '"' :: '"' :: more => some (('"' :: '"' :: read).reverse, more)
          | '"' :: '"' :: '"' :: more => some (('"' :: read).reverse, more)
          | '"' :: '"' :: more => some (read.reverse, more)
          | _ => basicString multiline .inside (c :: read) rest
      else if multiline && (c = '\n' || (c = '\r' && rest.head? = some '\n')) then
        basicString multiline .inside (c :: read) rest
      else if isControl c then none
      else basicString multiline .inside (c :: read) rest

/-- The rest of a literal string after its opening quotes. There are no escapes in it. -/
def literalString (multiline : Bool) (read : List Char) :
    List Char → Option (List Char × List Char)
  | [] => none
  | c :: rest =>
    if c = '\'' then
      if !multiline then some (read.reverse, rest)
      else
        match rest with
        | '\'' :: '\'' :: '\'' :: '\'' :: more => some (('\'' :: '\'' :: read).reverse, more)
        | '\'' :: '\'' :: '\'' :: more => some (('\'' :: read).reverse, more)
        | '\'' :: '\'' :: more => some (read.reverse, more)
        | _ => literalString multiline (c :: read) rest
    else if multiline && (c = '\n' || (c = '\r' && rest.head? = some '\n')) then
      literalString multiline (c :: read) rest
    else if isControl c then none
    else literalString multiline (c :: read) rest

/-- Drops the line end right after the opening quotes of a string of several lines. -/
def dropFirstLineEnd : List Char → List Char
  | '\n' :: rest => rest
  | '\r' :: '\n' :: rest => rest
  | text => text

/-- A string of any of the four kinds. -/
def string? : List Char → Option (String × List Char)
  | '"' :: '"' :: '"' :: rest =>
    (basicString true .inside [] (dropFirstLineEnd rest)).map fun r => (String.ofList r.1, r.2)
  | '"' :: rest => (basicString false .inside [] rest).map fun r => (String.ofList r.1, r.2)
  | '\'' :: '\'' :: '\'' :: rest =>
    (literalString true [] (dropFirstLineEnd rest)).map fun r => (String.ofList r.1, r.2)
  | '\'' :: rest => (literalString false [] rest).map fun r => (String.ofList r.1, r.2)
  | _ => none

/-- The characters of keys without quotes. -/
def isBareKeyChar (c : Char) : Bool := c.isAlphanum || c = '-' || c = '_'

def keyPart? : List Char → Option (String × List Char)
  | '"' :: rest => (basicString false .inside [] rest).map fun r => (String.ofList r.1, r.2)
  | '\'' :: rest => (literalString false [] rest).map fun r => (String.ofList r.1, r.2)
  | text =>
    let (name, rest) := text.span isBareKeyChar
    if name.isEmpty then none else some (String.ofList name, rest)

/-- The most parts of a key. -/
def keyLimit : Nat := 80

/-- A key of one or more parts with points between them, and at most as many as said. -/
def key? : Nat → List Char → Option (List String × List Char)
  | 0, _ => none
  | limit + 1, text => do
    let (name, rest) ← keyPart? text
    match skipBlanks rest with
    | '.' :: more =>
      let (names, rest) ← key? limit (skipBlanks more)
      return (name :: names, rest)
    | rest => return ([name], rest)

end SqlBind.Toml

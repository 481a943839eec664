import SqlBind.Proofs.Text.Quoting
import SqlBind.Statement

/-!
Owns: the grammar of SQL templates as one scan of the whole text from the left, token by token. The
templates themselves are read in stretches, the code between the literals apart from them.

Main statement: compiling a template gives what the grammar says, for texts and for malformed colons
(`compile_agrees_with_grammar`).
-/

set_option autoImplicit false

namespace SqlBind.Sql

/-! ### Tokens -/

inductive Token where
  /-- Two quotes and the text between them. -/
  | literal (body : List Char)
  /-- A colon with the colon or the equals sign after it. -/
  | operator (second : Char)
  | placeholder (name : List Char)
  /-- A colon that introduces nothing. -/
  | malformed
  /-- Any other character, a quote without a partner included. -/
  | other (c : Char)
deriving DecidableEq, Repr, Inhabited

namespace Token

def text : Token → List Char
  | literal body => '\'' :: body ++ ['\'']
  | operator second => [':', second]
  | placeholder name => ':' :: name
  | malformed => [':']
  | other c => [c]

/-- The token that a colon before `rest` begins. -/
def ofColon (rest : List Char) : Token :=
  match rest with
  | [] => malformed
  | next :: _ =>
      if next = ':' ∨ next = '=' then operator next
      else if isWordChar next then placeholder (rest.takeWhile isWordChar)
      else malformed

/-- The token that the character `c` before `rest` begins. -/
def first (c : Char) (rest : List Char) : Token :=
  if c = '\'' ∧ '\'' ∈ rest then literal (rest.takeWhile (· ≠ '\''))
  else if c = ':' then ofColon rest
  else other c

def name? : Token → Option (List Char)
  | placeholder name => some name
  | _ => none

end Token

/-- The tokens of a text. -/
def tokens : List Char → List Token
  | [] => []
  | c :: rest =>
      let token := Token.first c rest
      token :: tokens (rest.drop (token.text.length - 1))
termination_by text => text.length
decreasing_by
  simp only [List.length_drop, List.length_cons]
  omega

/-- The placeholder `name`, the `ordinal`-th of its statement, as each convention writes it. -/
def placeholderText (style : ParamStyle) (ordinal : Nat) (name : List Char) : List Char :=
  match style with
  | .qmark => "?".toList
  | .format => "%s".toList
  | .numeric => ":p".toList ++ (toString ordinal).toList
  | .named => ":".toList ++ name
  | .dollar => "$".toList ++ (toString ordinal).toList

/-- The text of tokens in a driver's convention: placeholders, numbered from `ordinal` on, are
replaced, all else is copied. -/
def rewritten (style : ParamStyle) (ordinal : Nat) : List Token → List Char
  | [] => []
  | .placeholder name :: rest =>
      placeholderText style ordinal name ++ rewritten style (ordinal + 1) rest
  | token :: rest => token.text ++ rewritten style ordinal rest

section Placeholders

variable (ordinal : Nat) (name : List Char)

theorem placeholderText_numeric :
    placeholderText .numeric ordinal name = ':' :: 'p' :: Nat.toDigits 10 ordinal := by
  simp [placeholderText]

theorem placeholderText_dollar :
    placeholderText .dollar ordinal name = '$' :: Nat.toDigits 10 ordinal := by
  simp [placeholderText]

/-- The token that a convention writes is the text that the grammar has for it. -/
theorem token_eq_placeholderText (style : ParamStyle) :
    style.token ordinal name = placeholderText style ordinal name := by
  cases style with
  | numeric => exact (placeholderText_numeric ordinal name).symm
  | dollar => exact (placeholderText_dollar ordinal name).symm
  | _ => rfl

end Placeholders

theorem takeWhile_append_of_stop {p : Char → Bool} (code : List Char) {rest : List Char}
    (stops : ∀ c ∈ rest.head?, p c = false) : (code ++ rest).takeWhile p = code.takeWhile p := by
  induction code with
  | nil =>
      cases rest with
      | nil => rfl
      | cons c rest =>
          have stop : p c = false := stops c rfl
          exact List.takeWhile_cons_of_neg (by simp [stop])
  | cons c code inductionHypothesis =>
      simp only [List.cons_append, List.takeWhile_cons, inductionHypothesis]

theorem isWordChar_quote : isWordChar '\'' = false := by decide

theorem isWordChar_colon : isWordChar ':' = false := by decide

private theorem isWordChar_equals : isWordChar '=' = false := by decide

namespace Token

variable {rest : List Char}

/-- A quote with a partner begins a literal. -/
theorem first_literal {body : List Char} (unquoted : '\'' ∉ body) :
    first '\'' (body ++ '\'' :: rest) = literal body := by
  have closed : '\'' ∈ body ++ '\'' :: rest := List.mem_append_right body List.mem_cons_self
  have taken : (body ++ '\'' :: rest).takeWhile (· ≠ '\'') = body := by
    rw [List.takeWhile_append_of_pos, List.takeWhile_cons_of_neg (by simp), List.append_nil]
    intro c member
    apply decide_eq_true
    intro quote
    exact unquoted (quote ▸ member)
  unfold first
  rw [if_pos ⟨rfl, closed⟩, taken]

theorem first_colon : first ':' rest = ofColon rest := rfl

theorem first_operator {second : Char} (double : second = ':' ∨ second = '=') :
    first ':' (second :: rest) = operator second := by
  rw [first_colon, ofColon, if_pos double]

theorem not_operator_of_word {c : Char} (word : isWordChar c = true) : ¬ (c = ':' ∨ c = '=') := by
  rintro (rfl | rfl)
  · rw [isWordChar_colon] at word
    cases word
  · rw [isWordChar_equals] at word
    cases word

/-- A colon before a word begins a placeholder, which takes the whole word. -/
theorem first_placeholder {c : Char} (word : isWordChar c = true) (rest : List Char) :
    first ':' (c :: rest) = placeholder (c :: rest.takeWhile isWordChar) := by
  rw [first_colon, ofColon, if_neg (not_operator_of_word word), if_pos word,
    List.takeWhile_cons_of_pos word]

/-- A colon before anything else, or at the end, is malformed. -/
theorem first_malformed (nothing : ∀ c ∈ rest.head?, ¬ (c = ':' ∨ c = '=') ∧ isWordChar c = false) :
    first ':' rest = malformed := by
  cases rest with
  | nil => rfl
  | cons c rest =>
      obtain ⟨single, apart⟩ := nothing c rfl
      rw [first_colon, ofColon, if_neg single, if_neg (by simp [apart])]

/-- A quote without a partner stands for itself, as any other character does. -/
theorem first_other {c : Char} (alone : c = '\'' → '\'' ∉ rest) (other_than_colon : c ≠ ':') :
    first c rest = other c := by
  unfold first
  rw [if_neg fun paired => alone paired.1 paired.2, if_neg other_than_colon]

/-- A token is the beginning of the text that it is read from. -/
theorem text_first_prefix (c : Char) (rest : List Char) : (first c rest).text <+: c :: rest := by
  by_cases paired : c = '\'' ∧ '\'' ∈ rest
  · obtain ⟨rfl, later⟩ := paired
    obtain ⟨body, tail, rfl, unquoted⟩ := List.eq_append_cons_of_mem later
    rw [first_literal unquoted]
    exact ⟨tail, by simp [text]⟩
  · by_cases colon : c = ':'
    · rw [colon, first_colon]
      unfold ofColon
      split
      · exact List.prefix_rfl
      · rename_i next tail
        split
        · exact ⟨tail, rfl⟩
        · split
          · exact List.cons_prefix_cons.mpr ⟨rfl, List.takeWhile_prefix _⟩
          · exact ⟨next :: tail, rfl⟩
    · rw [first_other (fun quote later => paired ⟨quote, later⟩) colon]
      exact ⟨rest, rfl⟩

end Token

theorem drop_of_split {c : Char} {rest remaining : List Char} {token : Token}
    (split : token.text ++ remaining = c :: rest) :
    rest.drop (token.text.length - 1) = remaining := by
  cases read : token.text with
  | nil => cases token <;> cases read
  | cons head tail =>
      rw [read] at split
      cases split
      exact List.drop_left

/-- A text is its tokens one after the other. -/
theorem flatMap_text_tokens (text : List Char) : (tokens text).flatMap Token.text = text := by
  fun_induction tokens text with
  | case1 => rfl
  | case2 c rest token inductionHypothesis =>
      obtain ⟨remaining, split⟩ := Token.text_first_prefix c rest
      rw [drop_of_split split] at inductionHypothesis ⊢
      rw [List.flatMap_cons, inductionHypothesis]
      exact split

example : tokens "':a':b::c 'x".toList =
    [.literal [':', 'a'], .placeholder ['b'], .operator ':', .other 'c', .other ' ', .other '\'',
      .other 'x'] := by
  decide +kernel

/-- Tokens are read one after the other. -/
theorem tokens_cons {c : Char} {rest remaining : List Char} {token : Token}
    (begins : Token.first c rest = token) (split : token.text ++ remaining = c :: rest) :
    tokens (c :: rest) = token :: tokens remaining := by
  rw [tokens, begins, drop_of_split split]

/-! ### Reading tokens -/

/-- The piece that a token other than a malformed colon stands for. -/
def Token.piece : Token → Piece
  | .placeholder name => .placeholder name
  | token => .verbatim token.text

/-- The pieces of tokens up to the first malformed colon. `offset` is the byte offset of the first
token. -/
def read (offset : Nat) : List Token → Except MalformedColon (List Piece)
  | [] => .ok []
  | token :: rest =>
      if token = .malformed then .error ⟨offset, (rest.flatMap Token.text).head?⟩
      else (read (offset + byteLength token.text) rest).map (token.piece :: ·)

theorem byteLength_cons (c : Char) (rest : List Char) :
    byteLength (c :: rest) = c.utf8Size + byteLength rest := rfl

theorem byteLength_append (left right : List Char) :
    byteLength (left ++ right) = byteLength left + byteLength right := by
  induction left with
  | nil => exact (Nat.zero_add _).symm
  | cons c rest inductionHypothesis =>
      rw [List.cons_append, byteLength_cons, byteLength_cons, inductionHypothesis, Nat.add_assoc]

theorem read_cons {token : Token} (sound : token ≠ .malformed) (offset : Nat) (rest : List Token) :
    read offset (token :: rest) =
      (read (offset + byteLength token.text) rest).map (token.piece :: ·) := by
  rw [read, if_neg sound]

theorem read_sound {tokens : List Token} (sound : .malformed ∉ tokens) (offset : Nat) :
    read offset tokens = .ok (tokens.map Token.piece) := by
  induction tokens generalizing offset with
  | nil => rfl
  | cons token rest inductionHypothesis =>
      obtain ⟨here, later⟩ := List.ne_and_not_mem_of_not_mem_cons sound
      rw [read_cons here.symm, inductionHypothesis later]
      rfl

/-- Reading fails at the first malformed colon, with its byte offset and the character after it. -/
theorem read_malformed {before : List Token} (sound : .malformed ∉ before) (offset : Nat)
    (after : List Token) :
    read offset (before ++ .malformed :: after) =
      .error ⟨offset + byteLength (before.flatMap Token.text),
        (after.flatMap Token.text).head?⟩ := by
  induction before generalizing offset with
  | nil => rfl
  | cons token rest inductionHypothesis =>
      obtain ⟨here, later⟩ := List.ne_and_not_mem_of_not_mem_cons sound
      rw [List.cons_append, read_cons here.symm, inductionHypothesis later, List.flatMap_cons,
        byteLength_append, ← Nat.add_assoc]
      rfl

/-! ### Reading code and literals apart -/

/-- The pieces of two stretches of text, or the first malformed colon in them. -/
def inTurn (first later : Except MalformedColon (List Piece)) :
    Except MalformedColon (List Piece) := do
  return (← first) ++ (← later)

private theorem inTurn_nil (later : Except MalformedColon (List Piece)) :
    inTurn (.ok []) later = later := by
  cases later <;> rfl

private theorem inTurn_ok_nil (first : Except MalformedColon (List Piece)) :
    inTurn first (.ok []) = first := by
  cases first with
  | error e => rfl
  | ok pieces => exact congrArg Except.ok (List.append_nil pieces)

private theorem inTurn_map_cons (piece : Piece) (first later : Except MalformedColon (List Piece)) :
    inTurn (first.map (piece :: ·)) later = (inTurn first later).map (piece :: ·) := by
  cases first with
  | error e => rfl
  | ok pieces => cases later <;> rfl

/-- A name in code takes all word characters. -/
theorem scanCode_name (after : Option Char) (offset : Nat) (read code : List Char) :
    scanCode after offset (.name read) code =
      (scanCode after (offset + byteLength (code.takeWhile isWordChar)) .plain
        (code.dropWhile isWordChar)).map
          (.placeholder (read.reverse ++ code.takeWhile isWordChar) :: ·) := by
  induction code generalizing offset read with
  | nil =>
      simp only [scanCode, List.takeWhile_nil, List.append_nil]
      rfl
  | cons c rest inductionHypothesis =>
      by_cases word : isWordChar c
      · rw [List.takeWhile_cons_of_pos word, List.dropWhile_cons_of_pos word, byteLength_cons,
          ← Nat.add_assoc]
        simp only [scanCode]
        rw [if_pos word, inductionHypothesis, List.reverse_cons, List.append_assoc]
        rfl
      · rw [List.takeWhile_cons_of_neg word, List.dropWhile_cons_of_neg word, List.append_nil]
        simp only [scanCode]
        rw [if_neg word]
        have nothing : offset + byteLength [] = offset := rfl
        rw [nothing]
        by_cases colon : c = ':'
        · rw [if_pos colon, if_pos colon]
        · rw [if_neg colon, if_neg colon]
          cases scanCode after (offset + c.utf8Size) .plain rest <;> rfl

private theorem scanCode_other (after : Option Char) (offset : Nat) {c : Char} (code : List Char)
    (other : c ≠ ':') :
    scanCode after offset .plain (c :: code) =
      (scanCode after (offset + c.utf8Size) .plain code).map (.verbatim [c] :: ·) := by
  simp only [scanCode]
  rw [if_neg other]

theorem scanCode_colon (after : Option Char) (offset : Nat) (code : List Char) :
    scanCode after offset .plain (':' :: code) =
      scanCode after (offset + ':'.utf8Size) (.colon offset) code := by
  simp only [scanCode, if_true]

private theorem scanCode_operator (after : Option Char) (offset : Nat) {second : Char}
    (code : List Char) (double : second = ':' ∨ second = '=') :
    scanCode after offset .plain (':' :: second :: code) =
      (scanCode after (offset + byteLength [':', second]) .plain code).map
        (.verbatim [':', second] :: ·) := by
  have read : (second = ':' || second = '=') = true := by simpa using double
  rw [scanCode_colon]
  simp only [scanCode]
  rw [if_pos read, Nat.add_assoc]
  rfl

private theorem scanCode_placeholder (after : Option Char) (offset : Nat) {c : Char}
    (code : List Char) (word : isWordChar c = true) :
    scanCode after offset .plain (':' :: c :: code) =
      (scanCode after (offset + byteLength (':' :: c :: code.takeWhile isWordChar)) .plain
        (code.dropWhile isWordChar)).map
          (.placeholder (c :: code.takeWhile isWordChar) :: ·) := by
  have single : ¬ (c = ':' || c = '=') = true := by
    simpa using Token.not_operator_of_word word
  rw [scanCode_colon]
  simp only [scanCode]
  rw [if_neg single, if_pos word, scanCode_name, byteLength_cons, byteLength_cons,
    ← Nat.add_assoc, ← Nat.add_assoc]
  rfl

private theorem scanCode_malformed (after : Option Char) (offset : Nat) {c : Char}
    (code : List Char) (single : ¬ (c = ':' ∨ c = '=')) (apart : isWordChar c = false) :
    scanCode after offset .plain (':' :: c :: code) = .error ⟨offset, some c⟩ := by
  have other : ¬ (c = ':' || c = '=') = true := by simpa using single
  rw [scanCode_colon]
  simp only [scanCode]
  rw [if_neg other, if_neg (by simp [apart])]

/-- No quote in the code has a partner in the whole text, and the code ends before a quote or with
the text. -/
structure Outside (code rest : List Char) : Prop where
  alone : ∀ {tail}, '\'' :: tail <:+ code → '\'' ∉ tail ++ rest
  ends : ∀ c ∈ rest.head?, c = '\''

private theorem Outside.suffix {code tail rest : List Char} (outside : Outside code rest)
    (later : tail <:+ code) : Outside tail rest :=
  ⟨fun quoted => outside.alone (quoted.trans later), outside.ends⟩

/-- Both scans take the token from the code, and agree if they agree on what is left of it. -/
theorem inTurn_step {after : Option Char} {offset : Nat} {c : Char} {code tail rest : List Char}
    {token : Token} (sound : token ≠ .malformed) (split : token.text ++ tail = c :: code)
    (begins : Token.first c (code ++ rest) = token)
    (scanned : scanCode after offset .plain (c :: code) =
      (scanCode after (offset + byteLength token.text) .plain tail).map (token.piece :: ·))
    (later : inTurn (scanCode after (offset + byteLength token.text) .plain tail)
        (read (offset + byteLength token.text + byteLength tail) (tokens rest)) =
      read (offset + byteLength token.text) (tokens (tail ++ rest))) :
    inTurn (scanCode after offset .plain (c :: code))
        (read (offset + byteLength (c :: code)) (tokens rest)) =
      read offset (tokens (c :: (code ++ rest))) := by
  have whole : token.text ++ (tail ++ rest) = c :: (code ++ rest) := by
    rw [← List.append_assoc, split, List.cons_append]
  have size : offset + byteLength (c :: code) =
      offset + byteLength token.text + byteLength tail := by
    rw [← split, byteLength_append, Nat.add_assoc]
  rw [tokens_cons begins whole, read_cons sound, scanned, inTurn_map_cons, size, later]

private theorem length_tail_lt {c : Char} {code tail : List Char} {token : Token}
    (split : token.text ++ tail = c :: code) : tail.length < (c :: code).length := by
  have nonempty : 0 < token.text.length := by
    cases token <;> exact Nat.succ_pos _
  rw [← split, List.length_append]
  omega

/-- Outside literals the scan reads one token after the other. -/
theorem scanCode_eq_read {code rest : List Char} (outside : Outside code rest) (offset : Nat) :
    inTurn (scanCode rest.head? offset .plain code)
        (read (offset + byteLength code) (tokens rest)) =
      read offset (tokens (code ++ rest)) := by
  have stops : ∀ c ∈ rest.head?, ¬ (c = ':' ∨ c = '=') ∧ isWordChar c = false := by
    intro c member
    rw [outside.ends c member]
    exact ⟨by decide, isWordChar_quote⟩
  induction size : code.length using Nat.strongRecOn generalizing code offset with
  | ind length inductionHypothesis =>
      cases code with
      | nil => exact inTurn_nil _
      | cons c code =>
          -- A token that is no malformed colon leaves a shorter code.
          have proceed : ∀ {token tail}, token ≠ .malformed → token.text ++ tail = c :: code →
              Token.first c (code ++ rest) = token →
              scanCode rest.head? offset .plain (c :: code) =
                (scanCode rest.head? (offset + byteLength token.text) .plain tail).map
                  (token.piece :: ·) →
              inTurn (scanCode rest.head? offset .plain (c :: code))
                  (read (offset + byteLength (c :: code)) (tokens rest)) =
                read offset (tokens (c :: (code ++ rest))) := by
            intro token tail sound split begins scanned
            have shorter := length_tail_lt split
            rw [size] at shorter
            have later := inductionHypothesis tail.length shorter
              (outside.suffix ⟨token.text, split⟩) (offset + byteLength token.text) rfl
            exact inTurn_step sound split begins scanned later
          by_cases colon : c = ':'
          · subst colon
            cases code with
            | nil =>
                have begins := Token.first_malformed stops
                have split : Token.malformed.text ++ rest = ':' :: rest := rfl
                show inTurn (.error ⟨offset, rest.head?⟩) _ = read offset (tokens (':' :: rest))
                rw [tokens_cons begins split, read, if_pos rfl, flatMap_text_tokens]
                rfl
            | cons d code =>
                by_cases double : d = ':' ∨ d = '='
                · exact proceed Token.noConfusion rfl (Token.first_operator double)
                    (scanCode_operator rest.head? offset code double)
                · by_cases word : isWordChar d
                  · have name := takeWhile_append_of_stop code fun c member => (stops c member).2
                    have begins := Token.first_placeholder word (code ++ rest)
                    rw [name] at begins
                    have split : (Token.placeholder (d :: code.takeWhile isWordChar)).text ++
                        code.dropWhile isWordChar = ':' :: d :: code := by
                      simp [Token.text]
                    exact proceed Token.noConfusion split begins
                      (scanCode_placeholder rest.head? offset code word)
                  · rw [Bool.not_eq_true] at word
                    have begins : Token.first ':' (d :: (code ++ rest)) = .malformed := by
                      apply Token.first_malformed
                      intro next member
                      cases member
                      exact ⟨double, word⟩
                    have split : Token.malformed.text ++ (d :: (code ++ rest)) =
                        ':' :: d :: (code ++ rest) := rfl
                    rw [scanCode_malformed rest.head? offset code double word]
                    show Except.error _ = read offset (tokens (':' :: d :: (code ++ rest)))
                    rw [tokens_cons begins split, read, if_pos rfl, flatMap_text_tokens]
                    rfl
          · have begins : Token.first c (code ++ rest) = .other c := by
              apply Token.first_other _ colon
              intro quote
              subst quote
              exact outside.alone List.suffix_rfl
            exact proceed Token.noConfusion rfl begins
              (scanCode_other rest.head? offset code colon)

theorem divide_code {before : List Char} (unquoted : '\'' ∉ before) (code rest : List Char) :
    divide code none (before ++ rest) = divide (before.reverse ++ code) none rest := by
  induction before generalizing code with
  | nil => rfl
  | cons c before inductionHypothesis =>
      obtain ⟨other, later⟩ := List.ne_and_not_mem_of_not_mem_cons unquoted
      rw [List.cons_append, divide]
      simp only [if_neg other.symm]
      rw [inductionHypothesis later, List.reverse_cons, List.append_assoc]
      rfl

private theorem divide_body {body : List Char} (unquoted : '\'' ∉ body)
    (code read rest : List Char) :
    divide code (some read) (body ++ rest) = divide code (some (body.reverse ++ read)) rest := by
  induction body generalizing read with
  | nil => rfl
  | cons c body inductionHypothesis =>
      obtain ⟨other, later⟩ := List.ne_and_not_mem_of_not_mem_cons unquoted
      rw [List.cons_append, divide]
      simp only [if_neg other.symm]
      rw [inductionHypothesis later, List.reverse_cons, List.append_assoc]
      rfl

/-- How the quotes of a text divide it. -/
inductive Quoting : List Char → Prop where
  | plain {text : List Char} (unquoted : '\'' ∉ text) : Quoting text
  | lone {before body : List Char} (outside : '\'' ∉ before) (inside : '\'' ∉ body) :
      Quoting (before ++ '\'' :: body)
  | paired {before body rest : List Char} (outside : '\'' ∉ before) (inside : '\'' ∉ body)
      (later : Quoting rest) : Quoting (before ++ '\'' :: (body ++ '\'' :: rest))

/-- The quotes of every text divide it. -/
theorem quoting (text : List Char) : Quoting text := by
  by_cases opened : '\'' ∈ text
  · obtain ⟨before, later, rfl, outside⟩ := List.eq_append_cons_of_mem opened
    by_cases closed : '\'' ∈ later
    · obtain ⟨body, rest, rfl, inside⟩ := List.eq_append_cons_of_mem closed
      exact .paired outside inside (quoting rest)
    · exact .lone outside closed
  · exact .plain opened
termination_by text.length
decreasing_by
  subst_vars
  simp only [List.length_append, List.length_cons]
  omega

theorem segments_unquoted {text : List Char} (unquoted : '\'' ∉ text) :
    segments text = [.code text] := by
  have divided := divide_code unquoted [] []
  rw [List.append_nil, List.append_nil] at divided
  rw [segments, divided, divide, List.reverse_reverse]

theorem segments_lone {before body : List Char} (outside : '\'' ∉ before) (inside : '\'' ∉ body) :
    segments (before ++ '\'' :: body) = [.code (before ++ '\'' :: body)] := by
  have divided := divide_body inside before.reverse [] []
  rw [List.append_nil, List.append_nil] at divided
  rw [segments, divide_code outside, List.append_nil, divide]
  simp only [if_true]
  rw [divided, divide, List.reverse_reverse, List.reverse_reverse]

/-- A pair of quotes cuts a text into what precedes it, the literal and the rest. -/
theorem segments_paired {before body : List Char} (outside : '\'' ∉ before)
    (inside : '\'' ∉ body) (rest : List Char) :
    segments (before ++ '\'' :: (body ++ '\'' :: rest)) =
      .code before :: .literal body :: segments rest := by
  rw [segments, divide_code outside, List.append_nil, divide]
  simp only [if_true]
  rw [divide_body inside, List.append_nil, divide]
  simp only [if_true]
  rw [List.reverse_reverse, List.reverse_reverse, segments]

private theorem tokens_literal {body : List Char} (unquoted : '\'' ∉ body) (rest : List Char) :
    tokens ('\'' :: (body ++ '\'' :: rest)) = .literal body :: tokens rest := by
  apply tokens_cons (Token.first_literal unquoted)
  simp [Token.text]

/-- A quote that is the only one in a text has no partner. -/
theorem outside_of_count {text : List Char} (few : text.count '\'' ≤ 1) : Outside text [] := by
  constructor
  · intro tail quoted member
    rw [List.append_nil] at member
    have fewer := quoted.sublist.count_le '\''
    have more := List.count_pos_iff.mpr member
    rw [List.count_cons_self] at fewer
    omega
  · intro c member
    cases member

private theorem scanSegments_eq_read_of_count {text : List Char} (few : text.count '\'' ≤ 1)
    (whole : segments text = [.code text]) (offset : Nat) :
    scanSegments offset (segments text) = read offset (tokens text) := by
  have agrees := scanCode_eq_read (outside_of_count few) offset
  have ends : read (offset + byteLength text) (tokens []) = .ok [] := by
    rw [tokens]
    rfl
  rw [List.append_nil, ends, inTurn_ok_nil] at agrees
  rw [whole, ← agrees]
  exact inTurn_ok_nil _

private theorem scanSegments_code_literal (offset : Nat) (text body : List Char)
    (rest : List Segment) :
    scanSegments offset (.code text :: .literal body :: rest) =
      inTurn (scanCode (some '\'') offset .plain text)
        ((scanSegments (offset + byteLength text + byteLength (Token.literal body).text) rest).map
          ((Token.literal body).piece :: ·)) := by
  have literal : scanSegments (offset + byteLength text) (.literal body :: rest) =
      (scanSegments (offset + byteLength text + byteLength (Token.literal body).text) rest).map
        ((Token.literal body).piece :: ·) := by
    show (do
      let later ← scanSegments (offset + byteLength text + byteLength (Token.literal body).text)
        rest
      pure ((Token.literal body).piece :: later)) = _
    cases scanSegments (offset + byteLength text + byteLength (Token.literal body).text) rest <;>
      rfl
  rw [← literal]
  rfl

private theorem scanSegments_eq_read (text : List Char) (offset : Nat) :
    scanSegments offset (segments text) = read offset (tokens text) := by
  -- Each step takes the code before the next literal and the literal itself.
  induction quoting text generalizing offset with
  | @plain text unquoted =>
      have nothing : text.count '\'' = 0 := List.count_eq_zero.mpr unquoted
      apply scanSegments_eq_read_of_count _ (segments_unquoted unquoted)
      omega
  | @lone before body outside inside =>
      have none_before : before.count '\'' = 0 := List.count_eq_zero.mpr outside
      have none_after : body.count '\'' = 0 := List.count_eq_zero.mpr inside
      apply scanSegments_eq_read_of_count _ (segments_lone outside inside)
      rw [List.count_append, List.count_cons_self]
      omega
  | @paired before body rest outside inside later inductionHypothesis =>
      have first : Outside before ('\'' :: (body ++ '\'' :: rest)) := by
        constructor
        · intro tail quoted
          exact absurd (quoted.subset List.mem_cons_self) outside
        · intro c member
          cases member
          rfl
      have agrees := scanCode_eq_read first offset
      rw [tokens_literal inside, read_cons Token.noConfusion, ← inductionHypothesis] at agrees
      rw [segments_paired outside inside, scanSegments_code_literal, ← agrees]
      rfl

/-- The scan of a text is the reading of its tokens. -/
theorem pieces_eq_read (sql : String) : pieces sql = read 0 (tokens sql.toList) :=
  scanSegments_eq_read sql.toList 0

/-! ### Compiling -/

/-- Pieces are rendered as the tokens that they stand for are rewritten. -/
theorem render_piece {tokens : List Token} (style : ParamStyle) (ordinal : Nat) :
    render style ordinal (tokens.map Token.piece) = rewritten style ordinal tokens := by
  induction tokens generalizing ordinal with
  | nil => rfl
  | cons token rest inductionHypothesis =>
      cases token with
      | placeholder name =>
          rw [List.map_cons, Token.piece, render, rewritten, token_eq_placeholderText,
            inductionHypothesis]
      | _ => exact congrArg (Token.text _ ++ ·) (inductionHypothesis ordinal)

theorem placeholderNames_piece (tokens : List Token) :
    placeholderNames (tokens.map Token.piece) = tokens.filterMap Token.name? := by
  unfold placeholderNames
  rw [List.filterMap_map]
  congr 1
  funext token
  cases token <;> rfl

/-- Compiling a template is one scan of its tokens. If no colon is malformed, they are rewritten
for the driver; otherwise the error tells the byte offset of the first malformed colon and the
character after it. Whether there is a malformed colon and which keys there are does not depend on
the convention. Names are made of underscores and of letters and digits, which below code point 128
are those of ASCII, and the form in which an error shows a character is that of no other. -/
theorem compile_agrees_with_grammar (sql : String) (style : ParamStyle) :
    (tokens sql.toList).flatMap Token.text = sql.toList ∧
      ((.malformed ∉ tokens sql.toList ∧
          compile sql style = .ok
            { sql := String.ofList (rewritten style 1 (tokens sql.toList))
              keys := ((tokens sql.toList).filterMap Token.name?).map String.ofList
              style := style }) ∨
        ∃ before after,
          tokens sql.toList = before ++ .malformed :: after ∧ .malformed ∉ before ∧
            compile sql style = .error (.malformedPlaceholder
              (byteLength (before.flatMap Token.text))
              (match (after.flatMap Token.text).head? with
                | some c => "':' followed by " ++ Text.quotedChar c
                | none => "':' at end of statement"))) ∧
      (∀ other,
        (compile sql style).map Statement.keys = (compile sql other).map Statement.keys) ∧
      (∀ c, isWordChar c = true ↔ c = '_' ∨ Text.isAlphanumeric c = true) ∧
      (∀ c, c.toNat < 128 → Text.isAlphanumeric c = c.isAlphanum) ∧
      ∀ c d, Text.quotedChar c = Text.quotedChar d → c = d := by
  refine ⟨flatMap_text_tokens sql.toList, ?_, ?_, fun c => by simp [isWordChar],
    fun _ ascii => if_pos ascii, fun _ _ => Text.quotedChar_injective⟩
  · by_cases malformed : .malformed ∈ tokens sql.toList
    · right
      obtain ⟨before, after, split, sound⟩ := List.eq_append_cons_of_mem malformed
      refine ⟨before, after, split, sound, ?_⟩
      have fault := pieces_eq_read sql
      rw [split, read_malformed sound, Nat.zero_add] at fault
      unfold compile
      rw [fault]
      rfl
    · left
      refine ⟨malformed, ?_⟩
      have sound := pieces_eq_read sql
      rw [read_sound malformed] at sound
      unfold compile
      rw [sound]
      dsimp only
      rw [render_piece, placeholderNames_piece]
  · intro other
    unfold compile
    cases pieces sql <;> rfl

end SqlBind.Sql

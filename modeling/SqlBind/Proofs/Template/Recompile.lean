import Mathlib.Data.List.Induction
import Mathlib.Data.List.Nodup
import Mathlib.Data.List.TakeDrop
import Mathlib.Data.List.TakeWhile
import SqlBind.Proofs.Template.Grammar

/-!
Owns: what becomes of compiled SQL when it is compiled again. Tokens scan back from their own text
if each of them stands well before what follows (`Separated`); the tokens of a template do, and
writing a driver's tokens in place of the placeholders keeps it that way.

Main statement: compiled SQL is a template again, with the placeholders that its convention writes
and no others (`native_sql_recompiles`).
-/

set_option autoImplicit false

namespace SqlBind.Sql

/-! ### Tokens that scan back -/

/-- A token other than a malformed colon is read as itself before `rest`. -/
def Token.StandsBefore (rest : List Char) : Token → Prop
  | literal body => '\'' ∉ body
  | operator second => second = ':' ∨ second = '='
  | placeholder name =>
      name ≠ [] ∧ (∀ c ∈ name, isWordChar c = true) ∧ ∀ c ∈ rest.head?, isWordChar c = false
  | malformed => False
  | other c => c ≠ ':' ∧ (c = '\'' → '\'' ∉ rest)

def Separated : List Token → Prop
  | [] => True
  | token :: rest => token.StandsBefore (rest.flatMap Token.text) ∧ Separated rest

/-- Every token of a separated list is read as itself before some text. -/
theorem Separated.stands {scanned : List Token} (separated : Separated scanned) {token : Token}
    (member : token ∈ scanned) : ∃ rest, token.StandsBefore rest := by
  induction scanned with
  | nil => cases member
  | cons first rest inductionHypothesis =>
      obtain ⟨stands, later⟩ := separated
      rcases List.mem_cons.mp member with rfl | there
      · exact ⟨_, stands⟩
      · exact inductionHypothesis later there

private theorem takeWhile_of_stop {p : Char → Bool} {word rest : List Char}
    (inside : ∀ c ∈ word, p c = true) (stops : ∀ c ∈ rest.head?, p c = false) :
    (word ++ rest).takeWhile p = word := by
  rw [takeWhile_append_of_stop word stops]
  exact List.takeWhile_eq_self_iff.mpr inside

theorem Token.StandsBefore.first {token : Token} {rest : List Char}
    (stands : token.StandsBefore rest) :
    ∃ c tail, token.text ++ rest = c :: tail ∧ Token.first c tail = token := by
  cases token with
  | literal body =>
      refine ⟨'\'', body ++ '\'' :: rest, ?_, first_literal stands⟩
      simp [text]
  | operator second => exact ⟨':', second :: rest, rfl, first_operator stands⟩
  | placeholder name =>
      obtain ⟨nonempty, inside, stops⟩ := stands
      cases name with
      | nil => exact absurd rfl nonempty
      | cons c name =>
          have word : isWordChar c = true := inside c List.mem_cons_self
          have taken : (name ++ rest).takeWhile isWordChar = name :=
            takeWhile_of_stop (fun d member => inside d (List.mem_cons_of_mem c member)) stops
          refine ⟨':', c :: (name ++ rest), rfl, ?_⟩
          rw [first_placeholder word, taken]
  | malformed => exact absurd stands id
  | other c => exact ⟨c, rest, rfl, first_other stands.2 stands.1⟩

private theorem tokens_of_separated {scanned : List Token} (separated : Separated scanned) :
    tokens (scanned.flatMap Token.text) = scanned := by
  induction scanned with
  | nil =>
      rw [List.flatMap_nil, tokens]
  | cons token rest inductionHypothesis =>
      obtain ⟨stands, later⟩ := separated
      obtain ⟨c, tail, split, begins⟩ := stands.first
      rw [List.flatMap_cons, split, tokens_cons begins split, inductionHypothesis later]

private theorem Token.first_standsBefore {c : Char} {rest remaining : List Char}
    (split : (first c rest).text ++ remaining = c :: rest) (sound : first c rest ≠ malformed) :
    (first c rest).StandsBefore remaining := by
  -- The cases are those of `first`: a closed literal, a colon by what comes next, the rest.
  by_cases paired : c = '\'' ∧ '\'' ∈ rest
  · obtain ⟨rfl, later⟩ := paired
    obtain ⟨body, tail, rfl, unquoted⟩ := List.eq_append_cons_of_mem later
    rw [first_literal unquoted]
    exact unquoted
  · by_cases colon : c = ':'
    · subst colon
      rw [first_colon] at split sound ⊢
      cases rest with
      | nil => exact absurd rfl sound
      | cons next rest =>
          simp only [ofColon] at split sound ⊢
          by_cases double : next = ':' ∨ next = '='
          · rw [if_pos double]
            exact double
          · rw [if_neg double] at split sound ⊢
            by_cases word : isWordChar next = true
            · rw [if_pos word] at split ⊢
              have whole : (next :: rest).takeWhile isWordChar ++ remaining = next :: rest := by
                simpa [text] using split
              have dropped : remaining = (next :: rest).dropWhile isWordChar := by
                have parts := List.takeWhile_append_dropWhile (p := isWordChar) (l := next :: rest)
                exact List.append_cancel_left (whole.trans parts.symm)
              refine ⟨?_, fun d member => List.mem_takeWhile_imp member, ?_⟩
              · simp [word]
              · intro d member
                rw [dropped] at member
                have stopped := List.head?_dropWhile_not isWordChar (next :: rest)
                rw [Option.mem_def] at member
                rw [member] at stopped
                simpa using stopped
            · rw [if_neg word] at sound
              exact absurd rfl sound
    · rw [first_other (fun quote later => paired ⟨quote, later⟩) colon] at split ⊢
      have tail : remaining = rest := by
        simpa [text] using split
      rw [tail]
      exact ⟨colon, fun quote later => paired ⟨quote, later⟩⟩

/-- The tokens of a template without malformed colons scan back from their text. -/
theorem separated_tokens {text : List Char} (sound : .malformed ∉ tokens text) :
    Separated (tokens text) := by
  fun_induction tokens text with
  | case1 => trivial
  | case2 c rest token inductionHypothesis =>
      obtain ⟨remaining, split⟩ := Token.text_first_prefix c rest
      obtain ⟨here, later⟩ := List.ne_and_not_mem_of_not_mem_cons sound
      rw [drop_of_split split] at inductionHypothesis later ⊢
      refine ⟨?_, inductionHypothesis later⟩
      rw [flatMap_text_tokens]
      exact Token.first_standsBefore split here.symm

/-! ### Writing a driver's tokens -/

/-- The tokens that a driver's text for a placeholder is read as. -/
def nativeToken (style : ParamStyle) (ordinal : Nat) (name : List Char) : List Token :=
  match style with
  | .numeric => [.placeholder ('p' :: Nat.toDigits 10 ordinal)]
  | .named => [.placeholder name]
  | _ => (placeholderText style ordinal name).map .other

/-- Tokens with those of a driver in place of the placeholders, which are numbered from
`ordinal` on. -/
def nativeTokens (style : ParamStyle) (ordinal : Nat) : List Token → List Token
  | [] => []
  | .placeholder name :: rest =>
      nativeToken style ordinal name ++ nativeTokens style (ordinal + 1) rest
  | token :: rest => token :: nativeTokens style ordinal rest

theorem flatMap_text_other (text : List Char) :
    (text.map Token.other).flatMap Token.text = text := by
  induction text with
  | nil => rfl
  | cons c rest inductionHypothesis => exact congrArg (c :: ·) inductionHypothesis

private theorem flatMap_text_nativeToken (style : ParamStyle) (ordinal : Nat) (name : List Char) :
    (nativeToken style ordinal name).flatMap Token.text = placeholderText style ordinal name := by
  cases style with
  | numeric =>
      rw [placeholderText_numeric]
      exact List.append_nil _
  | named => exact List.append_nil _
  | _ => exact flatMap_text_other _

/-- The native tokens spell the text that reaches the driver. -/
theorem flatMap_text_nativeTokens (style : ParamStyle) (ordinal : Nat) (scanned : List Token) :
    (nativeTokens style ordinal scanned).flatMap Token.text = rewritten style ordinal scanned := by
  induction scanned generalizing ordinal with
  | nil => rfl
  | cons token rest inductionHypothesis =>
      cases token with
      | placeholder name =>
          simp only [nativeTokens, rewritten, List.flatMap_append, flatMap_text_nativeToken]
          rw [inductionHypothesis (ordinal + 1)]
      | _ => exact congrArg (Token.text _ ++ ·) (inductionHypothesis ordinal)

private theorem isWordChar_of_isDigit {c : Char} (digit : c.isDigit = true) :
    isWordChar c = true := by
  have small : c.toNat < 128 := by
    simp only [Char.isDigit, Bool.and_eq_true, decide_eq_true_eq] at digit
    have bound : c.val.toNat ≤ 57 := digit.2
    show c.val.toNat < 128
    omega
  simp [isWordChar, Text.isAlphanumeric, small, Char.isAlphanum, digit]

theorem isWordChar_of_mem_ordinal {ordinal : Nat} {c : Char}
    (member : c ∈ Nat.toDigits 10 ordinal) : isWordChar c = true :=
  isWordChar_of_isDigit (Nat.isDigit_of_mem_toDigits (by decide) (by decide) member)

private theorem isWordChar_of_mem_numericName {ordinal : Nat} {c : Char}
    (member : c ∈ 'p' :: Nat.toDigits 10 ordinal) : isWordChar c = true := by
  rcases List.mem_cons.mp member with rfl | digit
  · decide
  · exact isWordChar_of_mem_ordinal digit

/-- A driver's text for a placeholder begins outside any word and holds no quote. -/
structure Neutral (text : List Char) : Prop where
  begins : ∃ c tail, text = c :: tail ∧ isWordChar c = false
  unquoted : '\'' ∉ text

/-- No convention writes a placeholder that runs into what precedes it or opens a literal. -/
theorem neutral_token {name : List Char} (inside : ∀ c ∈ name, isWordChar c = true)
    (style : ParamStyle) (ordinal : Nat) : Neutral (placeholderText style ordinal name) := by
  have apart : ∀ {word : List Char}, (∀ c ∈ word, isWordChar c = true) → '\'' ∉ word := by
    intro word inside member
    have quote := inside '\'' member
    rw [isWordChar_quote] at quote
    cases quote
  have counted : '\'' ∉ Nat.toDigits 10 ordinal := apart fun c => isWordChar_of_mem_ordinal
  cases style with
  | qmark => exact ⟨⟨'?', [], rfl, by decide⟩, by simp [placeholderText]⟩
  | format => exact ⟨⟨'%', ['s'], rfl, by decide⟩, by simp [placeholderText]⟩
  | numeric =>
      rw [placeholderText_numeric]
      exact ⟨⟨':', _, rfl, isWordChar_colon⟩, by simpa using counted⟩
  | named =>
      refine ⟨⟨':', name, rfl, isWordChar_colon⟩, ?_⟩
      simpa [placeholderText] using apart inside
  | dollar =>
      rw [placeholderText_dollar]
      exact ⟨⟨'$', _, rfl, by decide⟩, by simpa using counted⟩

section Rewriting

variable {style : ParamStyle} {scanned : List Token}

/-- Rewriting brings no quote into a text. -/
theorem quote_mem_of_rewritten {ordinal : Nat} (separated : Separated scanned)
    (quoted : '\'' ∈ rewritten style ordinal scanned) :
    '\'' ∈ scanned.flatMap Token.text := by
  induction scanned generalizing ordinal with
  | nil => cases quoted
  | cons token rest inductionHypothesis =>
      obtain ⟨stands, later⟩ := separated
      rw [List.flatMap_cons, List.mem_append]
      cases token with
      | placeholder name =>
          right
          rcases List.mem_append.mp quoted with here | there
          · exact absurd here (neutral_token stands.2.1 style ordinal).unquoted
          · exact inductionHypothesis later there
      | _ =>
          rcases List.mem_append.mp quoted with here | there
          · exact Or.inl here
          · exact Or.inr (inductionHypothesis later there)

/-- A word that ends before a text also ends before the rewritten text. -/
theorem rewritten_stops {ordinal : Nat} (separated : Separated scanned)
    (stops : ∀ c ∈ (scanned.flatMap Token.text).head?, isWordChar c = false) :
    ∀ c ∈ (rewritten style ordinal scanned).head?, isWordChar c = false := by
  cases scanned with
  | nil => exact stops
  | cons token rest =>
      obtain ⟨stands, later⟩ := separated
      cases token with
      | placeholder name =>
          obtain ⟨first, tail, begins, apart⟩ := (neutral_token stands.2.1 style ordinal).begins
          intro c member
          simp only [rewritten, begins, List.cons_append, List.head?_cons, Option.mem_some_iff]
            at member
          rw [← member]
          exact apart
      | literal body => exact stops
      | operator second => exact stops
      | malformed => exact stops
      | other c => exact stops

theorem separated_other {text : List Char} {rest : List Token} (unquoted : '\'' ∉ text)
    (single : ':' ∉ text) (later : Separated rest) :
    Separated (text.map Token.other ++ rest) := by
  induction text with
  | nil => exact later
  | cons c text inductionHypothesis =>
      obtain ⟨other, others⟩ := List.ne_and_not_mem_of_not_mem_cons unquoted
      obtain ⟨plain, plains⟩ := List.ne_and_not_mem_of_not_mem_cons single
      exact ⟨⟨plain.symm, fun quote => absurd quote other.symm⟩, inductionHypothesis others plains⟩

private theorem separated_nativeToken {ordinal : Nat} {name : List Char} {rest : List Token}
    (stands : (Token.placeholder name).StandsBefore (rest.flatMap Token.text))
    (later : Separated rest) : Separated (nativeToken style ordinal name ++ rest) := by
  obtain ⟨nonempty, inside, stops⟩ := stands
  have unquoted := (neutral_token inside style ordinal).unquoted
  have counted : ':' ∉ Nat.toDigits 10 ordinal := by
    intro member
    have colon := isWordChar_of_mem_ordinal member
    rw [isWordChar_colon] at colon
    cases colon
  cases style with
  | numeric =>
      exact ⟨⟨List.cons_ne_nil _ _, fun c => isWordChar_of_mem_numericName, stops⟩, later⟩
  | named => exact ⟨⟨nonempty, inside, stops⟩, later⟩
  | qmark => exact separated_other unquoted (by simp [placeholderText]) later
  | format => exact separated_other unquoted (by simp [placeholderText]) later
  | dollar =>
      apply separated_other unquoted _ later
      simpa [placeholderText_dollar] using counted

/-- Writing a driver's tokens neither makes nor breaks a token beside them. -/
theorem separated_nativeTokens (separated : Separated scanned) (style : ParamStyle)
    (ordinal : Nat) : Separated (nativeTokens style ordinal scanned) := by
  induction scanned generalizing ordinal with
  | nil => trivial
  | cons token rest inductionHypothesis =>
      obtain ⟨stands, later⟩ := separated
      cases token with
      | placeholder name =>
          -- The name still ends here: what follows is either as before or a driver's token.
          apply separated_nativeToken _ (inductionHypothesis later (ordinal + 1))
          rw [flatMap_text_nativeTokens]
          exact ⟨stands.1, stands.2.1, rewritten_stops later stands.2.2⟩
      | other c =>
          refine ⟨⟨stands.1, ?_⟩, inductionHypothesis later ordinal⟩
          intro quote quoted
          rw [flatMap_text_nativeTokens] at quoted
          exact stands.2 quote (quote_mem_of_rewritten later quoted)
      | literal body => exact ⟨stands, inductionHypothesis later ordinal⟩
      | operator second => exact ⟨stands, inductionHypothesis later ordinal⟩
      | malformed => exact absurd stands id

/-! ### Rewriting a driver's tokens -/

/-- The named convention writes a text as it stands. -/
theorem rewritten_named (ordinal : Nat) (scanned : List Token) :
    rewritten .named ordinal scanned = scanned.flatMap Token.text := by
  induction scanned generalizing ordinal with
  | nil => rfl
  | cons token rest inductionHypothesis =>
      cases token with
      | placeholder name =>
          exact congrArg ((Token.placeholder name).text ++ ·) (inductionHypothesis (ordinal + 1))
      | _ => exact congrArg (Token.text _ ++ ·) (inductionHypothesis ordinal)

private theorem rewritten_without_names (nameless : scanned.filterMap Token.name? = [])
    (ordinal : Nat) :
    rewritten style ordinal scanned = scanned.flatMap Token.text := by
  induction scanned with
  | nil => rfl
  | cons token rest inductionHypothesis =>
      cases token with
      | placeholder name => cases nameless
      | _ => exact congrArg (Token.text _ ++ ·) (inductionHypothesis nameless)

/-- A convention that does not show names writes the same for renumbered placeholders. -/
theorem rewritten_nativeTokens_numeric (positional : style ≠ .named) (ordinal : Nat) :
    rewritten style ordinal (nativeTokens .numeric ordinal scanned) =
      rewritten style ordinal scanned := by
  induction scanned generalizing ordinal with
  | nil => rfl
  | cons token rest inductionHypothesis =>
      cases token with
      | placeholder name =>
          have same : placeholderText style ordinal ('p' :: Nat.toDigits 10 ordinal) =
              placeholderText style ordinal name := by
            cases style with
            | named => exact absurd rfl positional
            | _ => rfl
          simp only [nativeTokens, nativeToken, List.singleton_append, rewritten, same]
          rw [inductionHypothesis (ordinal + 1)]
      | _ => exact congrArg (Token.text _ ++ ·) (inductionHypothesis ordinal)

/-! ### Names of a driver's tokens -/

theorem names_other (text : List Char) : (text.map Token.other).filterMap Token.name? = [] := by
  induction text with
  | nil => rfl
  | cons c rest inductionHypothesis => exact inductionHypothesis

private theorem names_nativeTokens_symbol
    (symbol : style = .qmark ∨ style = .format ∨ style = .dollar) (ordinal : Nat) :
    (nativeTokens style ordinal scanned).filterMap Token.name? = [] := by
  induction scanned generalizing ordinal with
  | nil => rfl
  | cons token rest inductionHypothesis =>
      cases token with
      | placeholder name =>
          rw [nativeTokens, List.filterMap_append, inductionHypothesis (ordinal + 1),
            List.append_nil]
          rcases symbol with rfl | rfl | rfl <;> exact names_other _
      | _ => exact inductionHypothesis ordinal

private theorem names_nativeTokens_named (ordinal : Nat) (scanned : List Token) :
    (nativeTokens .named ordinal scanned).filterMap Token.name? =
      scanned.filterMap Token.name? := by
  induction scanned generalizing ordinal with
  | nil => rfl
  | cons token rest inductionHypothesis =>
      cases token with
      | placeholder name => exact congrArg (name :: ·) (inductionHypothesis (ordinal + 1))
      | _ => exact inductionHypothesis ordinal

private theorem names_nativeTokens_numeric (ordinal : Nat) (scanned : List Token) :
    (nativeTokens .numeric ordinal scanned).filterMap Token.name? =
      (List.range' ordinal (scanned.filterMap Token.name?).length).map
        fun number => 'p' :: Nat.toDigits 10 number := by
  induction scanned generalizing ordinal with
  | nil => rfl
  | cons token rest inductionHypothesis =>
      cases token with
      | placeholder name =>
          exact congrArg (('p' :: Nat.toDigits 10 ordinal) :: ·) (inductionHypothesis (ordinal + 1))
      | _ => exact inductionHypothesis ordinal

end Rewriting

/-! ### Compiling tokens -/

/-- A template compiles for every convention if no colon in it is malformed. -/
theorem compile_of_sound {sql : String} (sound : .malformed ∉ tokens sql.toList)
    (style : ParamStyle) :
    compile sql style = .ok
      { sql := String.ofList (rewritten style 1 (tokens sql.toList))
        keys := ((tokens sql.toList).filterMap Token.name?).map String.ofList
        style := style } := by
  have read := pieces_eq_read sql
  rw [read_sound sound] at read
  unfold compile
  rw [read]
  dsimp only
  rw [render_piece, placeholderNames_piece]

/-- A text that compiles has no malformed colon. -/
theorem sound_of_compile {sql : String} {style : ParamStyle} {statement : Statement}
    (compiles : compile sql style = .ok statement) : .malformed ∉ tokens sql.toList := by
  intro malformed
  obtain ⟨before, after, split, sound⟩ := List.eq_append_cons_of_mem malformed
  have read := pieces_eq_read sql
  rw [split, read_malformed sound] at read
  unfold compile at compiles
  rw [read] at compiles
  cases compiles

private theorem separated_sound {scanned : List Token} (separated : Separated scanned) :
    .malformed ∉ scanned := by
  induction scanned with
  | nil => exact List.not_mem_nil
  | cons token rest inductionHypothesis =>
      obtain ⟨stands, later⟩ := separated
      intro member
      rcases List.mem_cons.mp member with here | there
      · subst here
        exact stands
      · exact inductionHypothesis later there

/-- Compiling the text of tokens that scan back. -/
theorem compile_of_separated {scanned : List Token} (separated : Separated scanned)
    (style : ParamStyle) :
    compile (String.ofList (scanned.flatMap Token.text)) style = .ok
      { sql := String.ofList (rewritten style 1 scanned)
        keys := (scanned.filterMap Token.name?).map String.ofList
        style := style } := by
  have scansBack : tokens (String.ofList (scanned.flatMap Token.text)).toList = scanned := by
    rw [String.toList_ofList, tokens_of_separated separated]
  have sound : .malformed ∉ tokens (String.ofList (scanned.flatMap Token.text)).toList := by
    rw [scansBack]
    exact separated_sound separated
  rw [compile_of_sound sound, scansBack]

/-! ### Names in the native text -/

theorem firstAppearances_append (keys : List String) (key : String) :
    firstAppearances (keys ++ [key]) =
      if (firstAppearances keys).contains key then firstAppearances keys
      else firstAppearances keys ++ [key] := by
  unfold firstAppearances
  rw [List.foldl_append]
  rfl

/-- First appearances are what is left when repeated keys are erased. -/
theorem firstAppearances_eq_eraseDups (keys : List String) :
    firstAppearances keys = keys.eraseDups := by
  induction keys using List.reverseRecOn with
  | nil => rfl
  | append_singleton keys key inductionHypothesis =>
      rw [firstAppearances_append, inductionHypothesis, List.eraseDups_append]
      by_cases seen : key ∈ keys
      · have known : keys.eraseDups.contains key = true := by simpa using seen
        rw [if_pos known]
        simp [List.removeAll, seen]
      · have fresh : ¬ keys.eraseDups.contains key = true := by simpa using seen
        rw [if_neg fresh]
        simp [List.removeAll, seen, List.eraseDups_cons]

theorem eraseDups_of_nodup {keys : List String} (distinct : keys.Nodup) :
    keys.eraseDups = keys := by
  induction keys with
  | nil => rfl
  | cons key rest inductionHypothesis =>
      obtain ⟨fresh, later⟩ := List.nodup_cons.mp distinct
      have kept : rest.filter (fun other => !other == key) = rest := by
        apply List.filter_eq_self.mpr
        intro other member
        have different : other ≠ key := fun same => fresh (same ▸ member)
        simpa using different
      rw [List.eraseDups_cons, kept, inductionHypothesis later]

def numberedName (letter : Char) (number : Nat) : String :=
  String.ofList (letter :: Nat.toDigits 10 number)

private theorem numberedName_numeric (number : Nat) :
    numberedName 'p' number = "p" ++ toString number := by
  apply String.toList_inj.mp
  rw [numberedName, String.toList_append, Nat.toString_eq_ofList_toDigits]
  simp only [String.toList_ofList]
  rfl

private theorem numberedName_injective (letter : Char) :
    Function.Injective (numberedName letter) := by
  intro left right same
  have digits : Nat.toDigits 10 left = Nat.toDigits 10 right := by
    have texts := String.ofList_injective same
    exact List.tail_eq_of_cons_eq texts
  have read := congrArg (Nat.ofDigitChars 10 · 0) digits
  simpa only [Nat.ofDigitChars_ten_toDigits] using read

theorem nodup_numberedNames (letter : Char) (start count : Nat) :
    ((List.range' start count).map (numberedName letter)).Nodup :=
  List.Nodup.map (numberedName_injective letter) (List.nodup_range' 1)

private theorem nativeNames_numeric (statement : Statement) (style : statement.style = .numeric) :
    statement.nativeNames = (List.range' 1 statement.keys.length).map (numberedName 'p') := by
  simp only [Statement.nativeNames, style]
  rw [List.range'_eq_map_range, List.map_map]
  apply List.map_congr_left
  intro index member
  rw [Function.comp_apply, numberedName_numeric, Nat.add_comm]

/-! ### Compiling again -/

/-- The SQL of a template that compiles is a template again, in every convention. The convention
that writes names leaves the template as it is, and compiling a second time changes nothing.
Conventions without names leave no placeholder behind. The renumbered text compiles to the text of
every other convention that goes by position. The names that the compiled statement tells are the
different placeholders of its SQL, in the order in which they appear there. -/
theorem native_sql_recompiles {sql : String} {style : ParamStyle} {statement : Statement}
    (compiles : compile sql style = .ok statement) :
    ∃ native : ParamStyle → Statement,
      (∀ style, compile sql style = .ok (native style)) ∧
      (native .named).sql = sql ∧
      (∀ style, ∃ again,
        compile (native style).sql style = .ok again ∧ again.sql = (native style).sql) ∧
      (∀ style ∈ [ParamStyle.qmark, .format, .dollar], ∀ other, ∃ again,
        compile (native style).sql other = .ok again ∧ again.sql = (native style).sql ∧
          again.keys = []) ∧
      (∀ style, style ≠ .named → ∃ again,
        compile (native .numeric).sql style = .ok again ∧ again.sql = (native style).sql) ∧
      (∀ style ∈ [ParamStyle.numeric, .named], ∃ again,
        compile (native style).sql .named = .ok again ∧
          (native style).nativeNames = again.bindKeys ∧
          again.bindKeys =
            (((tokens (native style).sql.toList).filterMap Token.name?).map
              String.ofList).eraseDups) := by
  have separated := separated_tokens (sound_of_compile compiles)
  let scanned := tokens sql.toList
  let native : ParamStyle → Statement := fun style =>
    { sql := String.ofList (rewritten style 1 scanned)
      keys := (scanned.filterMap Token.name?).map String.ofList
      style := style }
  -- All parts read this one equation; they differ in what becomes of a driver's own tokens.
  have recompiled : ∀ style other, compile (native style).sql other = .ok
      { sql := String.ofList (rewritten other 1 (nativeTokens style 1 scanned))
        keys := ((nativeTokens style 1 scanned).filterMap Token.name?).map String.ofList
        style := other } := by
    intro style other
    have compiled := compile_of_separated (separated_nativeTokens separated style 1) other
    rw [flatMap_text_nativeTokens] at compiled
    exact compiled
  have again_symbol : ∀ {style : ParamStyle}, style = .qmark ∨ style = .format ∨ style = .dollar →
      ∀ other, rewritten other 1 (nativeTokens style 1 scanned) = rewritten style 1 scanned := by
    intro style symbol other
    rw [rewritten_without_names (names_nativeTokens_symbol symbol 1), flatMap_text_nativeTokens]
  have again_numeric : ∀ {style : ParamStyle}, style ≠ .named →
      rewritten style 1 (nativeTokens .numeric 1 scanned) = rewritten style 1 scanned :=
    fun positional => rewritten_nativeTokens_numeric positional 1
  refine ⟨native, compile_of_sound (sound_of_compile compiles), ?_, ?_, ?_, ?_, ?_⟩
  · show String.ofList (rewritten .named 1 (tokens sql.toList)) = sql
    rw [rewritten_named, flatMap_text_tokens, String.ofList_toList]
  · intro style
    refine ⟨_, recompiled style style, congrArg String.ofList ?_⟩
    cases style with
    | numeric => exact again_numeric (by decide)
    | named => rw [rewritten_named, flatMap_text_nativeTokens]
    | qmark => exact again_symbol (by decide) _
    | format => exact again_symbol (by decide) _
    | dollar => exact again_symbol (by decide) _
  · intro style member other
    have symbol : style = .qmark ∨ style = .format ∨ style = .dollar := by simpa using member
    refine ⟨_, recompiled style other, congrArg String.ofList (again_symbol symbol other), ?_⟩
    show ((nativeTokens style 1 scanned).filterMap Token.name?).map String.ofList = []
    rw [names_nativeTokens_symbol symbol, List.map_nil]
  · intro style positional
    exact ⟨_, recompiled .numeric style, congrArg String.ofList (again_numeric positional)⟩
  · intro style member
    have shows_names : style = .numeric ∨ style = .named := by simpa using member
    have scansBack : tokens (native style).sql.toList = nativeTokens style 1 scanned := by
      show tokens (String.ofList (rewritten style 1 scanned)).toList = _
      rw [String.toList_ofList, ← flatMap_text_nativeTokens,
        tokens_of_separated (separated_nativeTokens separated style 1)]
    have bound : ∀ keys, Statement.bindKeys ⟨String.ofList (rewritten .named 1
        (nativeTokens style 1 scanned)), keys, .named⟩ = keys.eraseDups :=
      firstAppearances_eq_eraseDups
    refine ⟨_, recompiled style .named, ?_, ?_⟩
    · rw [bound]
      rcases shows_names with rfl | rfl
      · have counted : (native .numeric).keys.length = (scanned.filterMap Token.name?).length :=
          List.length_map _
        rw [nativeNames_numeric (native .numeric) rfl, names_nativeTokens_numeric, List.map_map,
          counted]
        exact (eraseDups_of_nodup (nodup_numberedNames 'p' 1 _)).symm
      · rw [names_nativeTokens_named]
        exact firstAppearances_eq_eraseDups _
    · rw [bound, scansBack]

/-- A cast glued to a placeholder, a literal glued to two, and one name twice. -/
theorem native_sql_recompiles_glued :
    let compiled : Statement := ⟨"::$1'x'$2 = $3", ["a", "b", "a"], .dollar⟩
    compile ":::a'x':b = :a" .dollar = .ok compiled ∧
      ∃ again, compile "::$1'x'$2 = $3" .named = .ok again ∧ again.sql = compiled.sql ∧
        again.keys = [] := by
  intro compiled
  have compiles : compile ":::a'x':b = :a" .dollar = .ok compiled := by
    rfl
  obtain ⟨native, isNative, -, -, fixed, -⟩ := native_sql_recompiles compiles
  have same : native .dollar = compiled :=
    Except.ok.inj ((isNative .dollar).symm.trans compiles)
  have again := fixed .dollar (by simp) .named
  rw [same] at again
  exact ⟨compiles, again⟩

end SqlBind.Sql

import SqlBind.Proofs.Template.Recompile

/-!
Owns: the literals of SQL texts through compilation. The scan for literals finds the literal tokens
at the bytes where they stand, in the template as in the native text; writing a driver's tokens
moves them and leaves them as they are.

Main statement: compiling keeps every literal byte for byte, and what stands in a literal matters to
nothing outside it (`literals_are_immune`).
-/

set_option autoImplicit false

namespace SqlBind.Sql

/-- A literal with its quotes. -/
def quoted (body : List Char) : List Char := '\'' :: body ++ ['\'']

/-- The bytes of every literal, quotes included, in ascending order. -/
def literalTexts (sql : String) : List ByteArray :=
  (literalSpans sql).map fun span => sql.toUTF8.extract span.start span.stop

/-- The literals, which have two quotes each, do not have all quotes of the text. -/
def HasUnpairedQuote (sql : String) : Prop :=
  2 * (literalSpans sql).length < sql.toList.count '\''

/-! ### Quotes of tokens -/

namespace Token

def body? : Token → Option (List Char)
  | literal body => some body
  | _ => none

/-- Where the quotes of a token before `rest` are. -/
inductive Quotes (rest : List Char) : Token → Prop where
  | pair {body : List Char} (unquoted : '\'' ∉ body) : Quotes rest (literal body)
  | lone (unquoted : '\'' ∉ rest) : Quotes rest (other '\'')
  | free {token : Token} (plain : token.body? = none) (unquoted : '\'' ∉ token.text) :
      Quotes rest token

private theorem StandsBefore.quotes {token : Token} {rest : List Char}
    (stands : token.StandsBefore rest) : Quotes rest token := by
  cases token with
  | literal body => exact .pair stands
  | operator second =>
      apply Quotes.free rfl
      rcases stands with rfl | rfl <;> decide
  | placeholder name =>
      apply Quotes.free rfl
      intro member
      have inside : '\'' ∈ name := by simpa [text] using member
      have word := stands.2.1 '\'' inside
      rw [isWordChar_quote] at word
      cases word
  | malformed => exact absurd stands id
  | other c =>
      by_cases quote : c = '\''
      · subst quote
        exact .lone (stands.2 rfl)
      · exact .free rfl (by simpa [text] using Ne.symm quote)

end Token

/-! ### Spans of literals -/

/-- The span of a text that follows `before`. -/
def spanAfter (before text : List Char) : Span :=
  ⟨byteLength before, byteLength (before ++ text)⟩

/-- The spans of the literals among tokens that follow `before`. -/
def spansAfter (before : List Char) : List Token → List Span
  | [] => []
  | .literal body :: rest =>
      spanAfter before (quoted body) :: spansAfter (before ++ quoted body) rest
  | token :: rest => spansAfter (before ++ token.text) rest

theorem spansAfter_plain {token : Token} (plain : token.body? = none) (before : List Char)
    (rest : List Token) :
    spansAfter before (token :: rest) = spansAfter (before ++ token.text) rest := by
  cases token with
  | literal body => cases plain
  | _ => rfl

section Scanning

variable {text : List Char}

theorem scanSpans_unquoted (unquoted : '\'' ∉ text) (offset : Nat) (opened : Option Nat)
    (rest : List Char) :
    scanSpans offset opened (text ++ rest) = scanSpans (offset + byteLength text) opened rest := by
  induction text generalizing offset with
  | nil => rfl
  | cons c text inductionHypothesis =>
      obtain ⟨other, later⟩ := List.ne_and_not_mem_of_not_mem_cons unquoted
      simp only [List.cons_append, scanSpans, if_neg other.symm]
      rw [inductionHypothesis later, byteLength_cons, Nat.add_assoc]

/-- A literal that was not closed is none. -/
theorem scanSpans_rest (unquoted : '\'' ∉ text) (offset : Nat) (opened : Option Nat) :
    scanSpans offset opened text = [] := by
  have skipped := scanSpans_unquoted unquoted offset opened []
  rw [List.append_nil] at skipped
  exact skipped

/-- A literal has a span, and the scan goes on behind it. -/
theorem scanSpans_quoted {body : List Char} (unquoted : '\'' ∉ body) (before rest : List Char) :
    scanSpans (byteLength before) none (quoted body ++ rest) =
      spanAfter before (quoted body) ::
        scanSpans (byteLength (before ++ quoted body)) none rest := by
  have split : quoted body ++ rest = '\'' :: (body ++ '\'' :: rest) := by simp [quoted]
  have stop : byteLength before + '\''.utf8Size + byteLength body + '\''.utf8Size =
      byteLength (before ++ quoted body) := by
    simp only [quoted, byteLength_append, byteLength_cons, List.cons_append]
    have nothing : byteLength [] = 0 := rfl
    omega
  rw [split]
  simp only [scanSpans, if_true, scanSpans_unquoted unquoted, stop]
  rfl

private theorem scanSpans_tokens {scanned : List Token} (separated : Separated scanned)
    (before : List Char) :
    scanSpans (byteLength before) none (scanned.flatMap Token.text) =
      spansAfter before scanned := by
  induction scanned generalizing before with
  | nil => rfl
  | cons token rest inductionHypothesis =>
      obtain ⟨stands, later⟩ := separated
      rw [List.flatMap_cons]
      cases stands.quotes with
      | @pair body unquoted =>
          rw [spansAfter, ← inductionHypothesis later]
          exact scanSpans_quoted unquoted before _
      | lone unquoted =>
          -- Nothing closes this quote, and nothing after it opens a literal.
          have nothing := inductionHypothesis later (before ++ ['\''])
          rw [scanSpans_rest unquoted] at nothing
          rw [spansAfter_plain rfl, Token.text, ← nothing]
          exact scanSpans_rest unquoted _ _
      | free plain unquoted =>
          rw [scanSpans_unquoted unquoted, spansAfter_plain plain, ← byteLength_append,
            inductionHypothesis later]

end Scanning

/-! ### Texts of literals -/

theorem size_utf8Encode (text : List Char) : text.utf8Encode.size = byteLength text := by
  induction text with
  | nil => rfl
  | cons c rest inductionHypothesis =>
      have single : [c].utf8Encode.size = c.utf8Size := by
        simp [List.utf8Encode]
      rw [List.utf8Encode_cons, ByteArray.size_append, inductionHypothesis, byteLength_cons, single]

/-- The bytes of a span are those of the text that it was made for. -/
theorem extract_spanAfter (before text after : List Char) :
    (before ++ (text ++ after)).utf8Encode.extract (spanAfter before text).start
      (spanAfter before text).stop = text.utf8Encode := by
  have start : (spanAfter before text).start = before.utf8Encode.size + 0 :=
    (size_utf8Encode before).symm
  have stop : (spanAfter before text).stop = before.utf8Encode.size + text.utf8Encode.size := by
    rw [size_utf8Encode, size_utf8Encode, ← byteLength_append]
    rfl
  rw [start, stop, List.utf8Encode_append, ByteArray.extract_append_size_add,
    List.utf8Encode_append, ByteArray.extract_append_eq_left rfl]

private theorem extract_spansAfter (before : List Char) (scanned : List Token) :
    (spansAfter before scanned).map (fun span =>
        (before ++ scanned.flatMap Token.text).utf8Encode.extract span.start span.stop) =
      (scanned.filterMap Token.body?).map fun body => (quoted body).utf8Encode := by
  induction scanned generalizing before with
  | nil => rfl
  | cons token rest inductionHypothesis =>
      have later := inductionHypothesis (before ++ token.text)
      rw [List.append_assoc] at later
      rw [List.flatMap_cons]
      cases token with
      | literal body =>
          rw [spansAfter, List.map_cons]
          exact congrArg₂ List.cons (extract_spanAfter before (quoted body) _) later
      | _ => exact later

section Tokens

variable {scanned : List Token}

/-- The spans of a text are those of the literals among its tokens. -/
theorem literalSpans_tokens (separated : Separated scanned) :
    literalSpans (String.ofList (scanned.flatMap Token.text)) = spansAfter [] scanned := by
  rw [literalSpans, String.toList_ofList]
  exact scanSpans_tokens separated []

private theorem literalTexts_tokens (separated : Separated scanned) :
    literalTexts (String.ofList (scanned.flatMap Token.text)) =
      (scanned.filterMap Token.body?).map fun body => (quoted body).utf8Encode := by
  rw [literalTexts, literalSpans_tokens separated, String.toUTF8, String.toByteArray_ofList]
  exact extract_spansAfter [] scanned

/-! ### Single literals -/

theorem length_spansAfter (before : List Char) (scanned : List Token) :
    (spansAfter before scanned).length = (scanned.filterMap Token.body?).length := by
  have texts := congrArg List.length (extract_spansAfter before scanned)
  simpa only [List.length_map] using texts

private theorem spansAfter_append (before : List Char) (earlier later : List Token) :
    spansAfter before (earlier ++ later) =
      spansAfter before earlier ++ spansAfter (before ++ earlier.flatMap Token.text) later := by
  induction earlier generalizing before with
  | nil => simp [spansAfter]
  | cons token rest inductionHypothesis =>
      rw [List.cons_append, List.flatMap_cons, ← List.append_assoc]
      cases token with
      | literal body => exact congrArg (_ :: ·) (inductionHypothesis (before ++ quoted body))
      | _ => exact inductionHypothesis _

/-- The span of the literal after `earlier`. -/
theorem getElem?_spansAfter (before : List Char) (earlier later : List Token) (body : List Char) :
    (spansAfter before (earlier ++ .literal body :: later))[(earlier.filterMap
        Token.body?).length]? =
      some (spanAfter (before ++ earlier.flatMap Token.text) (quoted body)) := by
  rw [spansAfter_append, List.getElem?_append_right (by rw [length_spansAfter]),
    length_spansAfter, Nat.sub_self]
  rfl

/-- Every span is that of a literal token. -/
theorem exists_literal_of_span {before : List Char} {k : Nat} {span : Span}
    (placed : (spansAfter before scanned)[k]? = some span) :
    ∃ earlier body later, scanned = earlier ++ .literal body :: later ∧
      (earlier.filterMap Token.body?).length = k := by
  induction scanned generalizing before k with
  | nil => cases placed
  | cons token rest inductionHypothesis =>
      cases plain : token.body? with
      | none =>
          rw [spansAfter_plain plain] at placed
          obtain ⟨earlier, body, later, rfl, count⟩ := inductionHypothesis placed
          exact ⟨token :: earlier, body, later, rfl, by rw [List.filterMap_cons_none plain, count]⟩
      | some body =>
          cases token with
          | literal text =>
              cases k with
              | zero => exact ⟨[], text, rest, rfl, rfl⟩
              | succ k =>
                  have next : (spansAfter (before ++ quoted text) rest)[k]? = some span := placed
                  obtain ⟨earlier, body, later, rfl, count⟩ := inductionHypothesis next
                  exact ⟨.literal text :: earlier, body, later, rfl, congrArg (· + 1) count⟩
          | _ => cases plain

theorem flatMap_text_literal (earlier later : List Token) (body : List Char) :
    (earlier ++ .literal body :: later).flatMap Token.text =
      earlier.flatMap Token.text ++ quoted body ++ later.flatMap Token.text := by
  rw [List.flatMap_append, List.flatMap_cons, List.append_assoc]
  rfl

/-! ### Changing a literal -/

/-- What a token is read as does not depend on what follows the next quote. -/
theorem Token.StandsBefore.change {token : Token} {before after : List Char}
    (stands : token.StandsBefore (before ++ '\'' :: after)) (other : List Char) :
    token.StandsBefore (before ++ '\'' :: other) := by
  cases token with
  | literal body => exact stands
  | operator second => exact stands
  | placeholder name =>
      refine ⟨stands.1, stands.2.1, ?_⟩
      cases before with
      | nil => exact stands.2.2
      | cons c before => exact stands.2.2
  | malformed => exact stands
  | other c => exact ⟨stands.1, fun quote => absurd (by simp) (stands.2 quote)⟩

/-- Another body of a literal changes no other token. -/
theorem Separated.change {earlier later : List Token} {body other : List Char}
    (separated : Separated (earlier ++ .literal body :: later)) (unquoted : '\'' ∉ other) :
    Separated (earlier ++ .literal other :: later) := by
  induction earlier with
  | nil => exact ⟨unquoted, separated.2⟩
  | cons token rest inductionHypothesis =>
      rw [List.cons_append] at separated ⊢
      obtain ⟨stands, apart⟩ := separated
      refine ⟨?_, inductionHypothesis apart⟩
      rw [flatMap_text_literal, quoted, List.append_assoc, List.append_assoc] at stands ⊢
      exact stands.change _

/-! ### Literals of the native text -/

/-- No convention changes a literal. -/
theorem filterMap_body_nativeTokens (style : ParamStyle) (ordinal : Nat) (scanned : List Token) :
    (nativeTokens style ordinal scanned).filterMap Token.body? = scanned.filterMap Token.body? := by
  have plain : ∀ text : List Char, (text.map Token.other).filterMap Token.body? = [] := by
    intro text
    simp [Token.body?]
  induction scanned generalizing ordinal with
  | nil => rfl
  | cons token rest inductionHypothesis =>
      cases token with
      | placeholder name =>
          rw [nativeTokens, List.filterMap_append, inductionHypothesis (ordinal + 1)]
          cases style with
          | numeric => rfl
          | named => rfl
          | _ => exact congrArg (· ++ _) (plain _)
      | literal body => exact congrArg (body :: ·) (inductionHypothesis ordinal)
      | _ => exact inductionHypothesis ordinal

private theorem nativeTokens_append (style : ParamStyle) (ordinal : Nat)
    (earlier later : List Token) :
    nativeTokens style ordinal (earlier ++ later) =
      nativeTokens style ordinal earlier ++
        nativeTokens style (ordinal + (earlier.filterMap Token.name?).length) later := by
  induction earlier generalizing ordinal with
  | nil => rfl
  | cons token rest inductionHypothesis =>
      cases token with
      | placeholder name =>
          have counted : ((Token.placeholder name :: rest).filterMap Token.name?).length =
              (rest.filterMap Token.name?).length + 1 := rfl
          simp only [List.cons_append, nativeTokens]
          rw [inductionHypothesis, List.append_assoc, counted, Nat.add_assoc, Nat.add_comm 1]
      | _ => exact congrArg (_ :: ·) (inductionHypothesis ordinal)

/-- Compiling neither adds nor removes a quote. -/
theorem count_quote_rewritten (separated : Separated scanned) (style : ParamStyle) (ordinal : Nat) :
    (rewritten style ordinal scanned).count '\'' =
      (scanned.flatMap Token.text).count '\'' := by
  induction scanned generalizing ordinal with
  | nil => rfl
  | cons token rest inductionHypothesis =>
      obtain ⟨stands, later⟩ := separated
      rw [List.flatMap_cons, List.count_append]
      cases token with
      | placeholder name =>
          have native := (neutral_token stands.2.1 style ordinal).unquoted
          have named : '\'' ∉ (Token.placeholder name).text :=
            (neutral_token stands.2.1 .named ordinal).unquoted
          rw [rewritten, List.count_append, inductionHypothesis later,
            List.count_eq_zero.mpr native, List.count_eq_zero.mpr named]
      | _ =>
          rw [← inductionHypothesis later ordinal]
          exact List.count_append

end Tokens

/-- A text that compiles is that of separated tokens, and its native text is that of the tokens
that a driver's are written into. -/
theorem compile_tokens {sql : String} {style : ParamStyle} {statement : Statement}
    (compiles : compile sql style = .ok statement) :
    ∃ scanned, Separated scanned ∧ sql = String.ofList (scanned.flatMap Token.text) ∧
      statement =
        { sql := String.ofList ((nativeTokens style 1 scanned).flatMap Token.text)
          keys := (scanned.filterMap Token.name?).map String.ofList
          style := style } := by
  have separated := separated_tokens (sound_of_compile compiles)
  have whole : sql = String.ofList ((tokens sql.toList).flatMap Token.text) := by
    rw [flatMap_text_tokens, String.ofList_toList]
  have compiled := compile_of_sound (sound_of_compile compiles) style
  refine ⟨tokens sql.toList, separated, whole, ?_⟩
  rw [flatMap_text_nativeTokens]
  exact Except.ok.inj (compiles.symm.trans compiled)

/-- What comes before and after a literal in the native text does not depend on the literal. -/
theorem exists_native_around (style : ParamStyle) (earlier later : List Token) :
    ∃ left right, ∀ body, Separated (earlier ++ .literal body :: later) →
      let native := String.ofList
        ((nativeTokens style 1 (earlier ++ .literal body :: later)).flatMap Token.text)
      native.toList = left ++ quoted body ++ right ∧
        (literalSpans native)[(earlier.filterMap Token.body?).length]? =
          some (spanAfter left (quoted body)) := by
  let first := nativeTokens style 1 earlier
  let last := nativeTokens style (1 + (earlier.filterMap Token.name?).length) later
  refine ⟨first.flatMap Token.text, last.flatMap Token.text, ?_⟩
  intro body separated native
  have split : nativeTokens style 1 (earlier ++ .literal body :: later) =
      first ++ .literal body :: last := nativeTokens_append style 1 earlier _
  have scansBack := separated_nativeTokens separated style 1
  have text : native = String.ofList ((first ++ .literal body :: last).flatMap Token.text) := by
    rw [← split]
  rw [split] at scansBack
  rw [text, String.toList_ofList, literalSpans_tokens scansBack,
    ← filterMap_body_nativeTokens style 1 earlier]
  exact ⟨flatMap_text_literal first last body, getElem?_spansAfter [] first last body⟩

/-- Compiling keeps the literals of a text, in their order and byte for byte, and leaves a quote
without a partner if and only if the text has one. Another text without a quote in the place of a
literal's body changes the native text in that literal only; it still compiles, with the same
keys. -/
theorem literals_are_immune {sql : String} {style : ParamStyle} {statement : Statement}
    (compiles : compile sql style = .ok statement) :
    literalTexts statement.sql = literalTexts sql ∧
      (HasUnpairedQuote statement.sql ↔ HasUnpairedQuote sql) ∧
      ∀ (k : Nat) span, (literalSpans sql)[k]? = some span →
        ∃ before body after, sql.toList = before ++ quoted body ++ after ∧
          span = spanAfter before (quoted body) ∧ '\'' ∉ body ∧
          ∃ left right, statement.sql.toList = left ++ quoted body ++ right ∧
            (literalSpans statement.sql)[k]? = some (spanAfter left (quoted body)) ∧
            ∀ other, '\'' ∉ other → ∃ changed,
              compile (String.ofList (before ++ quoted other ++ after)) style = .ok changed ∧
              changed.keys = statement.keys ∧
              changed.sql.toList = left ++ quoted other ++ right ∧
              (literalSpans changed.sql)[k]? = some (spanAfter left (quoted other)) := by
  obtain ⟨scanned, separated, rfl, rfl⟩ := compile_tokens compiles
  have native := separated_nativeTokens separated style 1
  refine ⟨?_, ?_, ?_⟩
  · rw [literalTexts_tokens separated, literalTexts_tokens native, filterMap_body_nativeTokens]
  · rw [HasUnpairedQuote, HasUnpairedQuote, literalSpans_tokens separated,
      literalSpans_tokens native, length_spansAfter, length_spansAfter,
      filterMap_body_nativeTokens, String.toList_ofList, String.toList_ofList,
      flatMap_text_nativeTokens, count_quote_rewritten separated]
  · intro k span placed
    rw [literalSpans_tokens separated] at placed
    obtain ⟨earlier, body, later, rfl, rfl⟩ := exists_literal_of_span placed
    rw [getElem?_spansAfter] at placed
    obtain ⟨left, right, around⟩ := exists_native_around style earlier later
    obtain ⟨text, stands⟩ := separated.stands (List.mem_append_right earlier List.mem_cons_self)
    have here := around body separated
    refine ⟨earlier.flatMap Token.text, body, later.flatMap Token.text, ?_,
      (Option.some.inj placed).symm, stands, left, right, here.1, here.2, ?_⟩
    · rw [String.toList_ofList, flatMap_text_literal]
    · intro other unquoted
      have exchanged := separated.change unquoted
      have there := around other exchanged
      have compiled := compile_of_separated exchanged style
      rw [flatMap_text_literal, ← flatMap_text_nativeTokens] at compiled
      refine ⟨_, compiled, ?_, there.1, there.2⟩
      simp only [List.filterMap_append, List.filterMap_cons, Token.name?]

/-- A doubled quote between two literals, a literal that looks like a placeholder and a quote
without a partner. -/
theorem literals_are_immune_doubled :
    let native : Statement := ⟨"x = 'it'':a' or $1'", ["b"], .dollar⟩
    compile "x = 'it'':a' or :b'" .dollar = .ok native ∧ HasUnpairedQuote native.sql ∧
      literalTexts native.sql = literalTexts "x = 'it'':a' or :b'" ∧
      (literalSpans "x = 'it'':a' or :b'")[1]? = some ⟨8, 12⟩ ∧
      ∃ before body after, "x = 'it'':a' or :b'".toList = before ++ quoted body ++ after ∧
        ∃ changed, compile (String.ofList (before ++ quoted [':'] ++ after)) .dollar = .ok changed ∧
          changed.keys = ["b"] := by
  intro native
  have compiles : compile "x = 'it'':a' or :b'" .dollar = .ok native := by
    rfl
  have second : (literalSpans "x = 'it'':a' or :b'")[1]? = some ⟨8, 12⟩ := by
    decide +kernel
  have left_over : HasUnpairedQuote "x = 'it'':a' or :b'" := by
    unfold HasUnpairedQuote
    decide +kernel
  obtain ⟨texts, unpaired, single⟩ := literals_are_immune compiles
  obtain ⟨before, body, after, split, -, -, left, right, -, -, exchange⟩ := single 1 _ second
  obtain ⟨changed, again, keys, -⟩ := exchange [':'] (by decide)
  exact ⟨compiles, unpaired.mpr left_over, texts, second, before, body, after, split, changed,
    again, keys⟩

end SqlBind.Sql

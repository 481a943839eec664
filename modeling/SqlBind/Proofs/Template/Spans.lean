import SqlBind.Proofs.Template.Literals

/-!
Owns: the byte ranges of literals as places to cut a text. They are found by the quotes alone, which
no other character shares an octet with, so a scan of the octets finds the same ranges, and every
cut falls between two characters.

Main statement: the ranges of the literals pair the quotes of a text in order, and cutting the text
at them gives its code and its literals (`literal_spans_cut_text`).
-/

set_option autoImplicit false

namespace SqlBind.Sql

/-! ### Quotes and cuts -/

/-- The byte offsets of the quotes in a text that begins at byte `offset`. -/
def quotesFrom (offset : Nat) : List Char → List Nat
  | [] => []
  | c :: rest =>
      let later := quotesFrom (offset + c.utf8Size) rest
      if c = '\'' then offset :: later else later

/-- The byte offsets of the quotes of a text, in ascending order. -/
def quoteOffsets (sql : String) : List Nat := quotesFrom 0 sql.toList

/-- The spans from every first quote to the one after it. -/
def pairUp : List Nat → List Span
  | [] => []
  | [_] => []
  | first :: second :: rest => ⟨first, second + 1⟩ :: pairUp rest

/-- The spans that cutting at both ends of some spans gives, from byte `cursor` to byte `stop`. -/
def cutAt (cursor stop : Nat) : List Span → List Span
  | [] => [⟨cursor, stop⟩]
  | span :: rest => ⟨cursor, span.start⟩ :: span :: cutAt span.stop stop rest

/-- The stretches of a text between, and at, the spans of its literals. -/
def slices (sql : String) : List Span := cutAt 0 sql.utf8ByteSize (literalSpans sql)

/-- The bytes of a text in a span. -/
def bytesAt (sql : String) (span : Span) : ByteArray := sql.toUTF8.extract span.start span.stop

/-- A byte offset between two characters of a text, or at one of its ends. -/
def IsCut (sql : String) (offset : Nat) : Prop := (String.Pos.Raw.mk offset).IsValid sql

/-- A byte of a text that is in none of the spans. -/
def OutsideOf (spans : List Span) (offset : Nat) : Prop :=
  ∀ span ∈ spans, ¬ (span.start ≤ offset ∧ offset < span.stop)

/-- The scan for literals over octets, of which the first is that at `position`. -/
def scanOctets (position : Nat) (opened : Option Nat) : List UInt8 → List Span
  | [] => []
  | octet :: rest =>
      if octet = 39 then
        match opened with
        | none => scanOctets (position + 1) (some position) rest
        | some start => ⟨start, position + 1⟩ :: scanOctets (position + 1) none rest
      else scanOctets (position + 1) opened rest

/-! ### Pairs of quotes -/

private theorem pairUp_scanSpans (text : List Char) (offset : Nat) (opened : Option Nat) :
    scanSpans offset opened text = pairUp (opened.toList ++ quotesFrom offset text) := by
  induction text generalizing offset opened with
  | nil => cases opened <;> rfl
  | cons c text inductionHypothesis =>
      by_cases quote : c = '\''
      · subst quote
        cases opened with
        | none => exact inductionHypothesis _ (some offset)
        | some start =>
            have later := inductionHypothesis (offset + '\''.utf8Size) none
            simp only [scanSpans, quotesFrom, if_true, later]
            rfl
      · simp only [scanSpans, quotesFrom, if_neg quote]
        exact inductionHypothesis _ opened

private theorem literalSpans_eq_pairUp (sql : String) :
    literalSpans sql = pairUp (quoteOffsets sql) :=
  pairUp_scanSpans sql.toList 0 none

private theorem getElem?_pairUp (offsets : List Nat) (k : Nat) :
    (pairUp offsets)[k]? = (offsets[2 * k]?).bind fun first =>
      (offsets[2 * k + 1]?).map fun second => ⟨first, second + 1⟩ := by
  induction offsets using pairUp.induct generalizing k with
  | case1 => rfl
  | case2 single =>
      cases k with
      | zero => rfl
      | succ k => rfl
  | case3 first second rest inductionHypothesis =>
      cases k with
      | zero => rfl
      | succ k => exact inductionHypothesis k

private theorem mem_pairUp {offsets : List Nat} (ascending : offsets.Pairwise (· < ·)) {span : Span}
    (member : span ∈ pairUp offsets) :
    span.start < span.stop ∧ span.start ∈ offsets ∧ ∃ second ∈ offsets, span.stop = second + 1 := by
  induction offsets using pairUp.induct with
  | case1 => cases member
  | case2 single => cases member
  | case3 first second rest inductionHypothesis =>
      obtain ⟨below, later⟩ := List.pairwise_cons.mp ascending
      rcases List.mem_cons.mp member with rfl | inLater
      · have apart := below second List.mem_cons_self
        exact ⟨Nat.lt_succ_of_lt apart, List.mem_cons_self, second, by simp, rfl⟩
      · obtain ⟨filled, starts, next, stops, same⟩ :=
          inductionHypothesis (List.pairwise_cons.mp later).2 inLater
        exact ⟨filled, by simp [starts], next, by simp [stops], same⟩

private theorem pairUp_ordered {offsets : List Nat} (ascending : offsets.Pairwise (· < ·)) :
    (pairUp offsets).Pairwise fun earlier later => earlier.stop ≤ later.start := by
  induction offsets using pairUp.induct with
  | case1 => exact .nil
  | case2 single => exact .nil
  | case3 first second rest inductionHypothesis =>
      obtain ⟨above, later⟩ := List.pairwise_cons.mp (List.pairwise_cons.mp ascending).2
      refine List.pairwise_cons.mpr ⟨fun span member => ?_, inductionHypothesis later⟩
      exact above _ (mem_pairUp later member).2.1

/-- A quote is in none of the spans exactly if it is the last one of an odd number. -/
theorem outsideOf_pairUp_iff {offsets : List Nat} (ascending : offsets.Pairwise (· < ·))
    {offset : Nat} (member : offset ∈ offsets) :
    OutsideOf (pairUp offsets) offset ↔
      offsets.length % 2 = 1 ∧ offsets.getLast? = some offset := by
  induction offsets using pairUp.induct with
  | case1 => cases member
  | case2 single =>
      obtain rfl := List.mem_singleton.mp member
      simp [OutsideOf, pairUp]
  | case3 first second rest inductionHypothesis =>
      obtain ⟨belowFirst, afterFirst⟩ := List.pairwise_cons.mp ascending
      obtain ⟨belowSecond, afterSecond⟩ := List.pairwise_cons.mp afterFirst
      have apart := belowFirst second List.mem_cons_self
      have parity : (first :: second :: rest).length % 2 = rest.length % 2 := by
        simp only [List.length_cons]
        omega
      rw [parity, pairUp, OutsideOf, List.forall_mem_cons]
      by_cases inRest : offset ∈ rest
      · have beyond := belowSecond offset inRest
        obtain ⟨next, more, rfl⟩ := List.exists_cons_of_ne_nil (List.ne_nil_of_mem inRest)
        rw [List.getLast?_cons_cons, List.getLast?_cons_cons,
          ← inductionHypothesis afterSecond inRest]
        exact and_iff_right fun ⟨_, below⟩ => Nat.not_lt.mpr beyond below
      · -- The first two quotes are the ends of a span.
        have between : first ≤ offset ∧ offset < second + 1 := by
          rcases List.mem_cons.mp member with rfl | later
          · omega
          · rcases List.mem_cons.mp later with rfl | later
            · omega
            · exact absurd later inRest
        refine iff_of_false (fun outside => outside.1 between) ?_
        rintro ⟨odd, last⟩
        rcases rest with _ | ⟨next, more⟩
        · cases odd
        · rw [List.getLast?_cons_cons, List.getLast?_cons_cons] at last
          exact inRest (List.mem_of_getLast? last)

/-! ### Offsets of quotes -/

private theorem mem_quotesFrom {text : List Char} {start offset : Nat}
    (member : offset ∈ quotesFrom start text) :
    ∃ before after, text = before ++ '\'' :: after ∧ offset = start + byteLength before := by
  induction text generalizing start with
  | nil => cases member
  | cons c text inductionHypothesis =>
      have further : offset ∈ quotesFrom (start + c.utf8Size) text →
          ∃ before after, c :: text = before ++ '\'' :: after ∧
            offset = start + byteLength before := by
        intro later
        obtain ⟨before, after, rfl, rfl⟩ := inductionHypothesis later
        exact ⟨c :: before, after, rfl, by rw [byteLength_cons, Nat.add_assoc]⟩
      by_cases quote : c = '\''
      · subst quote
        rcases List.mem_cons.mp member with rfl | later
        · exact ⟨[], text, rfl, rfl⟩
        · exact further later
      · simp only [quotesFrom, if_neg quote] at member
        exact further member

private theorem quotesFrom_ascending (text : List Char) (offset : Nat) :
    (quotesFrom offset text).Pairwise (· < ·) := by
  induction text generalizing offset with
  | nil => exact .nil
  | cons c text inductionHypothesis =>
      have later := inductionHypothesis (offset + c.utf8Size)
      simp only [quotesFrom]
      split
      · refine List.pairwise_cons.mpr ⟨fun next member => ?_, later⟩
        obtain ⟨before, after, -, rfl⟩ := mem_quotesFrom member
        have positive := Char.utf8Size_pos c
        omega
      · exact later

private theorem length_quotesFrom (text : List Char) (offset : Nat) :
    (quotesFrom offset text).length = text.count '\'' := by
  induction text generalizing offset with
  | nil => rfl
  | cons c text inductionHypothesis =>
      have later := inductionHypothesis (offset + c.utf8Size)
      by_cases quote : c = '\''
      · subst quote
        rw [List.count_cons_self, ← later]
        rfl
      · rw [List.count_cons_of_ne quote, ← later]
        simp only [quotesFrom, if_neg quote]

/-! ### Cuts -/

private theorem utf8ByteSize_ofList (text : List Char) :
    (String.ofList text).utf8ByteSize = byteLength text := by
  rw [String.utf8ByteSize, String.toByteArray_ofList, size_utf8Encode]

/-- Between two parts of a text there is a cut. -/
theorem isCut_byteLength (before after : List Char) :
    IsCut (String.ofList (before ++ after)) (byteLength before) := by
  refine String.Pos.Raw.isValid_iff_exists_append.mpr
    ⟨String.ofList before, String.ofList after, String.ofList_append, ?_⟩
  rw [String.Pos.Raw.ext_iff, String.byteIdx_rawEndPos, utf8ByteSize_ofList]

/-- The spans of stretches that follow `before`. -/
def segmentSpans (before : List Char) : List Segment → List Span
  | [] => []
  | segment :: rest => spanAfter before segment.text :: segmentSpans (before ++ segment.text) rest

/-- A text is its segments one after the other. -/
theorem flatMap_text_segments (text : List Char) : (segments text).flatMap Segment.text = text := by
  induction quoting text with
  | plain unquoted =>
      rw [segments_unquoted unquoted]
      exact List.append_nil _
  | lone outside inside =>
      rw [segments_lone outside inside]
      exact List.append_nil _
  | paired outside inside later inductionHypothesis =>
      rw [segments_paired outside inside, List.flatMap_cons, List.flatMap_cons,
        inductionHypothesis]
      simp [Segment.text]

private theorem cutAt_scanSpans (text before : List Char) :
    cutAt (byteLength before) (byteLength (before ++ text))
        (scanSpans (byteLength before) none text) =
      segmentSpans before (segments text) := by
  induction quoting text generalizing before with
  | plain unquoted =>
      rw [segments_unquoted unquoted, scanSpans_rest unquoted]
      rfl
  | @lone code body outside inside =>
      have opens : scanSpans (byteLength before + byteLength code) none ('\'' :: body) = [] := by
        simp only [scanSpans, if_true]
        exact scanSpans_rest inside _ _
      rw [segments_lone outside inside, scanSpans_unquoted outside, opens]
      rfl
  | @paired code body rest outside inside later inductionHypothesis =>
      have literal : '\'' :: (body ++ '\'' :: rest) = quoted body ++ rest := by simp [quoted]
      have whole : before ++ (code ++ (quoted body ++ rest)) =
          before ++ code ++ quoted body ++ rest := by simp
      have here := inductionHypothesis (before ++ code ++ quoted body)
      rw [segments_paired outside inside, scanSpans_unquoted outside, literal, whole,
        ← byteLength_append, scanSpans_quoted inside]
      exact congrArg (spanAfter before code :: spanAfter (before ++ code) (quoted body) :: ·) here

section Stretches

variable (before : List Char) (stretches : List Segment)

private theorem extract_segmentSpans :
    (segmentSpans before stretches).map (fun span =>
        (before ++ stretches.flatMap Segment.text).utf8Encode.extract span.start span.stop) =
      stretches.map fun segment => segment.text.utf8Encode := by
  induction stretches generalizing before with
  | nil => rfl
  | cons segment rest inductionHypothesis =>
      have later := inductionHypothesis (before ++ segment.text)
      rw [List.append_assoc] at later
      rw [List.flatMap_cons, segmentSpans, List.map_cons]
      exact congrArg₂ List.cons (extract_spanAfter before segment.text _) later

private theorem isCut_segmentSpans :
    ∀ span ∈ segmentSpans before stretches,
      let sql := String.ofList (before ++ stretches.flatMap Segment.text)
      span.start ≤ span.stop ∧ IsCut sql span.start ∧ IsCut sql span.stop := by
  induction stretches generalizing before with
  | nil => exact fun span member => absurd member List.not_mem_nil
  | cons segment rest inductionHypothesis =>
      have later := inductionHypothesis (before ++ segment.text)
      rw [List.append_assoc] at later
      rw [List.flatMap_cons, segmentSpans]
      refine List.forall_mem_cons.mpr ⟨⟨?_, isCut_byteLength before _, ?_⟩, later⟩
      · rw [spanAfter, byteLength_append]
        exact Nat.le_add_right _ _
      · rw [← List.append_assoc]
        exact isCut_byteLength (before ++ segment.text) _

private theorem foldr_utf8Encode :
    (stretches.map fun segment => segment.text.utf8Encode).foldr (· ++ ·) ByteArray.empty =
      (stretches.flatMap Segment.text).utf8Encode := by
  induction stretches with
  | nil => rfl
  | cons segment rest inductionHypothesis =>
      rw [List.map_cons, List.foldr_cons, inductionHypothesis, List.flatMap_cons,
        List.utf8Encode_append]

end Stretches

private theorem mem_cutAt {spans : List Span} {span : Span} (member : span ∈ spans)
    (cursor stop : Nat) : span ∈ cutAt cursor stop spans := by
  induction spans generalizing cursor with
  | nil => cases member
  | cons first rest inductionHypothesis =>
      rcases List.mem_cons.mp member with rfl | later
      · simp [cutAt]
      · simp [cutAt, inductionHypothesis later]

private theorem slices_eq_segmentSpans (sql : String) :
    slices sql = segmentSpans [] (segments sql.toList) := by
  have size : sql.utf8ByteSize = byteLength sql.toList := by
    rw [← utf8ByteSize_ofList, String.ofList_toList]
  rw [slices, size]
  exact cutAt_scanSpans sql.toList []

theorem toUTF8_eq_utf8Encode (sql : String) : sql.toUTF8 = sql.toList.utf8Encode := by
  rw [← String.toByteArray_ofList, String.ofList_toList]
  rfl

private theorem map_bytesAt_slices (sql : String) :
    (slices sql).map (bytesAt sql) =
      (segments sql.toList).map fun segment => segment.text.utf8Encode := by
  have extracted := extract_segmentSpans [] (segments sql.toList)
  rw [flatMap_text_segments, List.nil_append, ← toUTF8_eq_utf8Encode,
    ← slices_eq_segmentSpans] at extracted
  exact extracted

private theorem isCut_slices (sql : String) :
    ∀ slice ∈ slices sql,
      slice.start ≤ slice.stop ∧ IsCut sql slice.start ∧ IsCut sql slice.stop := by
  have cuts := isCut_segmentSpans [] (segments sql.toList)
  rw [flatMap_text_segments, List.nil_append, String.ofList_toList,
    ← slices_eq_segmentSpans] at cuts
  exact cuts

/-! ### Octets -/

/-- The quote is an octet of its own only. -/
theorem quote_not_mem_utf8EncodeChar {c : Char} (other : c ≠ '\'') :
    (39 : UInt8) ∉ String.utf8EncodeChar c := by
  have point : c.val.toNat ≠ 39 := fun same => other (Char.ext (UInt32.toNat_inj.mp same))
  have octet : ∀ n, n % 256 ≠ 39 → (39 : UInt8) ≠ UInt8.ofNat n := by
    intro n apart same
    have values := congrArg UInt8.toNat same
    rw [UInt8.toNat_ofNat'] at values
    exact apart values.symm
  unfold String.utf8EncodeChar
  dsimp only
  -- An octet is the code of a character alone, or above 127.
  split
  · simp only [List.mem_cons, List.not_mem_nil, or_false]
    exact octet _ (by omega)
  · split
    · simp only [List.mem_cons, List.not_mem_nil, or_false, not_or]
      exact ⟨octet _ (by omega), octet _ (by omega)⟩
    · split <;> simp only [List.mem_cons, List.not_mem_nil, or_false, not_or]
      · exact ⟨octet _ (by omega), octet _ (by omega), octet _ (by omega)⟩
      · exact ⟨octet _ (by omega), octet _ (by omega), octet _ (by omega), octet _ (by omega)⟩

private theorem scanOctets_unquoted {octets : List UInt8} (unquoted : 39 ∉ octets) (position : Nat)
    (opened : Option Nat) (rest : List UInt8) :
    scanOctets position opened (octets ++ rest) =
      scanOctets (position + octets.length) opened rest := by
  induction octets generalizing position with
  | nil => rfl
  | cons octet octets inductionHypothesis =>
      obtain ⟨other, later⟩ := List.ne_and_not_mem_of_not_mem_cons unquoted
      simp only [List.cons_append, scanOctets, if_neg other.symm]
      rw [inductionHypothesis later, List.length_cons, Nat.add_assoc, Nat.add_comm 1]

private theorem scanOctets_text (text : List Char) (position : Nat) (opened : Option Nat) :
    scanOctets position opened (text.flatMap String.utf8EncodeChar) =
      scanSpans position opened text := by
  induction text generalizing position opened with
  | nil => cases opened <;> rfl
  | cons c text inductionHypothesis =>
      rw [List.flatMap_cons]
      by_cases quote : c = '\''
      · subst quote
        have octets : String.utf8EncodeChar '\'' = [39] := by decide
        have size : '\''.utf8Size = 1 := by decide
        rw [octets, List.singleton_append]
        simp only [scanOctets, scanSpans, if_true, size]
        cases opened with
        | none => exact inductionHypothesis _ _
        | some start => exact congrArg (_ :: ·) (inductionHypothesis _ _)
      · rw [scanOctets_unquoted (quote_not_mem_utf8EncodeChar quote), inductionHypothesis,
          String.length_utf8EncodeChar]
        simp only [scanSpans, if_neg quote]

/-- The octets of a text show the same literals as its characters. -/
theorem scanOctets_toUTF8 (sql : String) :
    scanOctets 0 none sql.toUTF8.data.toList = literalSpans sql := by
  have octets : sql.toUTF8.data.toList = sql.toList.flatMap String.utf8EncodeChar := by
    rw [toUTF8_eq_utf8Encode, List.utf8Encode, List.data_toByteArray, List.toList_toArray]
  rw [octets, scanOctets_text]
  rfl

/-- How spans pair the quotes of a text. -/
structure PairsQuotes (sql : String) (spans : List Span) : Prop where
  /-- Each span goes from one of the odd quotes to just after the next. -/
  paired : ∀ k : Nat, spans[k]? = (quoteOffsets sql)[2 * k]?.bind fun first =>
    (quoteOffsets sql)[2 * k + 1]?.map fun second => ⟨first, second + 1⟩
  ordered : spans.Pairwise fun earlier later => earlier.stop ≤ later.start
  filled : ∀ span ∈ spans, span.start < span.stop
  /-- Only the last of an odd number of quotes is outside. -/
  unpaired : ∀ offset ∈ quoteOffsets sql, OutsideOf spans offset ↔
    sql.toList.count '\'' % 2 = 1 ∧ (quoteOffsets sql).getLast? = some offset

/-- How stretches divide a text. -/
structure Divides (sql : String) (stretches : List Span) : Prop where
  cuts : ∀ slice ∈ stretches,
    slice.start ≤ slice.stop ∧ IsCut sql slice.start ∧ IsCut sql slice.stop
  texts : stretches.map (bytesAt sql) =
    (segments sql.toList).map fun segment => segment.text.utf8Encode
  whole : (stretches.map (bytesAt sql)).foldr (· ++ ·) ByteArray.empty = sql.toUTF8

private theorem pairsQuotes_literalSpans (sql : String) : PairsQuotes sql (literalSpans sql) := by
  have ascending : (quoteOffsets sql).Pairwise (· < ·) := quotesFrom_ascending sql.toList 0
  have count : (quoteOffsets sql).length = sql.toList.count '\'' := length_quotesFrom sql.toList 0
  rw [literalSpans_eq_pairUp]
  refine ⟨getElem?_pairUp _, pairUp_ordered ascending, fun span member => ?_,
    fun offset member => ?_⟩
  · exact (mem_pairUp ascending member).1
  · rw [outsideOf_pairUp_iff ascending member, count]

private theorem divides_slices (sql : String) : Divides sql (slices sql) where
  cuts := isCut_slices sql
  texts := map_bytesAt_slices sql
  whole := by
    rw [map_bytesAt_slices, foldr_utf8Encode, flatMap_text_segments, toUTF8_eq_utf8Encode]

/-- The spans of the literals pair the quotes of a text in order, as a scan of its octets finds them
too. They begin and end between characters, so the text can be cut at them: the stretches at and
between them are the literals and the code, and together the whole text. -/
theorem literal_spans_cut_text (sql : String) :
    PairsQuotes sql (literalSpans sql) ∧
      (∀ span ∈ literalSpans sql, IsCut sql span.start ∧ IsCut sql span.stop) ∧
      Divides sql (slices sql) ∧
      literalSpans sql = scanOctets 0 none sql.toUTF8.data.toList := by
  have divides := divides_slices sql
  refine ⟨pairsQuotes_literalSpans sql, fun span member => ?_, divides,
    (scanOctets_toUTF8 sql).symm⟩
  exact (divides.cuts span (mem_cutAt member 0 sql.utf8ByteSize)).2

/-- A literal with characters of two octets, and a quote without a partner. -/
example : literalSpans "é'ü:x'ö'" = [⟨2, 8⟩] ∧ quoteOffsets "é'ü:x'ö'" = [2, 7, 10] := by
  decide +kernel

end SqlBind.Sql

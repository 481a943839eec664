import SqlBind.Proofs.Binding.Layout

/-!
Owns: what a keyed record means to a statement. Conventions differ in how often they bind a key, so
what they have in common is said of the placeholders: each gets the value under its name, and the
first of them without a value is the error.

Main statement: a keyed record binds alike in every convention (`keyed_records_bind_alike`).
-/

set_option autoImplicit false

namespace SqlBind

/-! ### Records without a key -/

namespace FieldMap

variable {α : Type}

def erase (m : FieldMap α) (name : String) : FieldMap α :=
  ⟨m.fields.filter fun field => field.1 ≠ name, m.ascending.filter _⟩

private theorem get?_erase_of_ne (m : FieldMap α) {name other : String} (different : other ≠ name) :
    (m.erase name).get? other = m.get? other := by
  obtain ⟨fields, ascending⟩ := m
  show (fields.filter fun field => field.1 ≠ name).lookup other = fields.lookup other
  clear ascending
  induction fields with
  | nil => rfl
  | cons field rest inductionHypothesis =>
      obtain ⟨held, value⟩ := field
      by_cases same : held = name
      · subst same
        rw [List.filter_cons_of_neg (by simp), List.lookup_cons, beq_false_of_ne different]
        exact inductionHypothesis
      · rw [List.filter_cons_of_pos (by simpa using same), List.lookup_cons, List.lookup_cons,
          inductionHypothesis]

end FieldMap

/-! ### Binding -/

namespace Statement

variable {s : Statement} {record : KeyedRecord} {index : Option Nat}

theorem mem_bindKeys {key : String} : key ∈ s.bindKeys ↔ key ∈ s.keys := by
  unfold bindKeys
  split
  · exact mem_firstAppearances
  · rfl

private theorem find?_bindKeys (wanted : String → Bool) :
    s.bindKeys.find? wanted = s.keys.find? wanted := by
  unfold bindKeys
  split
  · exact find?_firstAppearances wanted s.keys
  · rfl

/-- The value of a record under a key. -/
def valueUnder (record : KeyedRecord) (index : Option Nat) (key : String) : Except DbError Value :=
  match record.get? key with
  | some value => .ok value
  | none => .error (.missingParameter key index)

private theorem valueUnder_of_some {key : String} {value : Value}
    (held : record.get? key = some value) : valueUnder record index key = .ok value := by
  simp [valueUnder, held]

private theorem valueUnder_of_none {key : String} (lacks : record.get? key = none) :
    valueUnder record index key = .error (.missingParameter key index) := by
  simp [valueUnder, lacks]

/-- The values under some keys are all there, or the first key without one is the error. -/
theorem mapM_valueUnder (record : KeyedRecord) (index : Option Nat) (keys : List String) :
    (∃ row, keys.mapM (valueUnder record index) = .ok row ∧ row.map some = keys.map record.get?) ∨
      ∃ key, keys.find? (fun key => (record.get? key).isNone) = some key ∧
        keys.mapM (valueUnder record index) = .error (.missingParameter key index) := by
  induction keys with
  | nil => exact Or.inl ⟨[], rfl, rfl⟩
  | cons key rest inductionHypothesis =>
      rw [List.mapM_cons]
      cases held : record.get? key with
      | none =>
          right
          exact ⟨key, by simp [held], by rw [valueUnder_of_none held]; rfl⟩
      | some value =>
          rw [valueUnder_of_some held]
          rcases inductionHypothesis with ⟨row, binds, values⟩ | ⟨other, first, fails⟩
          · left
            exact ⟨value :: row, by rw [binds]; rfl, by simp [values, held]⟩
          · right
            exact ⟨other, by simpa [held] using first, by rw [fails]; rfl⟩

/-- Each slot gets the value that the record has under its key. -/
theorem values_of_bindKeyed {row : Row} (binds : s.bindKeyed record index = .ok row) :
    row.map some = s.bindKeys.map record.get? := by
  rcases mapM_valueUnder record index s.bindKeys with ⟨other, same, values⟩ | ⟨key, -, fails⟩
  · cases same.symm.trans binds
    exact values
  · cases fails.symm.trans binds

theorem mapM_valueUnder_error_iff {keys : List String} {e : DbError} :
    keys.mapM (valueUnder record index) = .error e ↔
      ∃ key, keys.find? (fun key => (record.get? key).isNone) = some key ∧
        e = .missingParameter key index := by
  rcases mapM_valueUnder record index keys with ⟨row, binds, values⟩ | ⟨key, first, fails⟩
  · constructor
    · intro fails
      cases binds.symm.trans fails
    -- A row has a value for every key, so no key can lack one.
    · rintro ⟨key, first, -⟩
      have lacks : record.get? key = none := by simpa using List.find?_some first
      have held := List.mem_map_of_mem (f := record.get?) (List.mem_of_find?_eq_some first)
      rw [← values, lacks] at held
      simp at held
  · constructor
    · intro other
      cases fails.symm.trans other
      exact ⟨key, first, rfl⟩
    · rintro ⟨other, again, rfl⟩
      cases first.symm.trans again
      exact fails

/-- The first placeholder without a value decides, in every convention. -/
theorem bindKeyed_error_iff {e : DbError} :
    s.bindKeyed record index = .error e ↔
      ∃ key, s.keys.find? (fun key => (record.get? key).isNone) = some key ∧
        e = .missingParameter key index := by
  rw [← find?_bindKeys]
  exact mapM_valueUnder_error_iff

/-- A record binds exactly if it has a value under every key. -/
theorem bindKeyed_ok_iff :
    (∃ row, s.bindKeyed record index = .ok row) ↔ ∀ key ∈ s.keys, record.get? key ≠ none := by
  cases binds : s.bindKeyed record index with
  | ok row =>
      simp only [Except.ok.injEq, exists_eq', true_iff]
      intro key member lacks
      have held := List.mem_map_of_mem (f := record.get?) (mem_bindKeys.mpr member)
      rw [← values_of_bindKeyed binds, lacks] at held
      simp at held
  | error e =>
      obtain ⟨key, first, -⟩ := bindKeyed_error_iff.mp binds
      have lacks : record.get? key = none := by simpa using List.find?_some first
      simp only [reduceCtorEq, exists_false, false_iff, not_forall]
      exact ⟨key, List.mem_of_find?_eq_some first, by simpa using lacks⟩

/-- Records that agree on the keys of a statement bind alike. -/
theorem bindKeyed_congr {other : KeyedRecord}
    (same : ∀ key ∈ s.keys, other.get? key = record.get? key) :
    s.bindKeyed other index = s.bindKeyed record index := by
  have alike : ∀ keys : List String, (∀ key ∈ keys, key ∈ s.keys) →
      keys.mapM (valueUnder other index) = keys.mapM (valueUnder record index) := by
    intro keys inside
    induction keys with
    | nil => rfl
    | cons key rest inductionHypothesis =>
        have here := same key (inside key (by simp))
        have later := inductionHypothesis fun next member => inside next (by simp [member])
        rw [List.mapM_cons, List.mapM_cons, later, valueUnder, valueUnder, here]
  exact alike s.bindKeys fun key => mem_bindKeys.mp

/-- The slot from which the placeholder number `i`, named `key`, gets its value. -/
def slot (s : Statement) (i : Nat) (key : String) : Nat :=
  match s.style with
  | .named => s.bindKeys.idxOf key
  | _ => i

private theorem bindKeys_slot {i : Nat} {key : String} (placed : s.keys[i]? = some key) :
    s.bindKeys[s.slot i key]? = some key := by
  have member := mem_bindKeys.mpr (List.mem_of_getElem? placed)
  unfold slot
  split
  · exact List.getElem?_idxOf member
  · rename_i positional
    have same : s.bindKeys = s.keys := by
      unfold bindKeys
      split
      · contradiction
      · rfl
    rw [same, placed]

/-- Without repeated keys each placeholder has a slot of its own. -/
theorem slot_of_distinct (distinct : s.keys.Nodup) {i : Nat} {key : String}
    (placed : s.keys[i]? = some key) : s.slot i key = i := by
  unfold slot
  split
  · obtain ⟨inside, rfl⟩ := List.getElem?_eq_some_iff.mp placed
    rw [bindKeys_of_distinct distinct]
    exact distinct.idxOf_getElem i inside
  · rfl

private theorem value_at_slot {row : Row} (binds : s.bindKeyed record index = .ok row) {i : Nat}
    {key : String} (placed : s.keys[i]? = some key) :
    ∃ value, row[s.slot i key]? = some value ∧ record.get? key = some value := by
  have values := congrArg (·[s.slot i key]?) (values_of_bindKeyed binds)
  simp only [List.getElem?_map, bindKeys_slot placed] at values
  cases filled : row[s.slot i key]? with
  | none => simp [filled] at values
  | some value =>
      rw [filled] at values
      exact ⟨value, rfl, (Option.some.inj values).symm⟩

end Statement

/-- A keyed record means the same to a statement in every convention: it binds in one if it binds in
another. If it does not, the error names the first placeholder of the text that it has no value for.
If it does, each placeholder gets the value under its own name, and the row holds one value for each
bind key; a driver that binds by name gets no key twice. Keys that are no placeholders do not
matter. -/
theorem keyed_records_bind_alike {sql : String} {style : ParamStyle} {compiled : Statement}
    (compiles : compile sql style = .ok compiled) (record : KeyedRecord) (index : Option Nat) :
    ∃ native : ParamStyle → Statement, (∀ style, compile sql style = .ok (native style)) ∧
      let keys := ((Sql.tokens sql.toList).filterMap Sql.Token.name?).map String.ofList
      (∀ style, (native style).keys = keys) ∧
      (∀ style other, (∃ row, (native style).bindKeyed record index = .ok row) ↔
        ∃ row, (native other).bindKeyed record index = .ok row) ∧
      (∀ style e, (native style).bindKeyed record index = .error e →
        ∃ before key after, keys = before ++ key :: after ∧
          (∀ earlier ∈ before, record.get? earlier ≠ none) ∧ record.get? key = none ∧
          e = .missingParameter key index) ∧
      (∀ style row, (native style).bindKeyed record index = .ok row →
        row.length = (native style).bindKeys.length ∧
        ∀ i key, keys[i]? = some key → ∃ value,
          row[(native style).slot i key]? = some value ∧ record.get? key = some value) ∧
      (native .named).bindKeys.Nodup ∧
      ∀ key ∉ keys, ∀ style, (native style).bindKeyed (record.erase key) index =
        (native style).bindKeyed record index := by
  let native : ParamStyle → Statement := fun style =>
    { sql := String.ofList (Sql.rewritten style 1 (Sql.tokens sql.toList))
      keys := ((Sql.tokens sql.toList).filterMap Sql.Token.name?).map String.ofList
      style := style }
  refine ⟨native, Sql.compile_of_sound (Sql.sound_of_compile compiles), fun style => rfl, ?_, ?_,
    ?_, nodup_firstAppearances _, ?_⟩
  · intro style other
    rw [Statement.bindKeyed_ok_iff, Statement.bindKeyed_ok_iff]
  · intro style e fails
    obtain ⟨key, first, rfl⟩ := Statement.bindKeyed_error_iff.mp fails
    obtain ⟨lacks, before, after, split, held⟩ := List.find?_eq_some_iff_append.mp first
    refine ⟨before, key, after, split, ?_, by simpa using lacks, rfl⟩
    simpa [Option.isSome_iff_ne_none] using held
  · intro style row binds
    have size := congrArg List.length (Statement.values_of_bindKeyed binds)
    rw [List.length_map, List.length_map] at size
    exact ⟨size, fun i key => Statement.value_at_slot binds⟩
  · intro key foreign style
    apply Statement.bindKeyed_congr
    intro other member
    apply FieldMap.get?_erase_of_ne
    rintro rfl
    exact foreign member

/-- A repeated placeholder is bound once by name and twice by position. -/
theorem keyed_records_bind_alike_repeated :
    let record : KeyedRecord := .ofList [("a", .int 1), ("b", .int 2), ("c", .int 3)]
    let byName : Statement := ⟨"x = :b or :a or :b", ["b", "a", "b"], .named⟩
    let byPosition : Statement := ⟨"x = ? or ? or ?", ["b", "a", "b"], .qmark⟩
    compile "x = :b or :a or :b" .named = .ok byName ∧
      byName.bindKeyed record none = .ok [.int 2, .int 1] ∧
      (∃ row, byPosition.bindKeyed record none = .ok row) ∧
      byName.bindKeyed (record.erase "c") none = .ok [.int 2, .int 1] := by
  intro record byName byPosition
  have compiles : compile "x = :b or :a or :b" .named = .ok byName := rfl
  have binds : byName.bindKeyed record none = .ok [.int 2, .int 1] := rfl
  obtain ⟨native, isNative, -, alike, -, -, -, foreign⟩ :=
    keyed_records_bind_alike compiles record none
  have named : native .named = byName := Except.ok.inj ((isNative .named).symm.trans compiles)
  have marked : native .qmark = byPosition := Except.ok.inj ((isNative .qmark).symm.trans rfl)
  have both := alike .named .qmark
  have without := foreign "c" (by decide +kernel) .named
  rw [named] at both without
  rw [marked] at both
  exact ⟨compiles, binds, both.mp ⟨_, binds⟩, without.trans binds⟩

end SqlBind

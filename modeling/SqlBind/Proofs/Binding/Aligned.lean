import SqlBind.Proofs.Binding.Keyed

/-!
Owns: rows by position where a key fills several slots. A row with a value for each slot is read at
the first appearances of the keys, a row with a value for each different key at their ranks.

Main statement: a keyed record and the two rows aligned with it bind alike, and every row by
position binds by its length (`Statement.aligned_rows_bind_alike`).
-/

set_option autoImplicit false

namespace SqlBind

namespace Statement

/-! ### Reading a row at places -/

variable {s : Statement} {row : Row} {keys : List String} {place : String → Nat}

/-- A row with one value for each key, taken from another row at the place of the key. -/
structure Fills (bound row : Row) (keys : List String) (place : String → Nat) : Prop where
  complete : bound.length = keys.length
  inside : ∀ key ∈ keys, place key < row.length
  values : ∀ (i : Nat) key, keys[i]? = some key → bound[i]? = row[place key]?
  alike : ∀ i j : Nat, keys[i]? = keys[j]? → bound[i]? = bound[j]?

private theorem map_some_pick {places : List Nat} (inside : ∀ place ∈ places, place < row.length) :
    (pick row places).map some = places.map fun place => row[place]? := by
  induction places with
  | nil => rfl
  | cons place rest inductionHypothesis =>
      have held := List.getElem?_eq_getElem (inside place List.mem_cons_self)
      have later := inductionHypothesis fun other member =>
        inside other (List.mem_cons_of_mem place member)
      rw [pick] at later ⊢
      rw [List.filterMap_cons_some held, List.map_cons, List.map_cons, later, held]

private theorem map_some_pick_map (inside : ∀ key ∈ keys, place key < row.length) :
    (pick row (keys.map place)).map some = keys.map fun key => row[place key]? := by
  rw [map_some_pick, List.map_map]
  · rfl
  · intro other member
    obtain ⟨key, held, rfl⟩ := List.mem_map.mp member
    exact inside key held

private theorem fills_pick (inside : ∀ key ∈ keys, place key < row.length) :
    Fills (pick row (keys.map place)) row keys place := by
  have picked := map_some_pick_map inside
  have at_slot : ∀ i : Nat, (pick row (keys.map place))[i]?.map some =
      keys[i]?.map fun key => row[place key]? := by
    intro i
    rw [← List.getElem?_map, ← List.getElem?_map, picked]
  refine ⟨?_, inside, ?_, ?_⟩
  · simpa using congrArg List.length picked
  · intro i key placed
    have filled := at_slot i
    rw [placed, Option.map_some] at filled
    obtain ⟨value, held, same⟩ := Option.map_eq_some_iff.mp filled
    rw [held, same]
  · intro i j same
    apply Option.map_injective (fun _ _ => Option.some.inj)
    rw [at_slot, at_slot, same]

private theorem firstBeyond_map (count : Nat) (keys : List String) (rank : String → Nat) :
    firstBeyond count keys (keys.map rank) = (keys.find? fun key => count ≤ rank key).getD "" := by
  have zipped : keys.zip (keys.map rank) = keys.map fun key => (key, rank key) := by
    rw [← List.map_prod_left_eq_zip]
  have ranked : (fun slot : String × Nat => decide (count ≤ slot.2)) ∘
      (fun key => (key, rank key)) = fun key => decide (count ≤ rank key) := rfl
  rw [firstBeyond, zipped, List.find?_map, ranked]
  cases keys.find? fun key => decide (count ≤ rank key) <;> rfl

/-- Ranks grow in the order of first appearances, so the first key whose rank is not below a number
is the one with that rank. -/
theorem find?_rank (keys : List String) (count : Nat) :
    (keys.find? fun key => count ≤ (firstAppearances keys).idxOf key) =
      (firstAppearances keys)[count]? := by
  have different := nodup_firstAppearances keys
  rw [← find?_firstAppearances]
  generalize firstAppearances keys = distinct at different
  by_cases ranked : count < distinct.length
  · rw [List.getElem?_eq_getElem ranked, List.find?_eq_some_iff_getElem]
    refine ⟨?_, count, ranked, rfl, ?_⟩
    · simp [different.idxOf_getElem count ranked]
    · intro earlier before
      simp [different.idxOf_getElem earlier (before.trans ranked), before]
  · rw [List.getElem?_eq_none (Nat.le_of_not_lt ranked), List.find?_eq_none]
    intro key member
    have rank := List.idxOf_lt_length_of_mem member
    rw [decide_eq_true_eq]
    omega

/-! ### Rows by position -/

variable {index : Option Nat}

theorem layout_eq (s : Statement) :
    s.layout =
      { first := s.bindKeys.map s.bindKeys.idxOf
        distinct := s.bindKeys.map (firstAppearances s.bindKeys).idxOf
        distinctCount := (firstAppearances s.bindKeys).length } :=
  BindLayout.ofKeys_eq s.bindKeys

theorem hasDuplicates_layout (repeated : ¬ s.bindKeys.Nodup) : s.layout.hasDuplicates = true :=
  (BindLayout.hasDuplicates_ofKeys s.bindKeys).mpr repeated

/-- A row with a value for every slot is read by the slot of a key's first appearance. -/
theorem bindPositional_by_slot (repeated : ¬ s.bindKeys.Nodup)
    (whole : s.bindKeys.length ≤ row.length) :
    s.bindPositional row index = .ok (pick row (s.bindKeys.map s.bindKeys.idxOf)) := by
  rw [bindPositional, hasDuplicates_layout repeated, layout_eq]
  simp [whole]

/-- A shorter row that has a value for every key is read by the order of first appearances. -/
theorem bindPositional_by_rank (repeated : ¬ s.bindKeys.Nodup)
    (short : row.length < s.bindKeys.length)
    (enough : (firstAppearances s.bindKeys).length ≤ row.length) :
    s.bindPositional row index =
      .ok (pick row (s.bindKeys.map (firstAppearances s.bindKeys).idxOf)) := by
  rw [bindPositional, hasDuplicates_layout repeated, layout_eq]
  simp [Nat.not_le.mpr short, enough]

/-- A row that is shorter still misses the next key in the order of first appearances. -/
theorem bindPositional_too_short {key : String} (repeated : ¬ s.bindKeys.Nodup)
    (next : (firstAppearances s.bindKeys)[row.length]? = some key) :
    s.bindPositional row index = .error (.missingParameter key index) := by
  have few : row.length < (firstAppearances s.bindKeys).length :=
    (List.getElem?_eq_some_iff.mp next).1
  have short := few.trans_le (firstAppearances_sublist s.bindKeys).length_le
  have named : firstBeyond row.length s.bindKeys
      (s.bindKeys.map (firstAppearances s.bindKeys).idxOf) = key := by
    rw [firstBeyond_map, find?_rank, next, Option.getD_some]
  rw [bindPositional, hasDuplicates_layout repeated, layout_eq]
  simp [Nat.not_le.mpr few, Nat.not_le.mpr short, named]

/-! ### Rows of a record -/

variable {values : String → Value}

/-- Each key takes the value at its place among the keys that a row is aligned with. -/
theorem pick_aligned {own : List String} (inside : ∀ key ∈ keys, key ∈ own)
    (values : String → Value) :
    pick (own.map values) (keys.map own.idxOf) = keys.map values := by
  have placed : ∀ key ∈ keys, own.idxOf key < (own.map values).length := by
    intro key member
    rw [List.length_map]
    exact List.idxOf_lt_length_of_mem (inside key member)
  apply List.map_injective_iff.mpr fun _ _ => Option.some.inj
  rw [map_some_pick_map placed, List.map_map]
  apply List.map_congr_left
  intro key member
  rw [List.getElem?_map, List.getElem?_idxOf (inside key member)]
  rfl

private theorem bindPositional_slots (values : String → Value) :
    s.bindPositional (s.bindKeys.map values) index = .ok (s.bindKeys.map values) := by
  by_cases single : s.bindKeys.Nodup
  · exact bindPositional_of_single single _ index
  · rw [bindPositional_by_slot single (by simp), pick_aligned fun _ => id]

private theorem bindPositional_ranks (values : String → Value) :
    s.bindPositional ((firstAppearances s.bindKeys).map values) index =
      .ok (s.bindKeys.map values) := by
  by_cases single : s.bindKeys.Nodup
  · rw [Sql.firstAppearances_eq_eraseDups, Sql.eraseDups_of_nodup single]
    exact bindPositional_of_single single _ index
  · have short := (length_firstAppearances_lt_iff s.bindKeys).mpr single
    rw [bindPositional_by_rank single (by simpa using short) (by simp),
      pick_aligned fun _ => mem_firstAppearances.mpr]

private theorem bindKeyed_of_values {record : KeyedRecord}
    (held : ∀ key ∈ s.bindKeys, record.get? key = some (values key)) :
    s.bindKeyed record index = .ok (s.bindKeys.map values) := by
  have complete : ∀ key ∈ s.keys, record.get? key ≠ none := by
    intro key member
    simp [held key (mem_bindKeys.mpr member)]
  have bound : ∃ row, s.bindKeyed record index = .ok row := bindKeyed_ok_iff.mpr complete
  obtain ⟨row, binds⟩ := bound
  have same : row = s.bindKeys.map values := by
    apply List.map_injective_iff.mpr fun _ _ => Option.some.inj
    rw [values_of_bindKeyed binds, List.map_map]
    exact List.map_congr_left held
  rw [binds, same]

end Statement

namespace Sql

/-- A key is the name of a placeholder, so it is not empty. -/
theorem key_ne_empty {sql : String} {style : ParamStyle} {s : Statement}
    (compiles : compile sql style = .ok s) {key : String} (member : key ∈ s.keys) : key ≠ "" := by
  have sound := sound_of_compile compiles
  cases compiles.symm.trans (compile_of_sound sound style)
  obtain ⟨name, named, rfl⟩ := List.mem_map.mp member
  obtain ⟨token, scanned, is_placeholder⟩ := List.mem_filterMap.mp named
  obtain ⟨rest, stands⟩ := (separated_tokens sound).stands scanned
  cases token with
  | placeholder other =>
      cases is_placeholder
      intro empty
      apply stands.1
      rw [← String.toList_ofList (l := name), empty]
      rfl
  | _ => cases is_placeholder

end Sql

namespace Statement

/-- Let `distinct` be the different bind keys of a compiled statement, in the order of their first
appearances. A keyed record with a value for every bind key, the row of its values for the slots
and the row of its values for the different keys bind alike. If a key fills several slots, a row by
position binds by its length: with a value for each slot, every slot takes the value where its key
appears first; with fewer values, but one for each different key, it takes the value at the rank of
its key; with fewer still, the different key that comes after the last value is missing. -/
theorem aligned_rows_bind_alike {sql : String} {style : ParamStyle} {s : Statement}
    (compiles : compile sql style = .ok s) (index : Option Nat) :
    let keys := s.bindKeys
    let distinct := keys.eraseDups
    s.layout = ⟨keys.map keys.idxOf, keys.map distinct.idxOf, distinct.length⟩ ∧
      (∀ record : KeyedRecord, (∀ key ∈ keys, record.get? key ≠ none) →
        ∃ values : String → Value, (∀ key ∈ keys, record.get? key = some (values key)) ∧
          s.bindKeyed record index = .ok (keys.map values) ∧
          s.bindPositional (keys.map values) index = .ok (keys.map values) ∧
          s.bindPositional (distinct.map values) index = .ok (keys.map values)) ∧
      (¬ keys.Nodup → ∀ row : Row,
        (keys.length ≤ row.length →
          ∃ bound, s.bindPositional row index = .ok bound ∧ Fills bound row keys keys.idxOf) ∧
        (row.length < keys.length → distinct.length ≤ row.length →
          ∃ bound, s.bindPositional row index = .ok bound ∧
            Fills bound row keys distinct.idxOf) ∧
        (row.length < distinct.length →
          ∃ key, distinct[row.length]? = some key ∧ key ≠ "" ∧
            s.bindPositional row index = .error (.missingParameter key index))) := by
  intro keys distinct
  have same : distinct = firstAppearances keys := (Sql.firstAppearances_eq_eraseDups keys).symm
  clear_value distinct
  subst same
  refine ⟨layout_eq s, ?_, ?_⟩
  · intro record complete
    let values : String → Value := fun key => (record.get? key).getD default
    have held : ∀ key ∈ keys, record.get? key = some (values key) := by
      intro key member
      obtain ⟨value, found⟩ := Option.ne_none_iff_exists'.mp (complete key member)
      simp [values, found]
    exact ⟨values, held, bindKeyed_of_values held, bindPositional_slots values,
      bindPositional_ranks values⟩
  · intro repeated row
    refine ⟨?_, ?_, ?_⟩
    · intro whole
      refine ⟨_, bindPositional_by_slot repeated whole, fills_pick ?_⟩
      intro key member
      exact (List.idxOf_lt_length_of_mem member).trans_le whole
    · intro short enough
      refine ⟨_, bindPositional_by_rank repeated short enough, fills_pick ?_⟩
      intro key member
      exact (List.idxOf_lt_length_of_mem (mem_firstAppearances.mpr member)).trans_le enough
    · intro few
      have next := List.getElem?_eq_getElem few
      have member : (firstAppearances keys)[row.length] ∈ s.keys :=
        mem_bindKeys.mp (mem_firstAppearances.mp (List.getElem_mem few))
      exact ⟨_, next, Sql.key_ne_empty compiles member, bindPositional_too_short repeated next⟩

/-- Four slots for three keys: three values are enough, and two leave the last key without one. -/
theorem aligned_rows_bind_alike_repeated :
    let s : Statement := ⟨"x in (?, ?, ?, ?)", ["b", "a", "b", "c"], .qmark⟩
    compile "x in (:b, :a, :b, :c)" .qmark = .ok s ∧ ¬ s.bindKeys.Nodup ∧
      (∃ bound, s.bindPositional [.int 1, .int 2, .int 3] (some 7) = .ok bound ∧
        Fills bound [.int 1, .int 2, .int 3] s.bindKeys s.bindKeys.eraseDups.idxOf) ∧
      ∃ key, s.bindKeys.eraseDups[2]? = some key ∧ key ≠ "" ∧
        s.bindPositional [.int 1, .int 2] (some 7) = .error (.missingParameter key (some 7)) := by
  intro s
  have compiles : compile "x in (:b, :a, :b, :c)" .qmark = .ok s := rfl
  have repeated : ¬ s.bindKeys.Nodup := by decide
  obtain ⟨-, -, byLength⟩ := aligned_rows_bind_alike compiles (some 7)
  refine ⟨compiles, repeated, ?_, ?_⟩
  · exact (byLength repeated [.int 1, .int 2, .int 3]).2.1 (by decide) (by decide)
  · exact (byLength repeated [.int 1, .int 2]).2.2 (by decide)

end Statement

end SqlBind

import SqlBind.Binding
import SqlBind.Proofs.Template.Recompile

/-!
Owns: the layout of bind keys. One pass tells for each slot where its key appears first and which
rank the key has among the different ones. If all keys are different, each slot is its own first
one, and a positional row reaches the driver as it is.

Main statements: a layout holds the first appearances and the ranks of its keys
(`BindLayout.ofKeys_eq`), and rows bind unchanged to a statement without repeated keys
(`Statement.bindBatch_positional`).
-/

set_option autoImplicit false

namespace SqlBind

/-! ### Different keys -/

section Keys

variable {keys : List String} {key : String}

theorem mem_firstAppearances : key ∈ firstAppearances keys ↔ key ∈ keys := by
  rw [Sql.firstAppearances_eq_eraseDups, List.mem_eraseDups]

theorem firstAppearances_of_seen (seen : key ∈ keys) :
    firstAppearances (keys ++ [key]) = firstAppearances keys := by
  rw [Sql.firstAppearances_append, if_pos]
  exact List.contains_iff_mem.mpr (mem_firstAppearances.mpr seen)

theorem firstAppearances_of_fresh (fresh : key ∉ keys) :
    firstAppearances (keys ++ [key]) = firstAppearances keys ++ [key] := by
  rw [Sql.firstAppearances_append, if_neg]
  rw [List.contains_iff_mem, mem_firstAppearances]
  exact fresh

end Keys

theorem nodup_firstAppearances (keys : List String) : (firstAppearances keys).Nodup := by
  -- Keys are taken up at the end, so the induction is from there.
  induction keys using List.reverseRecOn with
  | nil => exact List.nodup_nil
  | append_singleton keys key inductionHypothesis =>
      by_cases seen : key ∈ keys
      · rw [firstAppearances_of_seen seen]
        exact inductionHypothesis
      · rw [firstAppearances_of_fresh seen]
        refine List.nodup_append.mpr ⟨inductionHypothesis, List.nodup_singleton key, ?_⟩
        intro other member last single same
        rw [same, List.mem_singleton.mp single] at member
        exact seen (mem_firstAppearances.mp member)

theorem firstAppearances_sublist (keys : List String) : (firstAppearances keys).Sublist keys := by
  induction keys using List.reverseRecOn with
  | nil => exact List.Sublist.slnil
  | append_singleton keys key inductionHypothesis =>
      by_cases seen : key ∈ keys
      · rw [firstAppearances_of_seen seen]
        exact inductionHypothesis.trans (List.sublist_append_left keys [key])
      · rw [firstAppearances_of_fresh seen]
        exact inductionHypothesis.append_right [key]

/-- A repeated key is found where it appears first. -/
theorem find?_firstAppearances (wanted : String → Bool) (keys : List String) :
    (firstAppearances keys).find? wanted = keys.find? wanted := by
  induction keys using List.reverseRecOn with
  | nil => rfl
  | append_singleton keys key inductionHypothesis =>
      rw [List.find?_append, ← inductionHypothesis]
      by_cases seen : key ∈ keys
      · rw [firstAppearances_of_seen seen]
        cases found : (firstAppearances keys).find? wanted with
        | some other => rfl
        | none =>
            -- The key was seen, and nothing that was seen is wanted.
            have passed := List.find?_eq_none.mp found key (mem_firstAppearances.mpr seen)
            simp [passed]
      · rw [firstAppearances_of_fresh seen, List.find?_append]

/-- There are fewer first appearances than keys exactly if some key is repeated. -/
theorem length_firstAppearances_lt_iff (keys : List String) :
    (firstAppearances keys).length < keys.length ↔ ¬ keys.Nodup := by
  have short := firstAppearances_sublist keys
  constructor
  · intro shorter distinct
    rw [Sql.firstAppearances_eq_eraseDups, Sql.eraseDups_of_nodup distinct] at shorter
    exact Nat.lt_irrefl _ shorter
  · intro repeated
    apply Nat.lt_of_le_of_ne short.length_le
    intro same
    apply repeated
    rw [← short.eq_of_length same]
    exact nodup_firstAppearances keys

namespace BindLayout

/-! ### Layouts -/

/-- The slot and the rank of a key's first appearance among the keys of earlier slots. -/
def entry (earlier : List String) (key : String) : Option (Nat × Nat) :=
  if key ∈ earlier then some (earlier.idxOf key, (firstAppearances earlier).idxOf key) else none

/-- The earlier keys are known with their entries, and no other keys. -/
def Recorded (earlier : List String) (seen : List (String × Nat × Nat)) : Prop :=
  ∀ key, seen.lookup key = entry earlier key

section Entries

variable {earlier : List String} {seen : List (String × Nat × Nat)} {key other : String}

theorem entry_of_mem (member : key ∈ earlier) :
    entry earlier key = some (earlier.idxOf key, (firstAppearances earlier).idxOf key) :=
  if_pos member

/-- Later keys change neither the slot nor the rank of an earlier one. -/
theorem entry_append_of_mem (member : key ∈ earlier) (later : List String) :
    entry (earlier ++ later) key = entry earlier key := by
  have ranked : key ∈ earlier.eraseDups := List.mem_eraseDups.mpr member
  rw [entry_of_mem member, entry_of_mem (List.mem_append_left later member),
    List.idxOf_append_of_mem member, Sql.firstAppearances_eq_eraseDups,
    Sql.firstAppearances_eq_eraseDups, List.eraseDups_append, List.idxOf_append_of_mem ranked]

private theorem entry_append_of_ne (different : other ≠ key) :
    entry (earlier ++ [key]) other = entry earlier other := by
  by_cases member : other ∈ earlier
  · exact entry_append_of_mem member [key]
  · rw [entry, entry, if_neg member, if_neg (by simp [member, different])]

private theorem entry_of_fresh (fresh : key ∉ earlier) :
    entry (earlier ++ [key]) key = some (earlier.length, (firstAppearances earlier).length) := by
  have unranked : key ∉ firstAppearances earlier := fun member =>
    fresh (mem_firstAppearances.mp member)
  rw [entry_of_mem (by simp), firstAppearances_of_fresh fresh, List.idxOf_append_of_notMem fresh,
    List.idxOf_append_of_notMem unranked, List.idxOf_cons_self, Nat.add_zero, Nat.add_zero]

/-- A key that is known already changes nothing. -/
theorem Recorded.again (recorded : Recorded earlier seen) (known : key ∈ earlier) :
    Recorded (earlier ++ [key]) seen := by
  intro other
  rw [recorded other]
  by_cases same : other = key
  · rw [same, entry_append_of_mem known]
  · rw [entry_append_of_ne same]

/-- A key that is new is entered with the next slot and the next rank. -/
theorem Recorded.fresh (recorded : Recorded earlier seen) (new : key ∉ earlier) :
    Recorded (earlier ++ [key])
      ((key, earlier.length, (firstAppearances earlier).length) :: seen) := by
  intro other
  by_cases same : other = key
  · rw [same, List.lookup_cons_self, entry_of_fresh new]
  · rw [List.lookup_cons, beq_false_of_ne same, entry_append_of_ne same]
    exact recorded other

/-- A layout has the first slots and the ranks of the keys. -/
theorem layOut_recorded (recorded : Recorded earlier seen) (keys : List String) :
    layOut earlier.length (firstAppearances earlier).length seen keys =
      { first := keys.map (earlier ++ keys).idxOf
        distinct := keys.map (firstAppearances (earlier ++ keys)).idxOf
        distinctCount := (firstAppearances (earlier ++ keys)).length } := by
  induction keys generalizing earlier seen with
  | nil => simp [layOut]
  | cons key rest inductionHypothesis =>
      have whole : earlier ++ key :: rest = earlier ++ [key] ++ rest := by simp
      -- The slots after this one leave its entry as it is.
      have own := entry_append_of_mem (show key ∈ earlier ++ [key] by simp) rest
      rw [entry_of_mem (by simp)] at own
      rw [layOut, recorded key, whole]
      by_cases known : key ∈ earlier
      · have later := inductionHypothesis (recorded.again known)
        rw [firstAppearances_of_seen known, List.length_append, List.length_singleton] at later
        rw [entry_append_of_mem known] at own
        simp only [← own, later, List.map_cons]
      · have later := inductionHypothesis (recorded.fresh known)
        rw [firstAppearances_of_fresh known, List.length_append, List.length_append,
          List.length_singleton] at later
        obtain ⟨place, rank⟩ := Prod.mk.inj (Option.some.inj (own.trans (entry_of_fresh known)))
        have unseen : entry earlier key = none := if_neg known
        simp only [unseen, later, place, rank, List.map_cons]

end Entries

/-- The layout lists, for every slot, where its key appeared first, by slot and by rank. -/
theorem ofKeys_eq (keys : List String) :
    ofKeys keys =
      { first := keys.map keys.idxOf
        distinct := keys.map (firstAppearances keys).idxOf
        distinctCount := (firstAppearances keys).length } := by
  have nothing : Recorded [] [] := fun key => rfl
  exact layOut_recorded nothing keys

theorem hasDuplicates_ofKeys (keys : List String) :
    (ofKeys keys).hasDuplicates = true ↔ ¬ keys.Nodup := by
  rw [← length_firstAppearances_lt_iff, hasDuplicates, ofKeys_eq, decide_eq_true_eq,
    List.length_map]

theorem hasDuplicates_of_distinct {keys : List String} (distinct : keys.Nodup) :
    (ofKeys keys).hasDuplicates = false := by
  rw [← Bool.not_eq_true, hasDuplicates_ofKeys, not_not]
  exact distinct

end BindLayout

namespace Statement

variable {s : Statement}

theorem bindKeys_of_distinct (distinct : s.keys.Nodup) : s.bindKeys = s.keys := by
  unfold bindKeys
  split
  · rw [Sql.firstAppearances_eq_eraseDups, Sql.eraseDups_of_nodup distinct]
  · rfl

/-- No slot shares its key with another. -/
theorem bindPositional_of_single (single : s.bindKeys.Nodup) (row : Row) (index : Option Nat) :
    s.bindPositional row index = .ok row := by
  have apart : s.layout.hasDuplicates = false := BindLayout.hasDuplicates_of_distinct single
  simp [bindPositional, apart]

/-- Without repeated keys a row is passed on as it is. -/
theorem bindPositional_of_distinct (distinct : s.keys.Nodup) (row : Row) (index : Option Nat) :
    s.bindPositional row index = .ok row := by
  apply bindPositional_of_single
  rw [bindKeys_of_distinct distinct]
  exact distinct

theorem bindEach_same {one : Row → Option Nat → Except DbError Row}
    (same : ∀ row index, one row index = .ok row) (rows : List Row) (index : Nat) :
    bindEach one index rows = .ok rows := by
  induction rows generalizing index with
  | nil => rfl
  | cons row rest inductionHypothesis =>
      simp only [bindEach, same, inductionHypothesis]
      rfl

theorem bindBatch_positional (distinct : s.keys.Nodup) (rows : List Row) :
    s.bindBatch (.positional rows) = .ok rows :=
  bindEach_same (bindPositional_of_distinct distinct) rows 0

end Statement

end SqlBind

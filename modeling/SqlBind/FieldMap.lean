/-!
Owns: finite maps from text to values, kept as fields in ascending order of their names.

Main statements: a field that was just put is found (`get?_insert_self`), the others are as they
were (`get?_insert_of_ne`), and the names of a map are strictly ascending (`FieldMap.ascending`).
-/

set_option autoImplicit false

namespace SqlBind

namespace Fields

variable {α : Type}

/-- `fields` with `value` under `name`, in place of any value there. -/
def insert (name : String) (value : α) : List (String × α) → List (String × α)
  | [] => [(name, value)]
  | (other, held) :: rest =>
    if name < other then (name, value) :: (other, held) :: rest
    else if name = other then (name, value) :: rest
    else (other, held) :: insert name value rest

/-- The fields of a list of assignments, the last one to a name deciding. -/
def ofList (assignments : List (String × α)) : List (String × α) :=
  assignments.foldl (fun fields field => insert field.1 field.2 fields) []

/-- The names in order, each smaller than all that follow. -/
def Ascending (fields : List (String × α)) : Prop :=
  fields.Pairwise fun earlier later => earlier.1 < later.1

theorem name_mem_insert {name : String} {value : α} {fields : List (String × α)}
    {field : String × α} (member : field ∈ insert name value fields) :
    field.1 = name ∨ field ∈ fields := by
  induction fields with
  | nil => simp_all [insert]
  | cons head rest inductionHypothesis =>
    obtain ⟨other, held⟩ := head
    simp only [insert] at member
    split at member
    · simp only [List.mem_cons] at member ⊢
      rcases member with rfl | rfl | inRest <;> simp_all
    · split at member
      · simp only [List.mem_cons] at member ⊢
        rcases member with rfl | inRest <;> simp_all
      · simp only [List.mem_cons] at member ⊢
        rcases member with rfl | inRest
        · simp
        · rcases inductionHypothesis inRest with named | inFields <;> simp_all

/-- Inserting keeps the names in order and apart. -/
theorem ascending_insert (name : String) (value : α) {fields : List (String × α)}
    (ordered : Ascending fields) : Ascending (insert name value fields) := by
  induction fields with
  | nil => simp [insert, Ascending]
  | cons head rest inductionHypothesis =>
    obtain ⟨other, held⟩ := head
    simp only [Ascending, List.pairwise_cons] at ordered
    obtain ⟨below, restOrdered⟩ := ordered
    simp only [insert]
    split
    · rename_i less
      simp only [Ascending, List.pairwise_cons, List.mem_cons]
      refine ⟨?_, below, restOrdered⟩
      rintro field (rfl | inRest)
      · exact less
      · exact String.lt_trans less (below field inRest)
    · split
      · rename_i same
        subst same
        simp only [Ascending, List.pairwise_cons]
        exact ⟨below, restOrdered⟩
      · rename_i notLess different
        have greater : other < name := by
          by_cases less : other < name
          · exact less
          · exact absurd (String.le_antisymm (String.not_lt.mp less) (String.not_lt.mp notLess))
              different
        simp only [Ascending, List.pairwise_cons]
        refine ⟨fun field member => ?_, inductionHypothesis restOrdered⟩
        rcases name_mem_insert member with named | inRest
        · rw [named]; exact greater
        · exact below field inRest

theorem lookup_insert_self (name : String) (value : α) (fields : List (String × α)) :
    (insert name value fields).lookup name = some value := by
  induction fields with
  | nil => simp [insert]
  | cons head rest inductionHypothesis =>
    obtain ⟨other, held⟩ := head
    simp only [insert]
    split
    · simp
    · split
      · simp
      · rename_i different
        rw [List.lookup_cons, beq_false_of_ne different]
        exact inductionHypothesis

/-- Inserting under a name changes nothing under any other. -/
theorem lookup_insert_of_ne {name other : String} (different : other ≠ name) (value : α)
    (fields : List (String × α)) :
    (insert name value fields).lookup other = fields.lookup other := by
  induction fields with
  | nil => simp [insert, List.lookup_cons, beq_false_of_ne different]
  | cons head rest inductionHypothesis =>
    obtain ⟨held, kept⟩ := head
    simp only [insert]
    split
    · rw [List.lookup_cons, beq_false_of_ne different]
    · split
      · rename_i same
        subst same
        simp [List.lookup_cons, beq_false_of_ne different]
      · rw [List.lookup_cons, List.lookup_cons, inductionHypothesis]

theorem ascending_foldl_insert (assignments : List (String × α)) {fields : List (String × α)}
    (ordered : Ascending fields) :
    Ascending (assignments.foldl (fun held field => insert field.1 field.2 held) fields) := by
  induction assignments generalizing fields with
  | nil => exact ordered
  | cons head rest inductionHypothesis =>
    exact inductionHypothesis (ascending_insert head.1 head.2 ordered)

end Fields

/-- A finite map from text, its fields in strictly ascending order of their names. -/
structure FieldMap (α : Type) where
  fields : List (String × α)
  ascending : Fields.Ascending fields

namespace FieldMap

variable {α : Type}

def empty : FieldMap α := ⟨[], List.Pairwise.nil⟩

instance : Inhabited (FieldMap α) := ⟨empty⟩

/-- The map that also takes `name` to `value`. -/
def insert (m : FieldMap α) (name : String) (value : α) : FieldMap α :=
  ⟨Fields.insert name value m.fields, Fields.ascending_insert name value m.ascending⟩

/-- The map of a list of assignments, the last one to a name deciding. -/
def ofList (assignments : List (String × α)) : FieldMap α :=
  ⟨Fields.ofList assignments, Fields.ascending_foldl_insert assignments List.Pairwise.nil⟩

def get? (m : FieldMap α) (name : String) : Option α := m.fields.lookup name

def keys (m : FieldMap α) : List String := m.fields.map Prod.fst

def values (m : FieldMap α) : List α := m.fields.map Prod.snd

def size (m : FieldMap α) : Nat := m.fields.length

def isEmpty (m : FieldMap α) : Bool := m.fields.isEmpty

@[simp] theorem get?_insert_self (m : FieldMap α) (name : String) (value : α) :
    (m.insert name value).get? name = some value :=
  Fields.lookup_insert_self name value m.fields

theorem get?_insert_of_ne (m : FieldMap α) {name other : String} (different : other ≠ name)
    (value : α) : (m.insert name value).get? other = m.get? other :=
  Fields.lookup_insert_of_ne different value m.fields

end FieldMap

end SqlBind

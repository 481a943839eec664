import SqlBind.Cli.Arguments
import Mathlib.Data.List.Basic

/-!
Owns: what command lines mean, whatever their order and spelling. If the names of a command cannot
be taken for each other, one step over an option takes its value from the same argument or from the
next, and nothing else of it matters to the rest.

Main statement: a request to load records has for each option the value that was given last
(`load_takes_last_values`).
-/

set_option autoImplicit false

namespace SqlBind.Cli

/-! ### Values of options -/

/-- Where the value of an option stands. -/
inductive Spelling where
  /-- In the next argument. -/
  | apart
  /-- In the same argument, after an equals sign. -/
  | attached
deriving DecidableEq, Repr, Inhabited

def Spelling.words (name value : String) : Spelling → List String
  | apart => [name, value]
  | attached => [name ++ "=" ++ value]

namespace Grammar

variable {δ : Type} {grammar : Grammar δ}

def names (grammar : Grammar δ) : List String :=
  grammar.marks.map Prod.fst ++ grammar.options.map ValueOption.name

/-- No name is taken for another one, for a value or for a request for help. -/
structure Clear (grammar : Grammar δ) : Prop where
  dashed : ∀ name ∈ grammar.names, ['-', '-'] <+: name.toList
  unequal : ∀ name ∈ grammar.names, '=' ∉ name.toList
  distinct : grammar.names.Nodup
  helpless : "--help" ∉ grammar.names

/-! ### Arguments and names -/

/-- A text that goes on after a beginning is made of the two. -/
theorem after?_eq_some_iff {beginning text rest : List Char} :
    after? beginning text = some rest ↔ text = beginning ++ rest := by
  induction beginning generalizing text with
  | nil => exact ⟨fun same => Option.some.inj same, congrArg some⟩
  | cons c beginning inductionHypothesis =>
      rcases text with _ | ⟨d, text⟩
      · simp [after?]
      · by_cases same : c = d
        · subst same
          rw [after?, if_pos rfl, inductionHypothesis, List.cons_append, List.cons.injEq]
          exact (and_iff_right rfl).symm
        · simp [after?, same, Ne.symm same]

private theorem toList_attached (name value : String) :
    (name ++ "=" ++ value).toList = name.toList ++ '=' :: value.toList := by
  simp

/-- The name in an argument with an equals sign is what stands before the first one. -/
theorem takeWhile_name {name : List Char} (unequal : '=' ∉ name) (value : List Char) :
    (name ++ '=' :: value).takeWhile (· ≠ '=') = name := by
  have before : ∀ c ∈ name, decide (c ≠ '=') = true := by
    rintro c member
    exact decide_eq_true fun equals => unequal (equals ▸ member)
  rw [List.takeWhile_append_of_pos before, List.takeWhile_cons_of_neg (by simp), List.append_nil]

private theorem attachedValue?_self (name value : String) :
    attachedValue? name (name ++ "=" ++ value) = some value := by
  have rest : after? (name.toList ++ ['=']) (name ++ "=" ++ value).toList = some value.toList :=
    after?_eq_some_iff.mpr (by simp)
  rw [attachedValue?, rest, Option.map_some, String.ofList_toList]

private theorem attachedValue?_other {name other : String} (unequal : '=' ∉ name.toList)
    (otherUnequal : '=' ∉ other.toList) (different : other ≠ name) (value : String) :
    attachedValue? other (name ++ "=" ++ value) = none := by
  rcases found : after? (other.toList ++ ['=']) (name ++ "=" ++ value).toList with _ | rest
  · rw [attachedValue?, found, Option.map_none]
  · have split := after?_eq_some_iff.mp found
    rw [toList_attached, List.append_assoc, List.singleton_append] at split
    have same := congrArg (List.takeWhile (· ≠ '=')) split
    rw [takeWhile_name unequal, takeWhile_name otherUnequal] at same
    exact absurd (String.toList_inj.mp same).symm different

/-- An argument without two dashes before it gives no option a value. -/
theorem attachedValue?_operand {name word : String} (dashed : ['-', '-'] <+: name.toList)
    (operand : ¬ ['-', '-'] <+: word.toList) : attachedValue? name word = none := by
  rcases found : after? (name.toList ++ ['=']) word.toList with _ | rest
  · rw [attachedValue?, found, Option.map_none]
  · have split := after?_eq_some_iff.mp found
    rw [List.append_assoc] at split
    exact absurd (split ▸ dashed.trans (List.prefix_append _ _)) operand

/-! ### One argument -/

theorem asksForHelp_eq_false {word : String} (short : word ≠ "-h") (long : word ≠ "--help") :
    asksForHelp word = false := by
  simp [asksForHelp, short, long]

theorem mem_names_of_option {option : ValueOption δ} (member : option ∈ grammar.options) :
    option.name ∈ grammar.names :=
  List.mem_append_right _ (List.mem_map_of_mem member)

/-- An argument that is no name is no mark. -/
theorem lookup_marks_eq_none {word : String} (unnamed : word ∉ grammar.marks.map Prod.fst) :
    grammar.marks.lookup word = none := by
  apply List.lookup_eq_none_iff.mpr
  intro mark member
  have different : word ≠ mark.1 := by
    rintro rfl
    exact unnamed (List.mem_map_of_mem member)
  simpa using different

private theorem find?_options_eq_none {word : String}
    (unnamed : word ∉ grammar.options.map ValueOption.name) :
    (grammar.options.find? fun option => option.name = word) = none := by
  apply List.find?_eq_none.mpr
  intro option member same
  exact unnamed (of_decide_eq_true same ▸ List.mem_map_of_mem member)

namespace Clear

private theorem asksForHelp_name (clear : grammar.Clear) {name : String}
    (named : name ∈ grammar.names) : asksForHelp name = false := by
  refine asksForHelp_eq_false ?_ ?_
  · rintro rfl
    exact absurd (clear.dashed _ named) (by decide +kernel)
  · rintro rfl
    exact clear.helpless named

private theorem not_mem_names (clear : grammar.Clear) {word : String} (equals : '=' ∈ word.toList) :
    word ∉ grammar.names := fun named => clear.unequal word named equals

/-- The options before an option have other names. -/
theorem exists_split (clear : grammar.Clear) {option : ValueOption δ}
    (member : option ∈ grammar.options) :
    ∃ earlier later, grammar.options = earlier ++ option :: later ∧
      ∀ other ∈ earlier, other.name ≠ option.name := by
  obtain ⟨earlier, later, split⟩ := List.append_of_mem member
  have distinct := (List.nodup_append.mp clear.distinct).2.1
  rw [split, List.map_append, List.map_cons] at distinct
  refine ⟨earlier, later, split, fun other before => ?_⟩
  exact (List.nodup_append.mp distinct).2.2 _ (List.mem_map_of_mem before) _ List.mem_cons_self

private theorem find?_name (clear : grammar.Clear) {option : ValueOption δ}
    (member : option ∈ grammar.options) :
    (grammar.options.find? fun other => other.name = option.name) = some option := by
  obtain ⟨earlier, later, split, others⟩ := clear.exists_split member
  refine List.find?_eq_some_iff_append.mpr ⟨by simp, earlier, later, split, ?_⟩
  intro other before
  simpa using others other before

private theorem attached?_self (clear : grammar.Clear) {option : ValueOption δ}
    (member : option ∈ grammar.options) (value : String) :
    attached? grammar.options (option.name ++ "=" ++ value) = some (option, value) := by
  obtain ⟨earlier, later, split, others⟩ := clear.exists_split member
  have unequal : ∀ other ∈ grammar.options, '=' ∉ other.name.toList := fun other among =>
    clear.unequal _ (mem_names_of_option among)
  refine List.findSome?_eq_some_iff.mpr ⟨earlier, option, later, split, ?_, ?_⟩
  · rw [attachedValue?_self, Option.map_some]
  · intro other before
    have among : other ∈ grammar.options := split ▸ List.mem_append_left _ before
    rw [attachedValue?_other (unequal option member) (unequal other among) (others other before),
      Option.map_none]

/-- An option takes its value from either place, whatever the value looks like. -/
theorem read_option (clear : grammar.Clear) {option : ValueOption δ}
    (member : option ∈ grammar.options) (spelling : Spelling) (value : String) (draft : δ)
    (rest : List String) :
    grammar.read draft (spelling.words option.name value ++ rest) =
      (do grammar.read (← option.enter value draft) rest) := by
  have named := mem_names_of_option member
  cases spelling with
  | apart =>
      have unmarked : option.name ∉ grammar.marks.map Prod.fst := fun marked =>
        (List.nodup_append.mp clear.distinct).2.2 _ marked _ (List.mem_map_of_mem member) rfl
      simp only [Spelling.words, List.cons_append, List.nil_append]
      rw [read, clear.asksForHelp_name named, if_neg (by simp), lookup_marks_eq_none unmarked,
        clear.find?_name member]
  | attached =>
      have equals : '=' ∈ (option.name ++ "=" ++ value).toList := by simp
      have unnamed := clear.not_mem_names equals
      have noHelp : asksForHelp (option.name ++ "=" ++ value) = false := by
        refine asksForHelp_eq_false ?_ ?_ <;>
        · intro same
          rw [same] at equals
          exact absurd equals (by decide +kernel)
      simp only [Spelling.words, List.cons_append, List.nil_append]
      rw [read, noHelp, if_neg (by simp),
        lookup_marks_eq_none fun marked => unnamed (List.mem_append_left _ marked),
        find?_options_eq_none fun optional => unnamed (List.mem_append_right _ optional),
        clear.attached?_self member]

/-- An argument that does not begin with two dashes is an operand. -/
theorem read_operand (clear : grammar.Clear) {word : String} (noHelp : word ≠ "-h")
    (operand : ¬ ['-', '-'] <+: word.toList) (draft : δ) (rest : List String) :
    grammar.read draft (word :: rest) =
      (do grammar.read (← grammar.operand word draft) rest) := by
  have unnamed : word ∉ grammar.names := fun named => operand (clear.dashed word named)
  have short : asksForHelp word = false := by
    refine asksForHelp_eq_false noHelp ?_
    rintro rfl
    exact operand (by decide +kernel)
  have unattached : attached? grammar.options word = none := by
    apply List.findSome?_eq_none_iff.mpr
    intro option member
    rw [attachedValue?_operand (clear.dashed _ (mem_names_of_option member)) operand,
      Option.map_none]
  rw [read, short, if_neg (by simp),
    lookup_marks_eq_none fun marked => unnamed (List.mem_append_left _ marked),
    find?_options_eq_none fun optional => unnamed (List.mem_append_right _ optional), unattached]

end Clear

end Grammar

/-! ### Requests to load -/

/-- A text of decimal digits and the number it stands for. -/
structure Decimal (text : String) (number : Nat) : Prop where
  nonempty : text.toList ≠ []
  digits : ∀ c ∈ text.toList, c.isDigit = true
  value : Nat.ofDigitChars 10 text.toList 0 = number

private theorem decimal_toString (number : Nat) : Decimal (toString number) number := by
  have text : (toString number).toList = Nat.toDigits 10 number := by
    rw [Nat.toString_eq_ofList_toDigits, String.toList_ofList]
  refine ⟨?_, ?_, ?_⟩ <;> rw [text]
  · exact Nat.toDigits_ne_nil
  · exact fun c member => Nat.isDigit_of_mem_toDigits (by decide) (by decide) member
  · exact Nat.ofDigitChars_toDigits (by decide) (by decide)

/-- A decimal text is read as its number, if that fits into 64 bits. -/
theorem Decimal.count {text : String} {number : Nat} (decimal : Decimal text number)
    (fits : number < Nat.pow 2 64) : count? text = some number := by
  obtain ⟨nonempty, digits, rfl⟩ := decimal
  have filled : text.toList.isEmpty = false := List.isEmpty_eq_false_iff.mpr nonempty
  have all : text.toList.all Char.isDigit = true := List.all_eq_true.mpr digits
  unfold count?
  split
  · rename_i later signed
    have plus : '+'.isDigit = true := digits '+' (signed ▸ List.mem_cons_self)
    exact absurd plus (by decide)
  · simp only [filled, all]
    exact if_pos fits

/-- The arguments of one option of `load`. -/
inductive LoadGroup where
  | config (spelling : Spelling) (path : String)
  | database (spelling : Spelling) (url : String)
  | chunkSize (spelling : Spelling) (text : String) (size : Nat)
  | sql (spelling : Spelling) (text : String)
  | isolate
deriving DecidableEq, Repr, Inhabited

namespace LoadGroup

def words : LoadGroup → List String
  | config spelling path => spelling.words "--config" path
  | database spelling url => spelling.words "--database" url
  | chunkSize spelling text _ => spelling.words "--chunk-size" text
  | sql spelling text => spelling.words "--sql" text
  | isolate => ["--isolate"]

/-- The size of chunks is a number of 64 bits. -/
def WellFormed : LoadGroup → Prop
  | chunkSize _ text size => Decimal text size ∧ size < Nat.pow 2 64
  | _ => True

def config? : LoadGroup → Option String
  | config _ path => some path
  | _ => none

def database? : LoadGroup → Option String
  | database _ url => some url
  | _ => none

def chunkSize? : LoadGroup → Option Nat
  | chunkSize _ _ size => some size
  | _ => none

def sql? : LoadGroup → Option String
  | sql _ text => some text
  | _ => none

def enter (draft : LoadDraft) : LoadGroup → LoadDraft
  | config _ path => { draft with config := path }
  | database _ url => { draft with database := some url }
  | chunkSize _ _ size => { draft with chunkSize := some size }
  | sql _ text => { draft with sql := some text }
  | isolate => { draft with isolate := true }

end LoadGroup

/-- The value that was given last. -/
def lastOf {α β : Type} (value : α → Option β) (items : List α) : Option β :=
  (items.filterMap value).getLast?

/-- The arguments of `load` are clear: no option is taken for another or for its value. -/
theorem clear_load : LoadDraft.grammar.Clear where
  dashed := by decide +kernel
  unequal := by decide +kernel
  distinct := by decide +kernel
  helpless := by decide +kernel

private theorem read_loadGroup {group : LoadGroup} (wellFormed : group.WellFormed)
    (draft : LoadDraft) (rest : List String) :
    LoadDraft.grammar.read draft (group.words ++ rest) =
      LoadDraft.grammar.read (group.enter draft) rest := by
  cases group with
  | config spelling path => exact clear_load.read_option (.head _) spelling path draft rest
  | database spelling url =>
      exact clear_load.read_option (.tail _ (.head _)) spelling url draft rest
  | chunkSize spelling text size =>
      have step := clear_load.read_option (.tail _ (.tail _ (.head _))) spelling text draft rest
      dsimp only at step
      rw [wellFormed.1.count wellFormed.2] at step
      exact step
  | sql spelling text =>
      exact clear_load.read_option (.tail _ (.tail _ (.tail _ (.head _)))) spelling text draft rest
  | isolate => rfl

private theorem read_loadGroups {groups : List LoadGroup}
    (wellFormed : ∀ group ∈ groups, group.WellFormed) (draft : LoadDraft) (rest : List String) :
    LoadDraft.grammar.read draft (groups.flatMap LoadGroup.words ++ rest) =
      LoadDraft.grammar.read (groups.foldl LoadGroup.enter draft) rest := by
  induction groups generalizing draft with
  | nil => rfl
  | cons group groups inductionHypothesis =>
      obtain ⟨first, later⟩ := List.forall_mem_cons.mp wellFormed
      rw [List.flatMap_cons, List.append_assoc, read_loadGroup first, inductionHypothesis later]
      rfl

private theorem read_file {file : String} (noHelp : file ≠ "-h")
    (operand : ¬ ['-', '-'] <+: file.toList) {draft : LoadDraft} (single : draft.file = none)
    (rest : List String) :
    LoadDraft.grammar.read draft (file :: rest) =
      LoadDraft.grammar.read { draft with file := some file } rest := by
  have permitted : Grammar.refuseOption file = .ok () := by
    rcases dashes : Grammar.after? ['-', '-'] file.toList with _ | later
    · rw [Grammar.refuseOption, dashes]
      rfl
    · exact absurd ⟨later, (Grammar.after?_eq_some_iff.mp dashes).symm⟩ operand
  rw [clear_load.read_operand noHelp operand]
  simp only [LoadDraft.grammar]
  rw [permitted, single]
  rfl

/-! ### The last value of each option -/

private theorem lastOf_cons {α β : Type} (value : α → Option β) (item : α) (items : List α) :
    lastOf value (item :: items) = (lastOf value items).or (value item) := by
  rw [lastOf, lastOf, List.filterMap_cons]
  rcases value item with _ | first
  · exact Option.or_none.symm
  · rw [List.getLast?_cons, Option.or_some]

/-- A field that every option with a value sets to it has the last of the values in the end. -/
theorem foldl_enter {β : Type} (field : LoadDraft → Option β) (value : LoadGroup → Option β)
    (sets : ∀ draft group, field (LoadGroup.enter draft group) = (value group).or (field draft))
    (groups : List LoadGroup) (draft : LoadDraft) :
    field (groups.foldl LoadGroup.enter draft) = (lastOf value groups).or (field draft) := by
  induction groups generalizing draft with
  | nil => rfl
  | cons group groups inductionHypothesis =>
      rw [List.foldl_cons, inductionHypothesis, sets, lastOf_cons, Option.or_assoc]

/-- The operand can be entered after all options as well. -/
theorem foldl_enter_file (groups : List LoadGroup) (draft : LoadDraft) (file : Option String) :
    groups.foldl LoadGroup.enter { draft with file := file } =
      { groups.foldl LoadGroup.enter draft with file := file } := by
  induction groups generalizing draft with
  | nil => rfl
  | cons group groups inductionHypothesis =>
      have commutes : LoadGroup.enter { draft with file := file } group =
          { LoadGroup.enter draft group with file := file } := by
        cases group <;> rfl
      rw [List.foldl_cons, commutes, inductionHypothesis, List.foldl_cons]

private theorem foldl_enter_isolate (groups : List LoadGroup) (draft : LoadDraft) :
    (groups.foldl LoadGroup.enter draft).isolate =
      (draft.isolate || decide (.isolate ∈ groups)) := by
  induction groups generalizing draft with
  | nil => simp
  | cons group groups inductionHypothesis =>
      rw [List.foldl_cons, inductionHypothesis]
      cases group <;> simp [LoadGroup.enter]

/-- The draft after all options and the operand. -/
theorem read_load {before after : List LoadGroup} {file : String}
    (wellFormed : ∀ group ∈ before ++ after, group.WellFormed) (noHelp : file ≠ "-h")
    (operand : ¬ ['-', '-'] <+: file.toList) :
    LoadDraft.grammar.read {}
        (before.flatMap LoadGroup.words ++ file :: after.flatMap LoadGroup.words) =
      .ok (some { (before ++ after).foldl LoadGroup.enter {} with file := some file }) := by
  obtain ⟨first, second⟩ := List.forall_mem_append.mp wellFormed
  have single : (before.foldl LoadGroup.enter {}).file = none :=
    congrArg LoadDraft.file (foldl_enter_file before {} none)
  have ends : ∀ draft, LoadDraft.grammar.read draft [] = .ok (some draft) := fun _ => rfl
  rw [read_loadGroups first, read_file noHelp operand single,
    ← List.append_nil (after.flatMap LoadGroup.words), read_loadGroups second, foldl_enter_file,
    ends, List.foldl_append]

/-- The arguments of `load` mean the same in any order: each option has the value that was given
last, in whichever spelling, and one that looks like another argument is a value all the same. -/
theorem load_takes_last_values {before after : List LoadGroup} {file sql : String}
    (wellFormed : ∀ group ∈ before ++ after, group.WellFormed) (noHelp : file ≠ "-h")
    (operand : ¬ ['-', '-'] <+: file.toList)
    (given : lastOf LoadGroup.sql? (before ++ after) = some sql) :
    Command.parse ("load" ::
        (before.flatMap LoadGroup.words ++ file :: after.flatMap LoadGroup.words)) =
      .ok (.load
        { config := (lastOf LoadGroup.config? (before ++ after)).getD "dbbind.toml"
          database := lastOf LoadGroup.database? (before ++ after)
          chunkSize := lastOf LoadGroup.chunkSize? (before ++ after)
          isolate := decide (.isolate ∈ before ++ after)
          sql := sql
          file := file }) := by
  have config := foldl_enter (fun draft => some draft.config) LoadGroup.config?
    (by rintro draft ⟨⟩ <;> rfl) (before ++ after) {}
  have database := foldl_enter LoadDraft.database LoadGroup.database?
    (by rintro draft ⟨⟩ <;> rfl) (before ++ after) {}
  have chunkSize := foldl_enter LoadDraft.chunkSize LoadGroup.chunkSize?
    (by rintro draft ⟨⟩ <;> rfl) (before ++ after) {}
  have statement := foldl_enter LoadDraft.sql LoadGroup.sql?
    (by rintro draft ⟨⟩ <;> rfl) (before ++ after) {}
  have isolate := foldl_enter_isolate (before ++ after) {}
  rw [Option.or_some, Option.some.injEq] at config
  rw [Option.or_none] at database chunkSize
  rw [given] at statement
  have parsed : ∀ rest, Command.parse ("load" :: rest) =
      (do Command.ofDraft .load LoadDraft.finish (← LoadDraft.grammar.read {} rest)) := fun _ => rfl
  rw [parsed, read_load wellFormed noHelp operand]
  change LoadDraft.finish _ = _
  rw [LoadDraft.finish]
  simp only [statement, config, database, chunkSize, isolate]
  rfl

/-- Values that look like an option and like a request for help, and a file that looks like an
option. -/
theorem load_takes_last_values_disguised :
    let before : List LoadGroup :=
      [.sql .attached "a = :b", .chunkSize .apart "0500" 500, .config .apart "--sql", .isolate]
    let after : List LoadGroup := [.sql .apart "-h", .chunkSize .attached "7" 7]
    (∀ group ∈ before ++ after, group.WellFormed) ∧ "-x" ≠ "-h" ∧
      ¬ ['-', '-'] <+: "-x".toList ∧ lastOf LoadGroup.sql? (before ++ after) = some "-h" ∧
      Command.parse ["load", "--sql=a = :b", "--chunk-size", "0500", "--config", "--sql",
          "--isolate", "-x", "--sql", "-h", "--chunk-size=7"] =
        .ok (.load ⟨"--sql", none, some 7, true, "-h", "-x"⟩) := by
  intro before after
  have padded : Decimal "0500" 500 :=
    ⟨by decide +kernel, List.all_eq_true.mp (by decide +kernel), by decide +kernel⟩
  have wellFormed : ∀ group ∈ before ++ after, group.WellFormed := by
    simp only [before, after, List.cons_append, List.nil_append, List.forall_mem_cons]
    exact ⟨trivial, ⟨padded, by decide⟩, trivial, trivial, trivial,
      ⟨decimal_toString 7, by decide⟩, by simp⟩
  have operand : ¬ ['-', '-'] <+: "-x".toList := by decide +kernel
  have given : lastOf LoadGroup.sql? (before ++ after) = some "-h" := rfl
  have different : "-x" ≠ "-h" := by decide
  exact ⟨wellFormed, different, operand, given,
    load_takes_last_values wellFormed different operand given⟩

end SqlBind.Cli

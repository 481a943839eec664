import SqlBind.Proofs.Binding.Layout
import SqlBind.Proofs.Compiler.Sharing

/-!
Owns: which statements a compiler stores. As long as its clock has not come round, the stamps of the
entries keep the order of their last uses, whatever order the store lists them in, so that what is
evicted is what was not used for the longest time. A call takes two steps of the clock at most.

Main statements: after less than 2 ^ 63 calls a store of capacity `n` holds the `n` texts that were
compiled last since it was cleared, and exactly these are answered from it
(`store_keeps_most_recent`). Less than 2 ^ 64 calls can be too many
(`recent_text_lost_as_clock_comes_round`).
-/

set_option autoImplicit false

namespace SqlBind

inductive CompilerCall where
  | compile (sql : String)
  | clearCache
deriving DecidableEq, Repr, Inhabited

namespace CompilerCall

def apply (c : Compiler) : CompilerCall → Compiler
  | compile sql => (c.compile sql).2
  | clearCache => c.clearCache

/-- The text that the call compiles, if it compiles. -/
def compiled? (style : ParamStyle) : CompilerCall → Option String
  | compile sql => if (SqlBind.compile sql style).isOk then some sql else none
  | clearCache => none

end CompilerCall

/-- The different texts that compiled since the store was last cleared, most recent first. The calls
are listed oldest first. -/
def recentTexts (style : ParamStyle) (calls : List CompilerCall) : List String :=
  ((calls.reverse.takeWhile (· ≠ .clearCache)).filterMap (CompilerCall.compiled? style)).eraseDups

namespace Compiler

/-- What becomes of a compiler by some calls, oldest first. At any time its store may come to list
its entries in another order. -/
inductive Reached (style : ParamStyle) (capacity : Nat) : List CompilerCall → Compiler → Prop where
  | start : Reached style capacity [] (withCache style capacity)
  | called {calls : List CompilerCall} {c : Compiler} (reached : Reached style capacity calls c)
      (call : CompilerCall) : Reached style capacity (calls ++ [call]) (call.apply c)
  | reordered {calls : List CompilerCall} {cache : CompileCache} {order : List CacheEntry}
      (reached : Reached style capacity calls ⟨style, some cache⟩)
      (same : order.Perm cache.entries) :
      Reached style capacity calls ⟨style, some { cache with entries := order }⟩

/-- Compiling `sql` now gives the very statement that is stored for it. -/
def Hits (c : Compiler) (sql : String) : Prop :=
  ∃ cache entry, c.cache = some cache ∧ entry ∈ cache.entries ∧ entry.sql = sql ∧
    (c.compile sql).1 = .ok entry.statement ∧ (c.compile sql).2.storedAt? sql = some entry.serial

end Compiler

/-! ### Texts by recency -/

/-- Dropping repetitions and dropping elements of a kind can be done in either order. -/
theorem eraseDups_filter {α : Type} [BEq α] [LawfulBEq α] (keeps : α → Bool) (items : List α) :
    (items.filter keeps).eraseDups = items.eraseDups.filter keeps := by
  -- What follows the first element is filtered before its repetitions are dropped, so the
  -- induction is on the length.
  induction size : items.length using Nat.strong_induction_on generalizing items with
  | _ length inductionHypothesis =>
      rcases items with - | ⟨item, rest⟩
      · rfl
      · have shorter : (rest.filter fun other => !other == item).length < length := by
          have bound := List.length_filter_le (fun other => !other == item) rest
          simp only [List.length_cons] at size
          omega
        have later := inductionHypothesis _ shorter (rest.filter fun other => !other == item) rfl
        rw [List.eraseDups_cons]
        by_cases kept : keeps item = true
        · rw [List.filter_cons_of_pos kept, List.filter_cons_of_pos kept, List.eraseDups_cons,
            ← later, List.filter_comm]
        · rw [List.filter_cons_of_neg kept, List.filter_cons_of_neg kept, ← later,
            List.filter_filter]
          congr 1
          apply List.filter_congr
          intro other _
          by_cases same : other = item
          · simpa [same] using kept
          · simp [same]

private theorem eraseDups_cons_eq (text : String) (texts : List String) :
    (text :: texts).eraseDups = text :: texts.eraseDups.erase text := by
  have distinct : texts.eraseDups.Nodup := by
    rw [← Sql.firstAppearances_eq_eraseDups]
    exact nodup_firstAppearances texts
  rw [List.eraseDups_cons, eraseDups_filter, distinct.erase_eq_filter]
  rfl

section Recent

variable {style : ParamStyle} {calls : List CompilerCall} {sql : String}

@[simp] theorem recentTexts_nil (style : ParamStyle) : recentTexts style [] = [] := rfl

private theorem recentTexts_clear (style : ParamStyle) (calls : List CompilerCall) :
    recentTexts style (calls ++ [.clearCache]) = [] := by
  simp [recentTexts]

private theorem recentTexts_compiled (compiles : (compile sql style).isOk = true) :
    recentTexts style (calls ++ [.compile sql]) = sql :: (recentTexts style calls).erase sql := by
  simp [recentTexts, CompilerCall.compiled?, compiles, eraseDups_cons_eq]

private theorem recentTexts_failed (fails : (compile sql style).isOk = false) :
    recentTexts style (calls ++ [.compile sql]) = recentTexts style calls := by
  simp [recentTexts, CompilerCall.compiled?, fails]

private theorem recentTexts_failed_cons (fails : (compile sql style).isOk = false) :
    recentTexts style (.compile sql :: calls) = recentTexts style calls := by
  unfold recentTexts
  rw [List.reverse_cons, List.takeWhile_append]
  split
  case isTrue all =>
    rw [(List.takeWhile_prefix _).eq_of_length all, List.filterMap_append]
    simp [CompilerCall.compiled?, fails]
  case isFalse => rfl

private theorem recentTexts_failing (fails : (compile sql style).isOk = false) (count : Nat) :
    recentTexts style (List.replicate count (.compile sql) ++ calls) = recentTexts style calls := by
  induction count with
  | zero => rfl
  | succ count inductionHypothesis =>
      rw [List.replicate_succ, List.cons_append, recentTexts_failed_cons fails,
        inductionHypothesis]

private theorem nodup_recentTexts (style : ParamStyle) (calls : List CompilerCall) :
    (recentTexts style calls).Nodup := by
  unfold recentTexts
  rw [← Sql.firstAppearances_eq_eraseDups]
  exact nodup_firstAppearances _

private theorem compiles_of_mem_recentTexts (member : sql ∈ recentTexts style calls) :
    (compile sql style).isOk = true := by
  unfold recentTexts at member
  obtain ⟨call, -, compiled⟩ := List.mem_filterMap.mp (List.mem_eraseDups.mp member)
  rcases call with text | -
  · simp only [CompilerCall.compiled?, Option.ite_none_right_eq_some] at compiled
    obtain ⟨compiles, same⟩ := compiled
    rw [← Option.some.inj same]
    exact compiles
  · contradiction

end Recent

private theorem take_erase_take (count : Nat) (text : String) (texts : List String) :
    ((texts.take (count + 1)).erase text).take count = (texts.erase text).take count := by
  induction texts generalizing count with
  | nil => simp
  | cons first rest inductionHypothesis =>
      rw [List.take_succ_cons]
      by_cases same : first = text
      · subst same
        rw [List.erase_cons_head, List.erase_cons_head, List.take_take, Nat.min_self]
      · rw [List.erase_cons_tail (by simpa using same), List.erase_cons_tail (by simpa using same)]
        rcases count with - | count
        · rfl
        · rw [List.take_succ_cons, List.take_succ_cons, inductionHypothesis]

/-- What is moved to the front of a list is moved to the front of the part that is kept. -/
theorem take_cons_erase {count : Nat} (positive : 0 < count) {text : String} {texts : List String} :
    (text :: texts.erase text).take count = (text :: (texts.take count).erase text).take count := by
  obtain ⟨rest, rfl⟩ := Nat.exists_eq_succ_of_ne_zero (Nat.ne_of_gt positive)
  rw [List.take_succ_cons, List.take_succ_cons, take_erase_take]

namespace CompileCache

/-! ### Entries by their stamps -/

/-- In the order of their last uses, newest first, the entries are those for `texts`, and no two of
them were used at the same time. -/
def Ranked (texts : List String) (entries : List CacheEntry) : Prop :=
  ∃ ordered : List CacheEntry, ordered.Perm entries ∧
    ordered.Pairwise (fun newer older => older.used < newer.used) ∧
    ordered.map CacheEntry.sql = texts

section Entries

variable {texts : List String} {entries ordered : List CacheEntry} {sql : String}

private theorem touch_of_not_mem (now : UInt64) (absent : sql ∉ entries.map CacheEntry.sql) :
    touch sql now entries = entries := by
  rw [touch]
  conv_rhs => rw [← List.map_id entries]
  apply List.map_congr_left
  intro entry member
  have different : entry.sql ≠ sql := by
    rintro rfl
    exact absent (List.mem_map_of_mem member)
  simp [different]

/-- Other entries are for other texts, so stamping one leaves them as they are. -/
theorem touch_middle (now : UInt64) {before after : List CacheEntry} {entry : CacheEntry}
    (earlier : entry.sql ∉ before.map CacheEntry.sql)
    (later : entry.sql ∉ after.map CacheEntry.sql) :
    touch entry.sql now (before ++ entry :: after) =
      before ++ { entry with used := now } :: after := by
  have first := touch_of_not_mem now earlier
  have second := touch_of_not_mem now later
  rw [touch] at first second ⊢
  rw [List.map_append, List.map_cons, first, second, if_pos rfl]

/-- Whatever order the entries are listed in, the one that goes is the last by its stamp. -/
theorem perm_evictOldest (same : ordered.Perm entries)
    (descending : ordered.Pairwise fun newer older => older.used < newer.used) :
    ordered.dropLast.Perm (evictOldest entries) := by
  rcases List.eq_nil_or_concat ordered with rfl | ⟨earlier, last, rfl⟩
  · obtain rfl := same.nil_eq
    exact List.Perm.refl []
  · rw [List.concat_eq_append] at same descending ⊢
    obtain ⟨-, -, newer⟩ := List.pairwise_append.mp descending
    have least : oldest entries = some last.used := by
      rw [oldest, List.min?_eq_some_iff]
      constructor
      · exact List.mem_map_of_mem (same.subset (by simp))
      · intro stamp member
        obtain ⟨entry, listed, rfl⟩ := List.mem_map.mp member
        rcases List.mem_append.mp (same.symm.subset listed) with here | here
        · exact UInt64.le_of_lt (newer entry here last (by simp))
        · rw [List.mem_singleton.mp here]
          exact UInt64.le_refl last.used
    have single : (earlier ++ [last]).Pairwise fun entry other : CacheEntry =>
        decide (entry.used = last.used) → decide (other.used = last.used) → False := by
      apply descending.imp
      intro entry other less first second
      rw [of_decide_eq_true first, of_decide_eq_true second] at less
      exact UInt64.lt_irrefl _ less
    have stays : ∀ entry ∈ earlier, ¬ decide (entry.used = last.used) = true := by
      intro entry member same
      have later := newer entry member last (by simp)
      rw [of_decide_eq_true same] at later
      exact UInt64.lt_irrefl _ later
    have erased := List.Perm.eraseP (fun entry => decide (entry.used = last.used)) single same
    rw [List.eraseP_append_right [last] stays, List.eraseP_cons_of_pos (by simp),
      List.append_nil] at erased
    rw [List.dropLast_concat, evictOldest, least]
    exact erased

namespace Ranked

/-- The texts in the store are the listed ones, in whatever order its entries stand. -/
theorem perm (ranked : Ranked texts entries) : (entries.map CacheEntry.sql).Perm texts := by
  obtain ⟨ordered, same, -, rfl⟩ := ranked
  exact (same.map CacheEntry.sql).symm

theorem length_eq (ranked : Ranked texts entries) : entries.length = texts.length := by
  simpa using ranked.perm.length_eq

private theorem nodup_used (ranked : Ranked texts entries) :
    (entries.map CacheEntry.used).Nodup := by
  obtain ⟨ordered, same, descending, -⟩ := ranked
  apply (same.map CacheEntry.used).nodup_iff.mp
  apply List.pairwise_map.mpr
  apply descending.imp
  intro newer older less
  exact (UInt64.ne_of_lt less).symm

private theorem reorder (ranked : Ranked texts entries) {order : List CacheEntry}
    (same : order.Perm entries) : Ranked texts order := by
  obtain ⟨ordered, listed, descending, named⟩ := ranked
  exact ⟨ordered, listed.trans same.symm, descending, named⟩

/-- Evicting takes the text away that was used least recently. -/
theorem evictOldest (ranked : Ranked texts entries) :
    Ranked texts.dropLast (evictOldest entries) := by
  obtain ⟨ordered, same, descending, rfl⟩ := ranked
  exact ⟨ordered.dropLast, perm_evictOldest same descending,
    descending.sublist ordered.dropLast_sublist, List.map_dropLast⟩

/-- A new entry is used last. -/
theorem push (ranked : Ranked texts entries) {entry : CacheEntry}
    (latest : ∀ other ∈ entries, other.used < entry.used) :
    Ranked (entry.sql :: texts) (entry :: entries) := by
  obtain ⟨ordered, same, descending, rfl⟩ := ranked
  refine ⟨entry :: ordered, same.cons entry, ?_, rfl⟩
  exact descending.cons fun other member => latest other (same.subset member)

/-- An entry that is used again moves to the front. -/
theorem touch {now : UInt64} (ranked : Ranked texts entries) (distinct : texts.Nodup)
    (member : sql ∈ texts) (latest : ∀ entry ∈ entries, entry.used < now) :
    Ranked (sql :: texts.erase sql) (touch sql now entries) := by
  obtain ⟨ordered, same, descending, rfl⟩ := ranked
  obtain ⟨entry, listed, rfl⟩ := List.mem_map.mp member
  obtain ⟨before, after, rfl⟩ := List.append_of_mem listed
  rw [List.map_append, List.map_cons] at distinct
  have apart := (List.nodup_middle.mp distinct).notMem
  simp only [List.mem_append, not_or] at apart
  have stamped := touch_middle now apart.1 apart.2
  refine ⟨{ entry with used := now } :: (before ++ after), ?_, ?_, ?_⟩
  · have moved : (CompileCache.touch entry.sql now (before ++ entry :: after)).Perm
        (CompileCache.touch entry.sql now entries) := same.map _
    rw [stamped] at moved
    exact List.perm_middle.symm.trans moved
  · have rest : (before ++ after).Pairwise fun newer older => older.used < newer.used :=
      descending.sublist ((List.sublist_cons_self entry after).append_left before)
    refine rest.cons fun other inside => ?_
    apply latest other (same.subset ?_)
    rcases List.mem_append.mp inside with here | here <;> simp [here]
  · rw [List.map_append, List.map_cons (l := after), List.erase_append_right _ apart.1,
      List.erase_cons_head, List.map_cons, List.map_append]

end Ranked

end Entries

/-! ### The clock -/

section Clock

variable {clock : UInt64} (goesOn : clock.toNat + 1 < 2 ^ 64)

include goesOn

theorem toNat_tick : (clock + 1).toNat = clock.toNat + 1 := by
  rw [UInt64.toNat_add, UInt64.toNat_one, Nat.mod_eq_of_lt goesOn]

private theorem lt_tick {stamp : UInt64} (past : stamp ≤ clock) : stamp < clock + 1 := by
  have earlier := UInt64.le_iff_toNat_le.mp past
  rw [UInt64.lt_iff_toNat_lt, toNat_tick goesOn]
  omega

end Clock

/-! ### Stores by recency -/

/-- A store that holds the statements for `texts`, the text that was used last in front, whose clock
is not behind any stamp and which has counted all storings. -/
structure Tracks (texts : List String) (cache : CompileCache) : Prop where
  ranked : Ranked texts cache.entries
  used : ∀ entry ∈ cache.entries, entry.used ≤ cache.clock
  stored : ∀ entry ∈ cache.entries, entry.serial < cache.storings

namespace Tracks

variable {texts : List String} {cache : CompileCache} {sql : String} {statement : Statement}

theorem nothing (capacity : Nat) (clock : UInt64) (storings : Nat) :
    Tracks [] ⟨capacity, clock, storings, []⟩ where
  ranked := ⟨[], List.Perm.refl [], List.Pairwise.nil, rfl⟩
  used := by simp
  stored := by simp

theorem mem_iff (tracks : Tracks texts cache) : sql ∈ cache.entries.map CacheEntry.sql ↔
    sql ∈ texts := tracks.ranked.perm.mem_iff

private theorem find?_of_mem (tracks : Tracks texts cache) (member : sql ∈ texts) :
    ∃ entry ∈ cache.entries, entry.sql = sql ∧ cache.find? sql = some entry := by
  rcases found : cache.find? sql with - | entry
  · exact absurd (tracks.mem_iff.mpr member) (find?_eq_none_iff.mp found)
  · exact ⟨entry, List.mem_of_find?_eq_some found, by simpa using List.find?_some found, rfl⟩

/-- A text that is not listed is not in the store. -/
theorem find?_of_not_mem (tracks : Tracks texts cache) (absent : sql ∉ texts) :
    cache.find? sql = none :=
  find?_eq_none_iff.mpr (mt tracks.mem_iff.mp absent)

section Ticking

variable (tracks : Tracks texts cache) (goesOn : cache.clock.toNat + 1 < 2 ^ 64)

include tracks goesOn

/-- The next tick is later than every use so far. -/
theorem past {entry : CacheEntry} (listed : entry ∈ cache.entries) :
    entry.used < cache.clock + 1 :=
  lt_tick goesOn (tracks.used entry listed)

/-- The clock goes on. -/
theorem tick : Tracks texts { cache with clock := cache.clock + 1 } where
  ranked := tracks.ranked
  used _ listed := UInt64.le_of_lt (tracks.past goesOn listed)
  stored := tracks.stored

/-- A text that is used again moves to the front. -/
theorem touch (distinct : texts.Nodup) (member : sql ∈ texts) :
    Tracks (sql :: texts.erase sql) { cache with
      clock := cache.clock + 1
      entries := touch sql (cache.clock + 1) cache.entries } where
  ranked := tracks.ranked.touch distinct member fun _ => tracks.past goesOn
  used := by
    intro entry listed
    obtain ⟨other, held, rfl⟩ := List.mem_map.mp listed
    split
    · exact UInt64.le_refl _
    · exact UInt64.le_of_lt (tracks.past goesOn held)
  stored := by
    intro entry listed
    obtain ⟨other, held, rfl⟩ := List.mem_map.mp listed
    split <;> exact tracks.stored other held

/-- A full store drops the text that was not used for the longest time. -/
theorem insert (absent : sql ∉ texts) (positive : 0 < cache.capacity)
    (bounded : texts.length ≤ cache.capacity) :
    Tracks ((sql :: texts).take cache.capacity) (cache.insert sql statement).2 := by
  let kept := if cache.capacity ≤ cache.size then evictOldest cache.entries else cache.entries
  have inside : kept.Sublist cache.entries := by
    show (if _ then _ else _ : List CacheEntry).Sublist _
    split
    · exact evictOldest_sublist cache.entries
    · exact List.Sublist.refl _
  have ranked : Ranked (texts.take (cache.capacity - 1)) kept := by
    have size := tracks.ranked.length_eq
    show Ranked _ (if _ then _ else _)
    rw [CompileCache.size, size]
    split
    · have full : texts.take (cache.capacity - 1) = texts.dropLast := by
        rw [List.dropLast_eq_take]
        congr 1
        omega
      rw [full]
      exact tracks.ranked.evictOldest
    · rw [List.take_of_length_le (by omega)]
      exact tracks.ranked
  have front : (sql :: texts).take cache.capacity = sql :: texts.take (cache.capacity - 1) :=
    List.take_cons positive
  rw [CompileCache.insert, tracks.find?_of_not_mem absent, front]
  refine ⟨?_, ?_, ?_⟩
  · apply ranked.push
    intro other member
    exact tracks.past goesOn (inside.subset member)
  · intro entry member
    rcases List.mem_cons.mp member with rfl | held
    · exact UInt64.le_refl _
    · exact UInt64.le_of_lt (tracks.past goesOn (inside.subset held))
  · intro entry member
    rcases List.mem_cons.mp member with rfl | held
    · exact Nat.lt_succ_self _
    · exact Nat.lt_succ_of_lt (tracks.stored entry (inside.subset held))

end Ticking

end Tracks

private theorem find?_touch (cache : CompileCache) (now : UInt64) (sql : String) :
    find? { cache with clock := now, entries := touch sql now cache.entries } sql =
      (cache.find? sql).map fun entry => { entry with used := now } := by
  unfold find? touch
  dsimp only
  induction cache.entries with
  | nil => rfl
  | cons entry rest inductionHypothesis =>
      rw [List.map_cons]
      by_cases named : entry.sql = sql
      · simp [named]
      · simp only [if_neg named, List.find?_cons, decide_eq_false named]
        exact inductionHypothesis

end CompileCache

namespace Compiler

/-! ### Compiling with a store -/

open CompileCache (Tracks Ranked)

section Compiling

variable {style : ParamStyle} {texts : List String} {cache : CompileCache} {sql : String}

/-- A text that is stored is answered with the statement that is stored for it. -/
theorem compile_of_mem (style : ParamStyle) (tracks : Tracks texts cache) (member : sql ∈ texts) :
    ∃ entry ∈ cache.entries, entry.sql = sql ∧
      compile ⟨style, some cache⟩ sql = (.ok entry.statement, ⟨style, some { cache with
        clock := cache.clock + 1
        entries := CompileCache.touch sql (cache.clock + 1) cache.entries }⟩) ∧
      (compile ⟨style, some cache⟩ sql).2.storedAt? sql = some entry.serial := by
  obtain ⟨entry, listed, named, found⟩ := tracks.find?_of_mem member
  have answered : compile ⟨style, some cache⟩ sql =
      (.ok entry.statement, ⟨style, some { cache with
        clock := cache.clock + 1
        entries := CompileCache.touch sql (cache.clock + 1) cache.entries }⟩) := by
    simp only [compile, CompileCache.get, found]
  refine ⟨entry, listed, named, answered, ?_⟩
  rw [answered]
  simp [storedAt?, CompileCache.find?_touch, found]

/-- A text that is not stored and does not compile leaves the store as it is. -/
theorem compile_of_error (tracks : Tracks texts cache) (absent : sql ∉ texts) {e : DbError}
    (fails : SqlBind.compile sql style = .error e) :
    compile ⟨style, some cache⟩ sql =
      (.error e, ⟨style, some { cache with clock := cache.clock + 1 }⟩) := by
  simp only [compile, CompileCache.get, tracks.find?_of_not_mem absent, fails]

/-- A text that is not stored and compiles is stored. -/
theorem compile_of_ok (tracks : Tracks texts cache) (absent : sql ∉ texts) {statement : Statement}
    (compiles : SqlBind.compile sql style = .ok statement) :
    (compile ⟨style, some cache⟩ sql).2 = ⟨style, some
        (CompileCache.insert { cache with clock := cache.clock + 1 } sql statement).2⟩ ∧
      (compile ⟨style, some cache⟩ sql).2.storedAt? sql = some cache.storings := by
  have missed := tracks.find?_of_not_mem absent
  have later : CompileCache.find? { cache with clock := cache.clock + 1 } sql = none := missed
  constructor
  · simp only [compile, CompileCache.get, missed, compiles]
  · simp only [compile, CompileCache.get, missed, compiles, CompileCache.insert, later]
    simp [storedAt?, CompileCache.find?]

end Compiling

/-! ### Runs -/

/-- A store that holds the `capacity` most recent texts. -/
structure Recent (style : ParamStyle) (capacity : Nat) (calls : List CompilerCall)
    (cache : CompileCache) : Prop where
  tracks : Tracks ((recentTexts style calls).take capacity) cache
  room : cache.capacity = capacity
  clock : cache.clock.toNat ≤ 2 * calls.length

section Runs

variable {style : ParamStyle} {capacity : Nat} {calls : List CompilerCall}
  {cache : CompileCache} {c : Compiler} {sql : String}

private theorem recent_clear (recent : Recent style capacity calls cache) :
    Recent style capacity (calls ++ [.clearCache]) cache.clear where
  tracks := by
    rw [recentTexts_clear, List.take_nil]
    exact Tracks.nothing cache.capacity cache.clock cache.storings
  room := recent.room
  clock := by
    have bound := recent.clock
    rw [List.length_append]
    exact Nat.le_trans bound (by omega)

private theorem recent_hit (recent : Recent style capacity calls cache)
    (goesOn : cache.clock.toNat + 1 < 2 ^ 64) (positive : 0 < capacity)
    (member : sql ∈ (recentTexts style calls).take capacity) :
    ∃ after, (compile ⟨style, some cache⟩ sql).2 = ⟨style, some after⟩ ∧
      Recent style capacity (calls ++ [.compile sql]) after := by
  obtain ⟨tracks, rfl, clock⟩ := recent
  obtain ⟨entry, -, -, answered, -⟩ := compile_of_mem style tracks member
  have compiles := compiles_of_mem_recentTexts (List.mem_of_mem_take member)
  have distinct := (nodup_recentTexts style calls).sublist (List.take_sublist cache.capacity _)
  have fits : (sql :: ((recentTexts style calls).take cache.capacity).erase sql).length ≤
      cache.capacity := by
    have shorter := List.length_erase_of_mem member
    have filled := List.length_pos_of_mem member
    have bounded := List.length_take_le cache.capacity (recentTexts style calls)
    simp only [List.length_cons]
    omega
  refine ⟨_, congrArg Prod.snd answered, ?_, rfl, ?_⟩
  · rw [recentTexts_compiled compiles, take_cons_erase positive, List.take_of_length_le fits]
    exact tracks.touch goesOn distinct member
  · show (cache.clock + 1).toNat ≤ _
    rw [CompileCache.toNat_tick goesOn, List.length_append, List.length_singleton]
    omega

private theorem recent_failed (recent : Recent style capacity calls cache)
    (goesOn : cache.clock.toNat + 1 < 2 ^ 64)
    (absent : sql ∉ (recentTexts style calls).take capacity) {e : DbError}
    (compiles : SqlBind.compile sql style = .error e) :
    ∃ after, (compile ⟨style, some cache⟩ sql).2 = ⟨style, some after⟩ ∧
      Recent style capacity (calls ++ [.compile sql]) after := by
  obtain ⟨tracks, rfl, clock⟩ := recent
  have fails : (SqlBind.compile sql style).isOk = false := by rw [compiles]; rfl
  refine ⟨_, congrArg Prod.snd (compile_of_error tracks absent compiles), ?_, rfl, ?_⟩
  · rw [recentTexts_failed fails]
    exact tracks.tick goesOn
  · show (cache.clock + 1).toNat ≤ _
    rw [CompileCache.toNat_tick goesOn, List.length_append, List.length_singleton]
    omega

private theorem recent_stored (recent : Recent style capacity calls cache)
    (goesOn : cache.clock.toNat + 2 < 2 ^ 64) (positive : 0 < capacity)
    (absent : sql ∉ (recentTexts style calls).take capacity) {statement : Statement}
    (compiles : SqlBind.compile sql style = .ok statement) :
    ∃ after, (compile ⟨style, some cache⟩ sql).2 = ⟨style, some after⟩ ∧
      Recent style capacity (calls ++ [.compile sql]) after := by
  obtain ⟨tracks, rfl, clock⟩ := recent
  have succeeds : (SqlBind.compile sql style).isOk = true := by rw [compiles]; rfl
  -- The look-up takes the first step of the clock, the insertion the second one.
  have first : cache.clock.toNat + 1 < 2 ^ 64 := by omega
  have ticked := CompileCache.toNat_tick first
  have second : (cache.clock + 1).toNat + 1 < 2 ^ 64 := by omega
  have missed : CompileCache.find? { cache with clock := cache.clock + 1 } sql = none :=
    (tracks.tick first).find?_of_not_mem absent
  refine ⟨_, (compile_of_ok tracks absent compiles).1, ?_, ?_, ?_⟩
  · rw [recentTexts_compiled succeeds, take_cons_erase positive, List.erase_of_not_mem absent]
    exact (tracks.tick first).insert second absent positive (List.length_take_le _ _)
  · rw [CompileCache.insert, missed]
  · rw [CompileCache.insert, missed]
    show (cache.clock + 1 + 1).toNat ≤ _
    rw [CompileCache.toNat_tick second, ticked, List.length_append, List.length_singleton]
    omega

/-- One compilation keeps the most recent texts. -/
theorem recent_compile (recent : Recent style capacity calls cache) (positive : 0 < capacity)
    (sql : String) (short : (calls ++ [CompilerCall.compile sql]).length < 2 ^ 63) :
    ∃ after, (compile ⟨style, some cache⟩ sql).2 = ⟨style, some after⟩ ∧
      Recent style capacity (calls ++ [.compile sql]) after := by
  have goesOn : cache.clock.toNat + 2 < 2 ^ 64 := by
    have bound := recent.clock
    rw [List.length_append, List.length_singleton] at short
    omega
  by_cases member : sql ∈ (recentTexts style calls).take capacity
  · exact recent_hit recent (by omega) positive member
  · rcases compiles : SqlBind.compile sql style with e | statement
    · exact recent_failed recent (by omega) member compiles
    · exact recent_stored recent goesOn positive member compiles

/-- Over every run that is short enough for the clock, the store holds the most recent texts. -/
theorem Reached.recent (positive : 0 < capacity) (short : calls.length < 2 ^ 63)
    (reached : Reached style capacity calls c) :
    ∃ cache, c = ⟨style, some cache⟩ ∧ Recent style capacity calls cache := by
  induction reached with
  | start =>
      refine ⟨CompileCache.empty capacity, ?_, ?_, rfl, Nat.zero_le _⟩
      · rw [withCache, if_neg (Nat.ne_of_gt positive)]
      · rw [recentTexts_nil, List.take_nil]
        exact Tracks.nothing capacity 0 0
  | called reached call inductionHypothesis =>
      have shorter := short
      rw [List.length_append] at shorter
      obtain ⟨cache, rfl, recent⟩ := inductionHypothesis (Nat.lt_of_add_right_lt shorter)
      rcases call with sql | -
      · exact recent_compile recent positive sql short
      · exact ⟨cache.clear, rfl, recent_clear recent⟩
  | reordered reached same inductionHypothesis =>
      obtain ⟨cache, held, recent⟩ := inductionHypothesis short
      cases held
      refine ⟨_, rfl, ⟨?_, ?_, ?_⟩, recent.room, recent.clock⟩
      · exact recent.tracks.ranked.reorder same
      · exact fun entry member => recent.tracks.used entry (same.subset member)
      · exact fun entry member => recent.tracks.stored entry (same.subset member)

/-- What a compiler has reached it can go on from. -/
theorem Reached.goOn (reached : Reached style capacity calls c) (later : List CompilerCall) :
    Reached style capacity (calls ++ later) (later.foldl CompilerCall.apply c) := by
  induction later generalizing calls c with
  | nil => simpa using reached
  | cons call later inductionHypothesis =>
      rw [List.append_cons]
      exact inductionHypothesis (reached.called call)

/-- Texts that do not compile move the clock on and nothing else. -/
theorem reached_failing {e : DbError} (positive : 0 < capacity)
    (fails : SqlBind.compile sql style = .error e) (count : Nat) :
    Reached style capacity (List.replicate count (.compile sql))
      ⟨style, some ⟨capacity, UInt64.ofNat count, 0, []⟩⟩ := by
  induction count with
  | zero =>
      have empty : withCache style capacity = ⟨style, some ⟨capacity, 0, 0, []⟩⟩ := by
        rw [withCache, if_neg (Nat.ne_of_gt positive)]
        rfl
      exact empty ▸ Reached.start
  | succ count inductionHypothesis =>
      have next := inductionHypothesis.called (.compile sql)
      have tracks := CompileCache.Tracks.nothing capacity (UInt64.ofNat count) 0
      rw [CompilerCall.apply, compile_of_error tracks List.not_mem_nil fails] at next
      rw [List.replicate_succ', UInt64.ofNat_add]
      exact next

end Runs

/-- What a compiler for `style` that stores up to `capacity` statements has stored after `calls`. -/
structure KeepsRecent (style : ParamStyle) (capacity : Nat) (calls : List CompilerCall)
    (cache : CompileCache) : Prop where
  /-- The entries are those for the most recent texts, and their stamps tell which of them were used
  later. -/
  ranked : Ranked ((recentTexts style calls).take capacity) cache.entries
  size : cache.size = min capacity (recentTexts style calls).length
  /-- Such a text and no other is answered with the stored statement itself. -/
  hits : ∀ sql, Hits ⟨style, some cache⟩ sql ↔ sql ∈ (recentTexts style calls).take capacity
  /-- What is stored for any other text by compiling it was never stored before. -/
  fresh : ∀ sql, sql ∉ (recentTexts style calls).take capacity → ∀ serial,
    (compile ⟨style, some cache⟩ sql).2.storedAt? sql = some serial → cache.storings ≤ serial
  counted : ∀ entry ∈ cache.entries, entry.serial < cache.storings
  /-- A text that does not compile advances the clock and changes nothing else. -/
  failing : ∀ sql e, SqlBind.compile sql style = .error e → compile ⟨style, some cache⟩ sql =
    (.error e, ⟨style, some { cache with clock := cache.clock + 1 }⟩)
  /-- No two entries were used at the same time, so it does not matter in which order they are
  searched for the oldest. -/
  distinct : (cache.entries.map CacheEntry.used).Nodup
  anyOrder : ∀ order : List CacheEntry, order.Perm cache.entries →
    (CompileCache.evictOldest order).Perm (CompileCache.evictOldest cache.entries)
  /-- The clock takes at most two steps for a call. -/
  clock : cache.clock.toNat ≤ 2 * calls.length

/-- After less than 2 ^ 63 calls a compiler has stored the statements for the texts that compiled
last since its store was cleared, as many as it has room for, and answers exactly these from its
store. -/
theorem store_keeps_most_recent {style : ParamStyle} {capacity : Nat} (positive : 0 < capacity)
    {calls : List CompilerCall} (short : calls.length < 2 ^ 63) {c : Compiler}
    (reached : Reached style capacity calls c) :
    ∃ cache, c = ⟨style, some cache⟩ ∧ KeepsRecent style capacity calls cache := by
  obtain ⟨cache, rfl, tracks, rfl, clock⟩ := reached.recent positive short
  refine ⟨cache, rfl, ?_⟩
  refine
    { ranked := tracks.ranked
      size := tracks.ranked.length_eq.trans (List.length_take ..)
      hits := ?_
      fresh := ?_
      counted := tracks.stored
      failing := ?_
      distinct := tracks.ranked.nodup_used
      anyOrder := ?_
      clock := clock }
  · intro sql
    constructor
    · rintro ⟨_, entry, ⟨⟩, listed, rfl, -⟩
      exact tracks.mem_iff.mp (List.mem_map_of_mem listed)
    · intro member
      obtain ⟨entry, listed, named, answered, stays⟩ :=
        compile_of_mem style tracks member
      exact ⟨cache, entry, rfl, listed, named, congrArg Prod.fst answered, stays⟩
  · intro sql absent serial held
    rcases compiles : SqlBind.compile sql style with e | statement
    · rw [compile_of_error tracks absent compiles] at held
      have missed : CompileCache.find? { cache with clock := cache.clock + 1 } sql = none :=
        tracks.find?_of_not_mem absent
      simp [storedAt?, missed] at held
    · rw [(compile_of_ok tracks absent compiles).2] at held
      exact Nat.le_of_eq (Option.some.inj held)
  · intro sql e fails
    apply compile_of_error tracks _ fails
    intro member
    have compiles := compiles_of_mem_recentTexts (List.mem_of_mem_take member)
    rw [fails] at compiles
    contradiction
  · intro order same
    obtain ⟨ordered, listed, descending, -⟩ := tracks.ranked
    exact (CompileCache.perm_evictOldest (listed.trans same.symm) descending).symm.trans
      (CompileCache.perm_evictOldest listed descending)

/-- A text that was used again stays when a third one comes, whatever order the store lists the two
in. -/
theorem store_keeps_most_recent_reordered :
    let entry : String → Nat → UInt64 → CacheEntry := fun sql serial used =>
      ⟨sql, ⟨sql, [], .qmark⟩, serial, used⟩
    let calls : List CompilerCall := [.compile "a", .compile "b", .compile ":", .compile "a"]
    let before : CompileCache := ⟨2, 6, 2, [entry "a" 0 6, entry "b" 1 4]⟩
    let c : Compiler := ⟨.qmark, some before⟩
    0 < 2 ∧ (calls ++ [CompilerCall.compile "c"]).length < 2 ^ 63 ∧
      Reached .qmark 2 (calls ++ [.compile "c"]) (c.compile "c").2 ∧
      recentTexts .qmark (calls ++ [.compile "c"]) = ["c", "a", "b"] ∧
      ∃ cache, (c.compile "c").2 = ⟨.qmark, some cache⟩ ∧
        KeepsRecent .qmark 2 (calls ++ [.compile "c"]) cache ∧
        Hits ⟨.qmark, some cache⟩ "a" ∧ ¬ Hits ⟨.qmark, some cache⟩ "b" := by
  intro entry calls before c
  have begins : Reached .qmark 2 [] (withCache .qmark 2) := .start
  have four : Reached .qmark 2 calls
      ⟨.qmark, some { before with entries := [entry "b" 1 4, entry "a" 0 6] }⟩ :=
    (((begins.called (.compile "a")).called (.compile "b")).called (.compile ":")).called
      (.compile "a")
  have other : Reached .qmark 2 calls c :=
    Reached.reordered four (List.Perm.swap (entry "b" 1 4) (entry "a" 0 6) [])
  have reached := other.called (.compile "c")
  have recent : recentTexts .qmark (calls ++ [.compile "c"]) = ["c", "a", "b"] := by
    decide +kernel
  have short : (calls ++ [CompilerCall.compile "c"]).length < 2 ^ 63 := by decide
  have positive : 0 < 2 := by decide
  obtain ⟨cache, after, keeps⟩ := store_keeps_most_recent positive short reached
  refine ⟨positive, short, reached, recent, cache, after, keeps, ?_, ?_⟩
  · rw [keeps.hits, recent]
    decide
  · rw [keeps.hits, recent]
    decide

/-- The clock comes round within less than 2 ^ 64 calls, since a text that is stored takes two steps
of it. Here it does so between the second use of `a` and the first of `c`, which then looks like the
one that was not used for the longest time. -/
theorem recent_text_lost_as_clock_comes_round :
    let calls : List CompilerCall := List.replicate (2 ^ 64 - 6) (.compile ":") ++
      [.compile "a", .compile "b", .compile "a", .compile "c", .compile "d"]
    calls.length < 2 ^ 64 ∧ (recentTexts .qmark calls).take 3 = ["d", "c", "a"] ∧
      ∃ cache, Reached .qmark 3 calls ⟨.qmark, some cache⟩ ∧
        cache.entries.map CacheEntry.sql = ["d", "b", "a"] ∧ ¬ Hits ⟨.qmark, some cache⟩ "c" := by
  intro calls
  -- The number of the failing calls is kept out of the terms that are evaluated.
  obtain ⟨count, many⟩ : ∃ count, count = 2 ^ 64 - 6 := ⟨_, rfl⟩
  let later : List CompilerCall :=
    [.compile "a", .compile "b", .compile "a", .compile "c", .compile "d"]
  have split : calls = List.replicate count (.compile ":") ++ later := by rw [many]
  have fails : SqlBind.compile ":" .qmark =
      .error (.malformedPlaceholder 0 "':' at end of statement") := rfl
  have clock : UInt64.ofNat count = -6 := by
    rw [many]
    rfl
  let entry : String → Nat → UInt64 → CacheEntry := fun sql serial used =>
    ⟨sql, ⟨sql, [], .qmark⟩, serial, used⟩
  let cache : CompileCache := ⟨3, 3, 4, [entry "d" 3 3, entry "b" 1 (-2), entry "a" 0 (-1)]⟩
  have state : later.foldl CompilerCall.apply ⟨.qmark, some ⟨3, -6, 0, []⟩⟩ =
      ⟨.qmark, some cache⟩ := by
    decide +kernel
  have reached := (reached_failing (by decide : 0 < 3) fails count).goOn later
  rw [clock, state] at reached
  rw [split]
  refine ⟨?_, ?_, cache, reached, rfl, ?_⟩
  · rw [List.length_append, List.length_replicate, many]
    decide
  · rw [recentTexts_failing (congrArg Except.isOk fails)]
    decide +kernel
  · rintro ⟨_, found, ⟨⟩, listed, named, -⟩
    have other : found.sql ∈ ["d", "b", "a"] := List.mem_map_of_mem listed
    rw [named] at other
    exact absurd other (by decide)

end Compiler

end SqlBind

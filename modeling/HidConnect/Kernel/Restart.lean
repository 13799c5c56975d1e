import HidConnect.Kernel.MemorySqlite

/-! What a restart of the daemon keeps of its memory. -/
namespace HidConnect.Kernel

namespace Memory
variable {m m' : Memory} {screenId : ScreenId}

/-- The list and the entries hold the same screens. -/
def Wellformed (m : Memory) : Prop := ∃ ref : ReferenceMemory, m.Refines ref

/-- The entry of one screen is changed; of the others, some may be forgotten. -/
structure Changes (m m' : Memory) (screenId : ScreenId) (f : ActionSequence → ActionSequence) : Prop where
  wellformed : m'.Wellformed
  own : (m'.peek screenId).getD .blank = f ((m.peek screenId).getD .blank)
  others : ∀ x, x ≠ screenId → ∀ entry, m'.peek x = some entry → m.peek x = some entry

theorem Changes.refl (h : m.Wellformed) (screenId : ScreenId) {f : ActionSequence → ActionSequence}
    (nothing : ∀ entry, f entry = entry) : Changes m m screenId f :=
  ⟨h, (nothing _).symm, fun _ _ _ same => same⟩

theorem Changes.trans {m'' : Memory} {f g : ActionSequence → ActionSequence}
    (first : Changes m m' screenId f) (second : Changes m' m'' screenId g) :
    Changes m m'' screenId (g ∘ f) where
  wellformed := second.wellformed
  own := by rw [second.own, first.own, Function.comp_apply]
  others x other entry held := first.others x other entry (second.others x other entry held)

theorem evict_changes (h : m.Wellformed) {f : ActionSequence → ActionSequence}
    (next : ((m.changeEntry screenId f).touchLru screenId).maybeEvict = some m') :
    m'.peek screenId = some (f ((m.peek screenId).getD .blank)) ∧ Changes m m' screenId f := by
  obtain ⟨ref, refined⟩ := h
  obtain ⟨m'', same, after, -⟩ := record_refines refined screenId f
  obtain rfl := Option.some.inj (next.symm.trans same)
  have own : m'.peek screenId = some (f ((m.peek screenId).getD .blank)) := by
    rw [peek, peek, after.values, refined.values]
    exact Lru.value_put_self ref screenId _ (by decide)
  refine ⟨own, ⟨_, after⟩, by rw [own, Option.getD_some], fun x other entry held => ?_⟩
  rw [peek, after.values] at held
  rw [peek, refined.values]
  exact Lru.value_of_put held other

theorem withSuccess_changes (h : m.Wellformed) (screenId : ScreenId) (action : Action) :
    (m.withSuccess screenId action).peek screenId =
        some (succeeded action ((m.peek screenId).getD .blank)) ∧
      Changes m (m.withSuccess screenId action) screenId (succeeded action) :=
  evict_changes h (Option.some_get _).symm

theorem withFailure_changes (h : m.Wellformed) (screenId : ScreenId) (action : Action)
    (reason : String) :
    Changes m (m.withFailure screenId action reason) screenId (failed action reason) :=
  (evict_changes h (Option.some_get _).symm).2

end Memory
open Memory

/- Rows that are read back. -/

theorem successes_changes {m : Memory} (h : m.Wellformed) (screenId : ScreenId) (actions : List Action) :
    Changes m (actions.foldl (fun m action => m.withSuccess screenId action) m) screenId
      fun entry => { entry with successes := entry.successes ++ actions } := by
  induction actions generalizing m with
  | nil => exact .refl h screenId fun entry => by simp
  | cons action rest ih =>
    have first := (withSuccess_changes h screenId action).2
    have both := first.trans (ih first.wellformed)
    simpa [Function.comp_def, succeeded] using both

theorem failures_changes {m : Memory} (h : m.Wellformed) (screenId : ScreenId)
    (failures : List (Action × String)) :
    Changes m (failures.foldl (fun m f => m.withFailure screenId f.1 f.2) m) screenId
      fun entry => { entry with failures := entry.failures ++ failures } := by
  induction failures generalizing m with
  | nil => exact .refl h screenId fun entry => by simp
  | cons f rest ih =>
    have first := withFailure_changes h screenId f.1 f.2
    have both := first.trans (ih first.wellformed)
    simpa [Function.comp_def, failed] using both

theorem hydrateRow_changes {m : Memory} (h : m.Wellformed) (row : Row) :
    Changes m (hydrateRow m row) row.1 fun entry =>
      { successes := entry.successes ++ row.2.successes
        failures := entry.failures ++ row.2.failures } := by
  have first := successes_changes h row.1 row.2.successes
  exact first.trans (failures_changes first.wellformed row.1 row.2.failures)

theorem new_wellformed : Memory.new.Wellformed := ⟨_, new_refines⟩

theorem hydrate_append (rows : List Row) (row : Row) :
    hydrate (rows ++ [row]) = hydrateRow (hydrate rows) row := List.foldl_append ..

theorem hydrate_unknown {rows : List Row} {row : Row} (distinct : (rows ++ [row]).NodupKeys)
    (stored : ∀ screenId entry, (hydrate rows).peek screenId = some entry → ⟨screenId, entry⟩ ∈ rows) :
    (hydrate rows).peek row.1 = none := by
  rw [Option.eq_none_iff_forall_ne_some]
  intro old known
  have apart := (List.pairwise_append.mp (List.nodupKeys_iff_pairwise.mp distinct)).2.2
  exact apart _ (stored _ _ known) row (List.mem_singleton_self row) rfl

theorem hydrate_spec {rows : List Row} (distinct : rows.NodupKeys) :
    (hydrate rows).Wellformed ∧ ∀ screenId entry, (hydrate rows).peek screenId = some entry →
      ⟨screenId, entry⟩ ∈ rows := by
  induction rows using List.reverseRecOn with
  | nil => exact ⟨new_wellformed, fun screenId entry held => by cases held⟩
  | append_singleton rows row ih =>
    obtain ⟨wellformed, stored⟩ := ih (distinct.sublist (List.sublist_append_left rows [row]))
    have changes := hydrateRow_changes wellformed row
    rw [hydrate_append]
    refine ⟨changes.wellformed, fun screenId entry held => ?_⟩
    by_cases same : screenId = row.1
    · subst same
      have own := changes.own
      rw [held, hydrate_unknown distinct stored] at own
      obtain rfl : entry = row.2 := own
      exact List.mem_append_right _ (List.mem_singleton_self row)
    · exact List.mem_append_left _ (stored _ _ (changes.others screenId same entry held))

theorem hydrate_last {rows : List Row} {row : Row} (distinct : (rows ++ [row]).NodupKeys)
    (filled : row.2 ≠ .blank) : (hydrate (rows ++ [row])).peek row.1 = some row.2 := by
  obtain ⟨wellformed, stored⟩ := hydrate_spec (distinct.sublist (List.sublist_append_left rows [row]))
  have own := (hydrateRow_changes wellformed row).own
  rw [hydrate_unknown distinct stored] at own
  rw [hydrate_append]
  cases held : (hydrateRow (hydrate rows) row).peek row.1 with
  | none =>
    rw [held] at own
    exact absurd own.symm filled
  | some entry =>
    rw [held] at own
    exact congrArg some own

/- Runs. -/

namespace StoreRun
variable {s : StoreRun}

/-- What is in memory is in the table, and the table has all that was ever recorded. -/
structure Kept (s : StoreRun) : Prop where
  connected : s.shared.sqlite = some s.table
  wellformed : s.shared.memory.Wellformed
  cached : ∀ screenId entry, s.shared.memory.peek screenId = some entry →
    s.table.lookup screenId = some entry
  rows : ∀ screenId, s.table.lookup screenId =
    if s.history screenId = [] then none else some { successes := s.history screenId, failures := [] }

theorem history_recordSuccess (s : StoreRun) (screenId : ScreenId) (action : Action) (x : ScreenId) :
    (s.step (.recordSuccess screenId action)).history x =
      s.history x ++ if screenId = x then [action] else [] := by
  unfold history step
  dsimp only
  rw [List.filter_append, List.map_append, List.filter_singleton]
  by_cases same : screenId = x <;> simp [same]

theorem mem_table_iff (h : Kept s) (screenId : ScreenId) :
    screenId ∈ s.table ↔ s.history screenId ≠ [] := by
  rw [← AList.lookup_isSome, h.rows]
  split
  case isTrue none => exact iff_of_false Bool.false_ne_true fun some => some none
  case isFalse some => exact iff_of_true rfl some

theorem recordSuccess_spec (h : Kept s) (screenId : ScreenId) (action : Action) :
    ∃ memory, Changes s.shared.memory memory screenId (succeeded action) ∧
      memory.peek screenId = some (succeeded action ((s.shared.memory.peek screenId).getD .blank)) ∧
      (s.step (.recordSuccess screenId action)).shared =
        { memory, sqlite := some (persistScreen s.table screenId
          (succeeded action ((s.shared.memory.peek screenId).getD .blank))) } := by
  obtain ⟨own, changes⟩ := withSuccess_changes h.wellformed screenId action
  refine ⟨_, changes, own, ?_⟩
  change Persistent.recordSuccess _ _ _ _ = _
  unfold Persistent.recordSuccess
  dsimp only
  rw [h.connected, Option.map_some, own]
  rfl

theorem Kept.recordSuccess (h : Kept s) {screenId : ScreenId} {action : Action}
    (remembered : s.Remembered (.recordSuccess screenId action)) :
    Kept (s.step (.recordSuccess screenId action)) := by
  obtain ⟨memory, changes, own, shared⟩ := recordSuccess_spec h screenId action
  have table : (s.step (.recordSuccess screenId action)).table = persistScreen s.table screenId
      (succeeded action ((s.shared.memory.peek screenId).getD .blank)) := by
    rw [StoreRun.table, shared]
    rfl
  have before : (s.shared.memory.peek screenId).getD .blank =
      { successes := s.history screenId, failures := [] } := by
    have row := h.rows screenId
    cases known : s.shared.memory.peek screenId with
    | some entry =>
      rw [h.cached screenId entry known] at row
      split at row
      case isTrue => contradiction
      case isFalse => exact Option.some.inj row
    | none =>
      have unlisted : screenId ∉ s.table := fun listed => by
        have there := AList.lookup_isSome.mpr (remembered listed)
        rw [peek] at known
        rw [known] at there
        exact Bool.false_ne_true there
      rw [mem_table_iff h, not_not] at unlisted
      rw [unlisted]
      rfl
  refine ⟨by rw [table, shared], by rw [shared]; exact changes.wellformed, fun x entry held => ?_,
    fun x => ?_⟩
  · rw [shared] at held
    rw [table, persistScreen]
    by_cases same : x = screenId
    · subst same
      rw [AList.lookup_insert, ← own, held]
    · rw [AList.lookup_insert_ne same]
      exact h.cached x entry (changes.others x same entry held)
  · rw [table, persistScreen, before, history_recordSuccess]
    by_cases same : x = screenId
    · subst same
      rw [AList.lookup_insert, if_pos rfl, if_neg (by simp)]
      rfl
    · rw [AList.lookup_insert_ne same, if_neg (Ne.symm same), List.append_nil, h.rows]

theorem distinct_rows (s : StoreRun) (rows : RowOrder) : (rows.order s.table.entries).NodupKeys :=
  (List.perm_nodupKeys (rows.perm _)).mpr s.table.nodupKeys

theorem Kept.restart (h : Kept s) (rows : RowOrder) : Kept (s.step (.restart rows)) := by
  obtain ⟨wellformed, stored⟩ := hydrate_spec (distinct_rows s rows)
  refine ⟨rfl, wellformed, fun x entry held => ?_, h.rows⟩
  exact AList.mem_lookup_iff.mpr ((rows.perm _).mem_iff.mp (stored x entry held))

theorem Kept.step (h : Kept s) {op : StoreOp} (remembered : s.Remembered op) : Kept (s.step op) := by
  cases op with
  | recordSuccess screenId action => exact h.recordSuccess remembered
  | restart rows => exact h.restart rows

theorem Kept.faithful (h : Kept s) : s.Faithful := by
  intro rows screenId entry held
  have row := (h.restart rows).cached screenId entry held
  have same := h.rows screenId
  change s.table.lookup screenId = some entry at row
  rw [row] at same
  split at same
  case isTrue => contradiction
  case isFalse =>
    obtain rfl := Option.some.inj same
    rfl

/-- The entry of a screen that was forgotten starts anew, and its row is replaced by it. -/
theorem not_faithful (h : Kept s) {op : StoreOp} (forgotten : ¬s.Remembered op) :
    ¬(s.step op).Faithful := by
  cases op with
  | restart => exact absurd trivial forgotten
  | recordSuccess screenId action =>
    obtain ⟨listed, unknown⟩ := Classical.not_imp.mp forgotten
    obtain ⟨memory, -, -, shared⟩ := recordSuccess_spec h screenId action
    have nothing : s.shared.memory.peek screenId = none := by
      rw [peek, AList.lookup_eq_none]
      exact unknown
    intro faithful
    have reversed := faithful ⟨List.reverse, List.reverse_perm⟩ screenId
      { successes := [action], failures := [] }
    have rows : (s.step (.recordSuccess screenId action)).table.entries.reverse =
        (s.table.entries.kerase screenId).reverse ++
          [⟨screenId, { successes := [action], failures := [] }⟩] := by
      rw [StoreRun.table, shared, nothing]
      exact List.reverse_cons
    have distinct := distinct_rows (s.step (.recordSuccess screenId action))
      ⟨List.reverse, List.reverse_perm⟩
    dsimp only at reversed distinct
    rw [rows] at reversed distinct
    have only := reversed (hydrate_last distinct fun same => by cases same)
    rw [history_recordSuccess, if_pos rfl] at only
    have more := congrArg List.length only
    have some := List.length_pos_of_ne_nil ((mem_table_iff h screenId).mp listed)
    rw [List.length_append, List.length_singleton] at more
    change 1 = _ at more
    omega

theorem kept_new : Kept new :=
  ⟨rfl, new_wellformed, fun _ _ held => absurd held.symm (Option.some_ne_none _), fun _ => rfl⟩

end StoreRun

/-- A restart at any point gives back all successes of the screens it retains, if and only if no screen
is recorded again after the memory has forgotten it. -/
theorem memory_survives_restart_iff (ops : List StoreOp) :
    (∀ n, (Run.after StoreRun.step .new (ops.take n)).Faithful) ↔
      Run.Along StoreRun.step StoreRun.Remembered .new ops :=
  Run.always_iff StoreRun.Kept StoreRun.Faithful (fun _ h => h.faithful)
    (fun _ _ h remembered => h.step remembered) (fun _ _ h forgotten => StoreRun.not_faithful h forgotten)
    StoreRun.kept_new ops

/- More screens than the memory holds. -/

def screen (i : Nat) : ScreenId :=
  { digest := #v[i.toUInt8, (i / 256).toUInt8, 0, 0, 0, 0, 0, 0, 0, 0, 0, 0, 0, 0, 0, 0] }

theorem screen_injective {i j : Nat} (small : i < 65536) (small' : j < 65536)
    (same : screen i = screen j) : i = j := by
  have digests := congrArg (fun s : ScreenId => (s.digest.toList.take 2).map UInt8.toNat) same
  have bytes : ∀ k, (screen k).digest.toList.take 2 = [k.toUInt8, (k / 256).toUInt8] := fun _ => rfl
  simp only [bytes, List.map_cons, List.map_nil, List.cons.injEq, Nat.toUInt8_eq,
    UInt8.toNat_ofNat'] at digests
  omega

def visit (i : Nat) : StoreOp := .recordSuccess (screen i) (.tap 1 2 3)

def visits (n : Nat) : List StoreOp := (List.range n).map visit

theorem visits_succ (n : Nat) : visits (n + 1) = visits n ++ [visit n] := by
  rw [visits, List.range_succ, List.map_append]
  rfl

namespace StoreRun

/-- So many screens were visited, each once, and none is forgotten yet. -/
structure Visited (s : StoreRun) (n : Nat) : Prop where
  kept : Kept s
  recorded : s.recorded.map Prod.fst = (List.range n).map screen
  order : ∃ ref : ReferenceMemory, s.shared.memory.Refines ref ∧ ref.order = (List.range n).map screen

theorem history_eq_nil_iff (s : StoreRun) (x : ScreenId) :
    s.history x = [] ↔ x ∉ s.recorded.map Prod.fst := by
  rw [history, List.map_eq_nil_iff, List.filter_eq_nil_iff, List.mem_map, not_exists]
  simp only [decide_eq_true_eq, not_and]

theorem screen_not_visited {n i : Nat} (new : n ≤ i) (small : i < 65536) :
    screen i ∉ (List.range n).map screen := by
  rw [List.mem_map]
  rintro ⟨j, earlier, same⟩
  have below := List.mem_range.mp earlier
  have := screen_injective (by omega) small same
  omega

theorem Visited.recorded_succ {s : StoreRun} {n : Nat} (h : Visited s n) :
    (s.step (visit n)).recorded.map Prod.fst = (List.range (n + 1)).map screen := by
  rw [List.range_succ, List.map_append, ← h.recorded]
  exact List.map_append

theorem Visited.kept_succ {s : StoreRun} {n : Nat} (h : Visited s n) (small : n < 65536) :
    Kept (s.step (visit n)) := by
  refine h.kept.recordSuccess fun listed => ?_
  have some := (mem_table_iff h.kept _).mp listed
  rw [Ne, history_eq_nil_iff, not_not, h.recorded] at some
  exact absurd some (screen_not_visited (Nat.le_refl n) small)

theorem withSuccess_refines {m : Memory} {ref : ReferenceMemory} (h : m.Refines ref)
    (screenId : ScreenId) (action : Action) : ∃ ref' : ReferenceMemory,
      (m.withSuccess screenId action).Refines ref' ∧
        ref'.order = Lru.used ref.order maxEntries screenId := by
  obtain ⟨m', same, after, -⟩ := record_refines h screenId (succeeded action)
  obtain rfl := Option.some.inj (same.symm.trans (Option.some_get
    (recordSuccess_isSome m screenId action)).symm)
  exact ⟨_, after, Lru.order_put ..⟩

theorem Visited.step {s : StoreRun} {n : Nat} (h : Visited s n) (room : n < maxEntries) :
    Visited (s.step (visit n)) (n + 1) := by
  have small : n < 65536 := Nat.lt_trans room (by decide)
  obtain ⟨ref, refined, order⟩ := h.order
  have unknown := screen_not_visited (Nat.le_refl n) small
  obtain ⟨ref', refined', order'⟩ := withSuccess_refines refined (screen n) (.tap 1 2 3)
  refine ⟨h.kept_succ small, h.recorded_succ, ref', refined', ?_⟩
  rw [order', order, Lru.used_of_room, List.erase_of_not_mem unknown, List.range_succ, List.map_append]
  · rfl
  · rw [List.erase_of_not_mem unknown, List.length_map, List.length_range]
    exact room

theorem visited {n : Nat} (room : n ≤ maxEntries) :
    Visited (Run.after step new (visits n)) n := by
  induction n with
  | zero => exact ⟨kept_new, rfl, _, new_refines, rfl⟩
  | succ n ih =>
    rw [visits_succ, Run.after_append]
    exact (ih (Nat.le_of_succ_le room)).step room

/-- With one more screen the first one is forgotten, but it still has a row. -/
theorem Visited.forgets {s : StoreRun} (h : Visited s maxEntries) :
    ¬(s.step (visit maxEntries)).Remembered (visit 0) := by
  have small : maxEntries < 65536 := by decide
  have kept := h.kept_succ small
  obtain ⟨ref, refined, order⟩ := h.order
  have unknown := screen_not_visited (Nat.le_refl maxEntries) small
  obtain ⟨ref', refined', order'⟩ := withSuccess_refines refined (screen maxEntries) (.tap 1 2 3)
  have first : ref.order = screen 0 :: ((List.range 1023).map Nat.succ).map screen := by
    rw [order, maxEntries, List.range_succ_eq_map, List.map_cons]
  refine fun remembered => ?_
  have held := remembered ((mem_table_iff kept _).mpr ?_)
  · change screen 0 ∈ (s.shared.memory.withSuccess _ _).entries at held
    rw [refined'.mem_iff, order', first, Lru.used_of_full, List.mem_append, List.mem_singleton] at held
    · have distinct := ref.distinct
      rw [first, List.nodup_cons] at distinct
      rcases held with again | last
      · exact distinct.1 again
      · exact absurd (screen_injective (by decide) small last) (by decide)
    · rw [← first, order, List.length_map, List.length_range]
    · rwa [← first, order]
  · rw [Ne, history_eq_nil_iff, not_not, h.recorded_succ]
    exact List.mem_map.mpr ⟨0, List.mem_range.mpr (by decide), rfl⟩

theorem Visited.loses {s : StoreRun} (h : Visited s maxEntries) :
    ¬(Run.after StoreRun.step s [visit maxEntries, visit 0]).Faithful := by
  rw [Run.after, Run.after, Run.after]
  exact not_faithful (h.kept_succ (by decide)) h.forgets

end StoreRun

/-- After one screen more than the memory holds, the first is visited again: what was recorded for it
before is lost. -/
theorem forgotten_screen_starts_anew :
    ¬(Run.after StoreRun.step .new (visits maxEntries ++ [visit maxEntries, visit 0])).Faithful := by
  rw [Run.after_append]
  exact (StoreRun.visited (Nat.le_refl maxEntries)).loses

end HidConnect.Kernel

import HidConnect.Kernel.Memory

/-! The memory of the kernel is an LRU map: its list and its entries hold the same screens. -/
namespace HidConnect.Kernel
open Memory

/-- The reference that the memory is compared with. -/
abbrev ReferenceMemory := Lru ScreenId ActionSequence maxEntries

namespace Memory

/-- The list is the reference's order, and the entries are its values. -/
structure Refines (m : Memory) (ref : ReferenceMemory) : Prop where
  order : m.lru = ref.order
  values : ∀ screenId, m.entries.lookup screenId = ref.value screenId

theorem new_refines : new.Refines Lru.empty := ⟨rfl, fun _ => rfl⟩

theorem touchLru_lru (m : Memory) (screenId : ScreenId) :
    (m.touchLru screenId).lru = m.lru.erase screenId ++ [screenId] := by
  rw [List.erase_eq_eraseIdx]
  unfold touchLru
  cases m.lru.idxOf? screenId <;> rfl

theorem keys_perm {entries : AList fun _ : ScreenId => ActionSequence} {lru : List ScreenId}
    (distinct : lru.Nodup) (same : ∀ screenId, screenId ∈ entries ↔ screenId ∈ lru) :
    lru.Perm entries.keys := by
  rw [List.perm_ext_iff_of_nodup distinct entries.keys_nodup]
  intro screenId
  rw [← same, AList.mem_keys]

theorem Refines.mem_iff {m : Memory} {ref : ReferenceMemory} (h : m.Refines ref) (screenId : ScreenId) :
    screenId ∈ m.entries ↔ screenId ∈ ref.order := by
  rw [← AList.lookup_isSome, h.values, ref.held]

theorem Refines.perm {m : Memory} {ref : ReferenceMemory} (h : m.Refines ref) :
    m.lru.Perm m.entries.keys := by
  rw [h.order]
  exact keys_perm ref.distinct h.mem_iff

/- The eviction loop. -/

theorem evictLoop_of_le {m : Memory} (room : m.len ≤ maxEntries) (turns : Nat) :
    evictLoop (turns + 1) m = some m := by
  rw [evictLoop, if_neg (Nat.not_lt.mpr room)]

/-- Each turn takes at least one screen off a list that is not empty. -/
theorem length_popVictim (lru : List ScreenId) (entries : AList fun _ : ScreenId => ActionSequence) :
    (popVictim lru entries).1.length ≤ lru.length - 1 := by
  induction lru with
  | nil => exact Nat.le_refl 0
  | cons victim rest ih =>
    rw [popVictim]
    split
    · exact Nat.le_refl _
    · exact Nat.le_trans ih (Nat.sub_le _ _)

theorem evictLoop_ends {turns : Nat} {m : Memory} (enough : m.lru.length < turns) :
    (evictLoop turns m).isSome = true := by
  induction turns generalizing m with
  | zero => contradiction
  | succ turns ih =>
    have shorter := length_popVictim m.lru m.entries
    unfold evictLoop
    dsimp only
    split
    case isFalse => rfl
    case isTrue =>
      split
      case isTrue => rfl
      case isFalse more =>
        cases lru : m.lru with
        | nil =>
          -- an empty list ends the loop, unless the entries are few enough already
          refine absurd ⟨?_, ?_⟩ more
          · rwa [lru]
          · rw [lru]
            rfl
        | cons first rest =>
          rw [lru] at shorter enough
          rw [← lru]
          refine ih ?_
          dsimp only
          rw [lru]
          exact Nat.lt_of_le_of_lt shorter (Nat.lt_of_succ_lt_succ enough)

theorem maybeEvict_full {m : Memory} {first : ScreenId} {rest : List ScreenId}
    (full : m.len = maxEntries + 1) (lru : m.lru = first :: rest) (held : first ∈ m.entries) :
    m.maybeEvict = some { m with lru := rest, entries := m.entries.erase first } := by
  have popped : popVictim m.lru m.entries = (rest, m.entries.erase first) := by
    rw [lru, popVictim, if_pos held]
  have fewer : len { m with lru := rest, entries := m.entries.erase first } = maxEntries := by
    change (m.entries.erase first).keys.length = maxEntries
    have one := List.length_erase_of_mem (AList.mem_keys.mp held)
    unfold len at full
    rw [AList.keys_erase]
    omega
  unfold maybeEvict evictLoop
  rw [if_pos (by omega), popped, lru, List.length_cons]
  dsimp only
  rw [if_neg fun h => absurd h.1 (Nat.not_lt.mpr (Nat.le_of_eq fewer))]
  exact evictLoop_of_le (Nat.le_of_eq fewer) _

/- A screen whose entry is new or changed, as the list and the entries stand before the eviction. -/

section Changed
variable {m : Memory} {ref : ReferenceMemory} {screenId : ScreenId} {entry : ActionSequence}

theorem mem_of_values
    (values : ∀ x, m.entries.lookup x = if x = screenId then some entry else ref.value x)
    (x : ScreenId) : x ∈ m.entries ↔ x ∈ ref.order ∨ x = screenId := by
  rw [← AList.lookup_isSome, values]
  by_cases same : x = screenId
  · simp [same]
  · rw [if_neg same, ref.held]
    exact (or_iff_left same).symm

theorem mem_of_lru (lru : m.lru = ref.order.erase screenId ++ [screenId]) (x : ScreenId) :
    x ∈ m.lru ↔ x ∈ ref.order ∨ x = screenId := by
  rw [lru, List.mem_append, List.mem_singleton]
  by_cases same : x = screenId
  · simp [same]
  · rw [List.mem_erase_of_ne same]

theorem len_of_changed (lru : m.lru = ref.order.erase screenId ++ [screenId])
    (values : ∀ x, m.entries.lookup x = if x = screenId then some entry else ref.value x) :
    m.len = (ref.order.erase screenId).length + 1 := by
  have distinct : m.lru.Nodup := by
    rw [lru]
    refine (ref.distinct.erase screenId).append (List.nodup_singleton screenId) ?_
    rw [List.disjoint_singleton]
    exact ref.distinct.not_mem_erase
  have same : m.lru.Perm m.entries.keys :=
    keys_perm distinct fun x => (mem_of_values values x).trans (mem_of_lru lru x).symm
  rw [len, ← same.length_eq, lru, List.length_append, List.length_singleton]

theorem evict_refines (lru : m.lru = ref.order.erase screenId ++ [screenId])
    (values : ∀ x, m.entries.lookup x = if x = screenId then some entry else ref.value x) :
    ∃ m', m.maybeEvict = some m' ∧ m'.Refines (ref.put screenId entry) ∧
      m'.hitCount = m.hitCount ∧ m'.missCount = m.missCount := by
  have len := len_of_changed lru values
  by_cases room : (ref.order.erase screenId).length < maxEntries
  · refine ⟨m, evictLoop_of_le (by omega) _, ⟨?_, fun x => ?_⟩, rfl, rfl⟩
    · rw [lru, Lru.order_put, Lru.used_of_room room]
    · rw [values, Lru.value_put_of_room room]
  · have other : screenId ∉ ref.order := by
      intro known
      have := List.length_erase_of_mem known
      have := List.length_pos_of_mem known
      have := ref.bounded
      omega
    rw [List.erase_of_not_mem other] at lru len room
    have full : ref.order.length = maxEntries := Nat.le_antisymm ref.bounded (Nat.le_of_not_lt room)
    obtain ⟨first, rest, order⟩ : ∃ first rest, ref.order = first :: rest :=
      List.exists_cons_of_length_pos (by rw [full]; decide)
    have held : first ∈ m.entries := (mem_of_values values first).mpr (.inl (by simp [order]))
    refine ⟨_, maybeEvict_full (by rw [len, full]) (by rw [lru, order]; rfl) held, ⟨?_, fun x => ?_⟩,
      rfl, rfl⟩
    · rw [Lru.order_put, order, Lru.used_of_full (order ▸ full) (order ▸ other)]
      rfl
    · rw [Lru.value_put_of_full order full other]
      dsimp only
      split
      case isTrue evicted => rw [evicted, AList.lookup_erase]
      case isFalse kept => rw [AList.lookup_erase_ne kept, values]

end Changed

/- The operations. -/

theorem lookup_refines {m : Memory} {ref : ReferenceMemory} (h : m.Refines ref) (screenId : ScreenId) :
    (m.lookup screenId).1 = ref.value screenId ∧
      (m.lookup screenId).2.Refines (ref.step (.use screenId)) := by
  unfold lookup Lru.step
  dsimp only
  split
  case isTrue known =>
    rw [h.values]
    refine ⟨rfl, ?_⟩
    have listed : screenId ∈ ref.order := (h.mem_iff screenId).mp known
    obtain ⟨entry, stored⟩ := Option.isSome_iff_exists.mp ((ref.held screenId).mpr listed)
    have room : (ref.order.erase screenId).length < maxEntries := by
      have := List.length_erase_of_mem listed
      have := List.length_pos_of_mem listed
      have := ref.bounded
      omega
    rw [stored]
    dsimp only
    constructor
    · rw [touchLru_lru, Lru.order_put, Lru.used_of_room room, ← h.order]
    · intro x
      rw [Lru.value_put_of_room room, ← h.values]
      split
      case isTrue same =>
        rw [same, ← stored, ← h.values]
        rfl
      case isFalse => rfl
  case isFalse unknown =>
    have missing : ref.value screenId = none :=
      Lru.value_eq_none fun listed => unknown ((h.mem_iff screenId).mpr listed)
    rw [missing]
    exact ⟨rfl, h.order, h.values⟩

theorem lookup_counts (m : Memory) (screenId : ScreenId) :
    (m.lookup screenId).2.hitCount = m.hitCount + (if (m.lookup screenId).1.isSome then 1 else 0) ∧
      (m.lookup screenId).2.hitCount + (m.lookup screenId).2.missCount =
        m.hitCount + m.missCount + 1 := by
  unfold lookup
  split
  case isTrue known =>
    rw [AList.lookup_isSome.mpr known]
    exact ⟨rfl, Nat.add_right_comm ..⟩
  case isFalse => exact ⟨rfl, rfl⟩

/-- A success or a failure is added to the entry of its screen, which is used by it. -/
theorem record_refines {m : Memory} {ref : ReferenceMemory} (h : m.Refines ref) (screenId : ScreenId)
    (f : ActionSequence → ActionSequence) :
    ∃ m', ((m.changeEntry screenId f).touchLru screenId).maybeEvict = some m' ∧
      m'.Refines (ref.step (.change screenId fun entry => f (entry.getD .blank))) ∧
      m'.hitCount = m.hitCount ∧ m'.missCount = m.missCount := by
  refine evict_refines ?_ ?_
  · rw [touchLru_lru, ← h.order]
    rfl
  · intro x
    change (m.entries.insert screenId _).lookup x = _
    rw [← h.values]
    split
    case isTrue same => rw [same, AList.lookup_insert]
    case isFalse other => rw [AList.lookup_insert_ne other, h.values]

/-- A run never gets stuck in the eviction loop, and answers as the reference does. -/
theorem run_refines {m : Memory} {ref : ReferenceMemory} (h : m.Refines ref) (ops : List MemoryOp) :
    ∃ answers m', m.run ops = some (answers, m') ∧
      answers = ref.answers (ops.map MemoryOp.asLru) ∧
      m'.Refines (Run.after Lru.step ref (ops.map MemoryOp.asLru)) ∧
      m'.hitCount = m.hitCount + answers.countP Option.isSome ∧
      m'.hitCount + m'.missCount = m.hitCount + m.missCount + ops.countP MemoryOp.isLookup := by
  induction ops generalizing m ref with
  | nil => exact ⟨[], m, rfl, rfl, h, rfl, rfl⟩
  | cons op rest ih =>
    rw [List.countP_cons, List.map_cons]
    cases op with
    | lookup screenId =>
      rw [MemoryOp.asLru, Lru.answers, Run.after]
      obtain ⟨answer, refined⟩ := lookup_refines h screenId
      obtain ⟨hits, total⟩ := lookup_counts m screenId
      obtain ⟨answers, m', ran, same, kept, hit, count⟩ := ih refined
      refine ⟨(m.lookup screenId).1 :: answers, m', ?_, ?_, kept, ?_, ?_⟩
      · rw [Memory.run, ran, Option.map_some]
      · rw [answer, same]
      · rw [hit, hits, List.countP_cons]
        omega
      · rw [count, total, MemoryOp.isLookup, if_pos rfl]
        omega
    | recordSuccess screenId action =>
      rw [MemoryOp.asLru, Lru.answers, Run.after]
      obtain ⟨next, evicted, refined, hits, misses⟩ := record_refines h screenId (succeeded action)
      obtain ⟨answers, m', ran, same, kept, hit, count⟩ := ih refined
      rw [hits] at hit count
      rw [misses] at count
      refine ⟨answers, m', ?_, same, kept, hit, count⟩
      rw [Memory.run, recordSuccess, evicted, Option.bind_some, ran]
    | recordFailure screenId action reason =>
      rw [MemoryOp.asLru, Lru.answers, Run.after]
      obtain ⟨next, evicted, refined, hits, misses⟩ := record_refines h screenId (failed action reason)
      obtain ⟨answers, m', ran, same, kept, hit, count⟩ := ih refined
      rw [hits] at hit count
      rw [misses] at count
      refine ⟨answers, m', ?_, same, kept, hit, count⟩
      rw [Memory.run, recordFailure, evicted, Option.bind_some, ran]

end Memory

/-- The memory is an LRU cache: eviction always ends, and every run of operations behaves as the
reference, which forgets the screen whose last use is longest ago. -/
theorem memory_is_lru :
    (∀ m : Memory, m.maybeEvict.isSome = true) ∧
    ∀ ops : List MemoryOp, ∃ answers m, Memory.new.run ops = some (answers, m) ∧
      m.lru.Nodup ∧ m.lru.Perm m.entries.keys ∧ m.len ≤ maxEntries ∧
      answers = (Lru.empty : ReferenceMemory).answers (ops.map MemoryOp.asLru) ∧
      m.Refines (Run.after Lru.step Lru.empty (ops.map MemoryOp.asLru)) ∧
      m.hitCount = answers.countP Option.isSome ∧
      m.hitCount + m.missCount = ops.countP MemoryOp.isLookup := by
  constructor
  · intro m
    exact evictLoop_ends (Nat.lt_succ_self _)
  · intro ops
    obtain ⟨answers, m, ran, same, refined, hits, count⟩ := run_refines new_refines ops
    refine ⟨answers, m, ran, ?_, refined.perm, ?_, same, refined, ?_, ?_⟩
    · rw [refined.order]
      exact Lru.distinct _
    · unfold len
      rw [← refined.perm.length_eq, refined.order]
      exact Lru.bounded _
    · rw [hits]
      exact Nat.zero_add _
    · rw [count]
      exact Nat.zero_add _

end HidConnect.Kernel

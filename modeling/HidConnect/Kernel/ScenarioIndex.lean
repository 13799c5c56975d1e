import HidConnect.Kernel.ScenarioLibrary

/-! When the index of the scenario library is exact. -/
namespace HidConnect.Kernel
namespace ScenarioLibrary

variable {lib lib' : ScenarioLibrary}

/- One entry is replaced by another of the same plan. -/

structure Similar (lib lib' : ScenarioLibrary) : Prop where
  index : lib'.planToScenario = lib.planToScenario
  size : lib'.entries.size = lib.entries.size
  plans : ∀ id : ScenarioId, (lib'.entries[id]?).map (fun e => (e.id, e.plan)) =
    (lib.entries[id]?).map fun e => (e.id, e.plan)

theorem Similar.refl (lib : ScenarioLibrary) : Similar lib lib := ⟨rfl, rfl, fun _ => rfl⟩

theorem similar_insert {id : ScenarioId} {entry entry' : ScenarioEntry}
    (held : lib.entries[id]? = some entry) (sameId : entry'.id = entry.id)
    (samePlan : entry'.plan = entry.plan) :
    Similar lib { lib with entries := lib.entries.insert id entry' } := by
  have known : id ∈ lib.entries := by
    rw [Std.TreeMap.mem_iff_isSome_getElem?, held]
    rfl
  refine ⟨rfl, ?_, fun other => ?_⟩
  · rw [Std.TreeMap.size_insert, if_pos (Std.TreeMap.mem_iff_contains.mp known)]
  · dsimp only
    rw [Std.TreeMap.getElem?_insert]
    split
    case isTrue same =>
      obtain rfl := Std.LawfulEqCmp.eq_of_compare same
      rw [held, Option.map_some, Option.map_some, sameId, samePlan]
    case isFalse => rfl

theorem similar_updateOutcome (lib : ScenarioLibrary) (planId : PlanId) (success : Bool) (nowMs : Nat) :
    Similar lib (lib.updateOutcome planId success nowMs) := by
  unfold updateOutcome
  split
  case h_1 => exact .refl lib
  case h_2 =>
    split
    case h_1 => exact .refl lib
    case h_2 held => exact similar_insert held rfl rfl

theorem similar_setKind (lib : ScenarioLibrary) (id : ScenarioId) (kind : ScenarioKind) :
    Similar lib (lib.setKind id kind) := by
  unfold setKind
  split
  case h_1 held => exact similar_insert held rfl rfl
  case h_2 => exact .refl lib

theorem similar_promoteIfReady (lib : ScenarioLibrary) (planId : PlanId) :
    Similar lib (lib.promoteIfReady planId).2 := by
  unfold promoteIfReady
  split
  case h_1 => exact .refl lib
  case h_2 =>
    split
    case isTrue => exact similar_setKind ..
    case isFalse => exact .refl lib

theorem similar_demote (lib : ScenarioLibrary) (id : ScenarioId) : Similar lib (lib.demote id).2 := by
  unfold demote
  split
  case h_1 =>
    split
    case isTrue => exact similar_setKind ..
    case isFalse => exact .refl lib
  case h_2 => exact .refl lib

theorem Similar.entry (same : Similar lib lib') {id : ScenarioId} {entry : ScenarioEntry}
    (held : lib.entries[id]? = some entry) :
    ∃ entry', lib'.entries[id]? = some entry' ∧ entry'.id = entry.id ∧ entry'.plan = entry.plan := by
  have plans := same.plans id
  rw [held, Option.map_some, Option.map_eq_some_iff] at plans
  obtain ⟨entry', held', both⟩ := plans
  exact ⟨entry', held', congrArg Prod.fst both, congrArg Prod.snd both⟩

theorem Similar.symm (same : Similar lib lib') : Similar lib' lib :=
  ⟨same.index.symm, same.size.symm, fun id => (same.plans id).symm⟩

theorem Live.similar {planId : PlanId} (live : Live lib planId) (same : Similar lib lib') :
    Live lib' planId := by
  obtain ⟨id, entry, held, plan⟩ := live
  obtain ⟨entry', held', -, samePlan⟩ := same.entry held
  exact ⟨id, entry', held', by rw [samePlan, plan]⟩

theorem Exact.similar (exact' : Exact lib) (same : Similar lib lib') : Exact lib' where
  bounded := same.size ▸ exact'.bounded
  keys planId := by
    rw [same.index, exact'.keys]
    exact ⟨fun live => live.similar same, fun live => live.similar same.symm⟩
  mapped planId id listed := by
    rw [same.index] at listed
    obtain ⟨entry, held, plan⟩ := exact'.mapped planId id listed
    obtain ⟨entry', held', -, samePlan⟩ := same.entry held
    exact ⟨entry', held', by rw [samePlan, plan]⟩

/- What an exact index gives. -/

theorem Exact.lookup (h : Exact lib) {planId : PlanId} (live : Live lib planId) :
    ∃ id : ScenarioId, ∃ entry : ScenarioEntry, lib.planToScenario[planId]? = some id ∧
      lib.entries[id]? = some entry ∧ entry.plan.id = planId := by
  have known := (h.keys planId).mpr live
  rw [Std.TreeMap.mem_iff_isSome_getElem?, Option.isSome_iff_exists] at known
  obtain ⟨id, listed⟩ := known
  obtain ⟨entry, held, plan⟩ := h.mapped planId id listed
  exact ⟨id, entry, listed, held, plan⟩

theorem Exact.indexed (h : Exact lib) : Indexed lib where
  toExact := h
  found planId := by
    constructor
    · intro found
      obtain ⟨entry, found⟩ := Option.isSome_iff_exists.mp found
      obtain ⟨id, listed, held⟩ := Option.bind_eq_some_iff.mp found
      obtain ⟨entry', held', plan⟩ := h.mapped planId id listed
      exact ⟨id, entry', held', plan⟩
    · intro live
      obtain ⟨id, entry, listed, held, -⟩ := h.lookup live
      rw [ScenarioLibrary.lookup, listed, Option.bind_some, held]
      rfl
  counts planId live success nowMs := by
    obtain ⟨id, entry, listed, held, -⟩ := h.lookup live
    have before : lib.lookup planId = some entry := by
      rw [ScenarioLibrary.lookup, listed, Option.bind_some, held]
    have after : (lib.updateOutcome planId success nowMs).lookup planId =
        some (counted entry success nowMs) := by
      unfold updateOutcome ScenarioLibrary.lookup
      rw [listed]
      dsimp only
      rw [held]
      dsimp only
      rw [listed, Option.bind_some, Std.TreeMap.getElem?_insert_self]
    rw [before, after]
    rfl

/- A new entry. -/

theorem getElem?_of_oldest {id : ScenarioId} {entry : ScenarioEntry}
    (oldest : lib.oldest = some (id, entry)) : lib.entries[id]? = some entry :=
  Std.TreeMap.mem_toList_iff_getElem?_eq_some.mp (List.argmin_mem oldest)

theorem oldest_of_size (held : 0 < lib.entries.size) : ∃ entry, lib.oldest = some entry := by
  rw [← Option.ne_none_iff_exists', oldest, Ne, List.argmin_eq_none]
  intro nothing
  rw [← Std.TreeMap.length_toList, nothing] at held
  exact Nat.not_lt_zero _ held

theorem evict_planToScenario (lib : ScenarioLibrary) :
    lib.evict.planToScenario = lib.planToScenario := by
  unfold evict
  split
  · split <;> rfl
  · rfl

theorem evict_cases (lib : ScenarioLibrary) :
    lib.entries.size < maxLibrarySize ∧ lib.evict = lib ∨
      maxLibrarySize ≤ lib.entries.size ∧ ∃ id entry, lib.oldest = some (id, entry) ∧
        lib.evict.entries = lib.entries.erase id := by
  unfold evict
  split
  case isFalse room => exact .inl ⟨Nat.lt_of_not_le room, rfl⟩
  case isTrue full =>
    obtain ⟨⟨id, entry⟩, oldest⟩ := oldest_of_size (Nat.lt_of_lt_of_le (by decide) full)
    refine .inr ⟨full, id, entry, oldest, ?_⟩
    rw [oldest]

theorem size_evict (bounded : lib.entries.size ≤ maxLibrarySize) :
    lib.evict.entries.size < maxLibrarySize := by
  rcases evict_cases lib with ⟨room, same⟩ | ⟨full, id, entry, oldest, erased⟩
  · rw [same]
    exact room
  · have known : lib.entries.contains id = true := by
      rw [Std.TreeMap.contains_eq_isSome_getElem?, getElem?_of_oldest oldest]
      rfl
    rw [erased, Std.TreeMap.size_erase, if_pos known]
    have := Nat.lt_of_lt_of_le (by decide : 0 < maxLibrarySize) full
    omega

theorem size_add (bounded : lib.entries.size ≤ maxLibrarySize) (id : ScenarioId) (kind : ScenarioKind)
    (plan : StoredPlan) (nowMs : Nat) :
    (lib.add id kind plan nowMs).entries.size ≤ maxLibrarySize :=
  Nat.le_trans Std.TreeMap.size_insert_le (size_evict bounded)

theorem getElem?_evict {id : ScenarioId} {entry : ScenarioEntry}
    (held : lib.evict.entries[id]? = some entry) : lib.entries[id]? = some entry := by
  rcases evict_cases lib with ⟨-, same⟩ | ⟨-, other, -, -, erased⟩
  · rwa [same] at held
  · rw [erased, Std.TreeMap.getElem?_erase] at held
    split at held
    case isTrue => contradiction
    case isFalse => exact held

theorem add_entries (lib : ScenarioLibrary) (id : ScenarioId) (kind : ScenarioKind) (plan : StoredPlan)
    (nowMs : Nat) : ∃ entry : ScenarioEntry, entry.id = id ∧ entry.plan = plan ∧
      (lib.add id kind plan nowMs).entries[id]? = some entry ∧
      ∀ other, other ≠ id →
        (lib.add id kind plan nowMs).entries[other]? = lib.evict.entries[other]? := by
  refine ⟨_, rfl, rfl, Std.TreeMap.getElem?_insert_self, fun other ne => ?_⟩
  unfold add
  dsimp only
  rw [Std.TreeMap.getElem?_insert, if_neg fun same => ne (Std.LawfulEqCmp.eq_of_compare same).symm]

theorem add_planToScenario (lib : ScenarioLibrary) (id : ScenarioId) (kind : ScenarioKind)
    (plan : StoredPlan) (nowMs : Nat) (planId : PlanId) :
    (lib.add id kind plan nowMs).planToScenario[planId]? =
      if planId = plan.id then some id else lib.planToScenario[planId]? := by
  unfold add
  dsimp only
  rw [evict_planToScenario, Std.TreeMap.getElem?_insert]
  split
  case isTrue same => rw [if_pos (Std.LawfulEqCmp.eq_of_compare same).symm]
  case isFalse other =>
    rw [if_neg]
    rintro rfl
    exact other Std.ReflCmp.compare_self

/-- The entry of a plan other than the new one is still there after a harmless eviction. -/
theorem Exact.survives (h : Exact lib) {plan : StoredPlan}
    (harmless : maxLibrarySize ≤ lib.entries.size → ∀ id entry, lib.oldest = some (id, entry) →
      lib.planToScenario[entry.plan.id]? = some id → entry.plan.id = plan.id)
    {planId : PlanId} (other : planId ≠ plan.id) {id : ScenarioId}
    (listed : lib.planToScenario[planId]? = some id) :
    ∃ entry : ScenarioEntry, lib.evict.entries[id]? = some entry ∧ entry.plan.id = planId := by
  obtain ⟨entry, held, same⟩ := h.mapped planId id listed
  refine ⟨entry, ?_, same⟩
  rcases evict_cases lib with ⟨-, kept⟩ | ⟨full, id', entry', oldest, erased⟩
  · rwa [kept]
  · rw [erased, Std.TreeMap.getElem?_erase, if_neg, held]
    intro gone
    obtain rfl := Std.LawfulEqCmp.eq_of_compare gone
    obtain rfl : entry = entry' := Option.some.inj (held.symm.trans (getElem?_of_oldest oldest))
    have replaced := harmless full id' entry oldest (same ▸ listed)
    exact other (same.symm.trans replaced)

theorem Exact.add (h : Exact lib) {id : ScenarioId} (unused : lib.entries[id]? = none)
    {plan : StoredPlan} (harmless : maxLibrarySize ≤ lib.entries.size → ∀ id entry,
      lib.oldest = some (id, entry) → lib.planToScenario[entry.plan.id]? = some id →
        entry.plan.id = plan.id) (kind : ScenarioKind) (nowMs : Nat) :
    Exact (lib.add id kind plan nowMs) := by
  obtain ⟨new, -, newPlan, newHeld, others⟩ := add_entries lib id kind plan nowMs
  have index := add_planToScenario lib id kind plan nowMs
  have mapped : ∀ planId i, (lib.add id kind plan nowMs).planToScenario[planId]? = some i →
      ∃ entry : ScenarioEntry, (lib.add id kind plan nowMs).entries[i]? = some entry ∧
        entry.plan.id = planId := by
    intro planId i listed
    rw [index] at listed
    split at listed
    case isTrue same =>
      obtain rfl := Option.some.inj listed
      exact ⟨new, newHeld, by rw [newPlan, same]⟩
    case isFalse other =>
      obtain ⟨entry, held, same⟩ := h.survives harmless other listed
      have different : i ≠ id := by
        rintro rfl
        rw [getElem?_evict held] at unused
        contradiction
      exact ⟨entry, by rw [others i different, held], same⟩
  refine ⟨size_add h.bounded .., fun planId => ⟨fun known => ?_, fun live => ?_⟩, mapped⟩
  · rw [Std.TreeMap.mem_iff_isSome_getElem?, Option.isSome_iff_exists] at known
    obtain ⟨i, listed⟩ := known
    exact ⟨i, mapped planId i listed⟩
  · obtain ⟨i, entry, held, same⟩ := live
    rw [Std.TreeMap.mem_iff_isSome_getElem?, index]
    split
    case isTrue => rfl
    case isFalse other =>
      have different : i ≠ id := by
        rintro rfl
        obtain rfl := Option.some.inj (newHeld.symm.trans held)
        exact other (by rw [← same, newPlan])
      rw [others i different] at held
      have before := (h.keys planId).mpr ⟨i, entry, getElem?_evict held, same⟩
      rwa [Std.TreeMap.mem_iff_isSome_getElem?] at before

/-- Where the entry that gives way is the one by which another plan is found, the index keeps an id
that leads nowhere. -/
theorem not_exact_add {id oldestId : ScenarioId} {entry : ScenarioEntry}
    (full : maxLibrarySize ≤ lib.entries.size) (oldest : lib.oldest = some (oldestId, entry))
    (listed : lib.planToScenario[entry.plan.id]? = some oldestId) {plan : StoredPlan}
    (other : entry.plan.id ≠ plan.id) (unused : lib.entries[id]? = none) (kind : ScenarioKind)
    (nowMs : Nat) : ¬Exact (lib.add id kind plan nowMs) := by
  intro h
  have still : (lib.add id kind plan nowMs).planToScenario[entry.plan.id]? = some oldestId := by
    rw [add_planToScenario, if_neg other, listed]
  obtain ⟨entry', held, -⟩ := h.mapped _ _ still
  obtain ⟨new, -, -, -, others⟩ := add_entries lib id kind plan nowMs
  have different : oldestId ≠ id := by
    rintro rfl
    rw [getElem?_of_oldest oldest] at unused
    contradiction
  rw [others oldestId different] at held
  rcases evict_cases lib with ⟨room, -⟩ | ⟨-, gone, entry'', first, erased⟩
  · exact absurd full (Nat.not_le.mpr room)
  · obtain ⟨rfl, rfl⟩ := Prod.mk.inj (Option.some.inj (oldest.symm.trans first))
    rw [erased, Std.TreeMap.getElem?_erase_self] at held
    contradiction

end ScenarioLibrary

namespace Scenarios
open ScenarioLibrary
variable {s : Scenarios}

/-- Ids are taken from the counter, and every entry is stored under its own. -/
structure Fresh (s : Scenarios) : Prop where
  own : ∀ (id : ScenarioId) (entry : ScenarioEntry), s.library.entries[id]? = some entry → entry.id = id
  below : ∀ (id : ScenarioId) (entry : ScenarioEntry), s.library.entries[id]? = some entry →
    id < s.counter

theorem Fresh.unused (fresh : Fresh s) : s.library.entries[s.counter]? = none := by
  rw [Option.eq_none_iff_forall_ne_some]
  intro entry held
  exact Nat.lt_irrefl _ (fresh.below _ entry held)

theorem Fresh.similar (fresh : Fresh s) {lib : ScenarioLibrary} (same : Similar s.library lib)
    {counter : Nat} (later : s.counter ≤ counter) : Fresh { counter, library := lib } where
  own id entry held := by
    obtain ⟨entry', held', sameId, -⟩ := same.symm.entry held
    rw [← sameId, fresh.own id entry' held']
  below id entry held := by
    obtain ⟨entry', held', -⟩ := same.symm.entry held
    exact Nat.lt_of_lt_of_le (fresh.below id entry' held') later

theorem Fresh.add (fresh : Fresh s) (kind : ScenarioKind) (plan : StoredPlan) (nowMs : Nat) :
    Fresh (s.step (.add kind plan nowMs)) := by
  obtain ⟨new, newId, -, newHeld, others⟩ := add_entries s.library s.counter kind plan nowMs
  have either : ∀ (id : ScenarioId) (entry : ScenarioEntry),
      (s.step (.add kind plan nowMs)).library.entries[id]? = some entry →
        id = s.counter ∧ entry = new ∨ s.library.entries[id]? = some entry := by
    intro id entry held
    by_cases same : id = s.counter
    · subst same
      exact .inl ⟨rfl, Option.some.inj (held.symm.trans newHeld)⟩
    · exact .inr (getElem?_evict ((others id same).symm.trans held))
  constructor
  · intro id entry held
    rcases either id entry held with ⟨rfl, rfl⟩ | before
    · exact newId
    · exact fresh.own id entry before
  · intro id entry held
    rcases either id entry held with ⟨rfl, -⟩ | before
    · exact Nat.lt_succ_self _
    · exact Nat.lt_succ_of_lt (fresh.below id entry before)

/-- All operations but `add` leave the ids and the plans of the entries. -/
theorem step_cases (s : Scenarios) (op : ScenarioOp) :
    (∃ kind plan nowMs, op = .add kind plan nowMs) ∨
      s.Harmless op ∧ Similar s.library (s.step op).library ∧ s.counter ≤ (s.step op).counter := by
  cases op with
  | add kind plan nowMs => exact .inl ⟨kind, plan, nowMs, rfl⟩
  | recordSuccess planId nowMs =>
    exact .inr ⟨trivial, similar_updateOutcome .., Nat.le_refl _⟩
  | recordMiss planId nowMs => exact .inr ⟨trivial, similar_updateOutcome .., Nat.le_refl _⟩
  | promoteIfReady planId => exact .inr ⟨trivial, similar_promoteIfReady .., Nat.le_refl _⟩
  | demote id => exact .inr ⟨trivial, similar_demote .., Nat.le_refl _⟩
  | elsewhere => exact .inr ⟨trivial, .refl _, Nat.le_succ _⟩

theorem Fresh.step (fresh : Fresh s) (op : ScenarioOp) : Fresh (s.step op) := by
  rcases step_cases s op with ⟨kind, plan, nowMs, rfl⟩ | ⟨-, same, later⟩
  · exact fresh.add kind plan nowMs
  · exact fresh.similar same later

theorem bounded_step (bounded : s.library.entries.size ≤ maxLibrarySize) (op : ScenarioOp) :
    (s.step op).library.entries.size ≤ maxLibrarySize := by
  rcases step_cases s op with ⟨kind, plan, nowMs, rfl⟩ | ⟨-, same, -⟩
  · exact size_add bounded ..
  · rwa [same.size]

theorem bounded_after (bounded : s.library.entries.size ≤ maxLibrarySize) (ops : List ScenarioOp) :
    (Run.after step s ops).library.entries.size ≤ maxLibrarySize :=
  Run.preserved (fun s : Scenarios => s.library.entries.size ≤ maxLibrarySize)
    (fun _ op h => bounded_step h op) bounded ops

theorem exact_step (h : Exact s.library) (fresh : Fresh s) {op : ScenarioOp} (harmless : s.Harmless op) :
    Exact (s.step op).library := by
  rcases step_cases s op with ⟨kind, plan, nowMs, rfl⟩ | ⟨-, same, -⟩
  · exact h.add fresh.unused harmless kind nowMs
  · exact h.similar same

theorem not_exact_step (fresh : Fresh s) {op : ScenarioOp} (harm : ¬s.Harmless op) :
    ¬Exact (s.step op).library := by
  rcases step_cases s op with ⟨kind, plan, nowMs, rfl⟩ | ⟨harmless, -⟩
  · simp only [Harmless, Classical.not_imp, not_forall] at harm
    obtain ⟨full, id, entry, oldest, listed, other⟩ := harm
    exact not_exact_add full oldest listed other fresh.unused kind nowMs
  · exact absurd harmless harm

theorem mem_step {planId : PlanId} (known : planId ∈ s.library.planToScenario) (op : ScenarioOp) :
    planId ∈ (s.step op).library.planToScenario := by
  rcases step_cases s op with ⟨kind, plan, nowMs, rfl⟩ | ⟨-, same, -⟩
  · rw [Std.TreeMap.mem_iff_isSome_getElem?] at known ⊢
    refine Eq.trans (congrArg Option.isSome (add_planToScenario ..)) ?_
    split
    case isTrue => rfl
    case isFalse => exact known
  · rwa [same.index]

theorem live_step (before : Exact s.library) {op : ScenarioOp} (after : Exact (s.step op).library)
    {planId : PlanId} (live : Live s.library planId) : Live (s.step op).library planId :=
  (after.keys planId).mp (mem_step ((before.keys planId).mpr live) op)

theorem live_add (s : Scenarios) (kind : ScenarioKind) (plan : StoredPlan) (nowMs : Nat) :
    Live (s.step (.add kind plan nowMs)).library plan.id := by
  obtain ⟨entry, -, same, held, -⟩ := add_entries s.library s.counter kind plan nowMs
  exact ⟨s.counter, entry, held, by rw [same]⟩

theorem exact_new (counter : Nat) : Exact (new counter).library where
  bounded := Nat.zero_le _
  keys planId := by
    refine iff_of_false Std.TreeMap.not_mem_emptyc ?_
    rintro ⟨id, entry, held, -⟩
    cases Std.TreeMap.getElem?_emptyc.symm.trans held
  mapped planId id listed := by cases Std.TreeMap.getElem?_emptyc.symm.trans listed

theorem fresh_new (counter : Nat) : Fresh (new counter) := by
  constructor <;> intro id entry held <;> cases Std.TreeMap.getElem?_emptyc.symm.trans held

theorem always_indexed_iff (counter : Nat) (ops : List ScenarioOp) :
    (∀ n, Indexed (Run.after step (new counter) (ops.take n)).library) ↔
      Run.Along step Harmless (new counter) ops := by
  refine Run.always_iff (fun s => Exact s.library ∧ Fresh s) (fun s => Indexed s.library)
    (fun s h => h.1.indexed) (fun s op h harmless => ⟨exact_step h.1 h.2 harmless, h.2.step op⟩)
    (fun s op h harm indexed => not_exact_step h.2 harm indexed.toExact)
    ⟨exact_new counter, fresh_new counter⟩ ops

end Scenarios
end HidConnect.Kernel

import Mathlib.Algebra.Order.Field.Rat
import Mathlib.Tactic.Linarith
import Mathlib.Tactic.NormNum.OfScientific
import HidConnect.Kernel.ColdStart

/-! The averages of a scenario's outcomes in exact numbers, beside the library that has them in floating
point. -/
namespace HidConnect.Kernel

/-- What an entry keeps of its outcomes. -/
structure Averages (N : Type) where
  successRate : N
  missRate : N
  useCount : Nat

namespace Averages
variable {N : Type} [Add N] [Sub N] [Mul N] [OfScientific N]

def alpha : N := 0.1

def new : Averages N := { successRate := 1.0, missRate := 0.0, useCount := 0 }

def counted (a : Averages N) (success : Bool) : Averages N :=
  if success then
    { successRate := a.successRate * (1.0 - alpha) + alpha
      missRate := a.missRate * (1.0 - alpha)
      useCount := a.useCount + 1 }
  else
    { successRate := a.successRate * (1.0 - alpha)
      missRate := a.missRate * (1.0 - alpha) + alpha
      useCount := a.useCount + 1 }

def of (outcomes : List Bool) : Averages N := outcomes.foldl counted new

/-- What it takes for a promotion. -/
def Ready [LE N] (a : Averages N) : Prop := a.successRate ≥ 0.95 ∧ a.missRate ≤ 0.05 ∧ a.useCount ≥ 10

instance [LE N] [DecidableLE N] (a : Averages N) : Decidable a.Ready :=
  inferInstanceAs (Decidable (_ ∧ _ ∧ _))

theorem of_concat (outcomes : List Bool) (success : Bool) :
    (of (outcomes ++ [success]) : Averages N) = (of outcomes).counted success := by
  rw [of, List.foldl_append]
  rfl

theorem useCount_of (outcomes : List Bool) :
    (of outcomes : Averages N).useCount = outcomes.length := by
  induction outcomes using List.reverseRecOn with
  | nil => rfl
  | append_singleton outcomes success ih =>
    rw [of_concat, List.length_append, List.length_singleton, ← ih]
    cases success <;> rfl

/- In exact numbers. -/

theorem counted_success (a : Averages ℚ) : a.counted true =
    { successRate := a.successRate * (9 / 10) + 1 / 10, missRate := a.missRate * (9 / 10)
      useCount := a.useCount + 1 } := by
  norm_num [counted, alpha]

theorem counted_miss (a : Averages ℚ) : a.counted false =
    { successRate := a.successRate * (9 / 10), missRate := a.missRate * (9 / 10) + 1 / 10
      useCount := a.useCount + 1 } := by
  norm_num [counted, alpha]

structure Balanced (a : Averages ℚ) : Prop where
  sum : a.successRate + a.missRate = 1
  success : 0 ≤ a.successRate
  miss : 0 ≤ a.missRate

theorem Balanced.counted {a : Averages ℚ} (h : Balanced a) (success : Bool) :
    Balanced (a.counted success) := by
  obtain ⟨sum, positive, negative⟩ := h
  cases success with
  | true =>
    rw [counted_success]
    constructor <;> dsimp only <;> linarith
  | false =>
    rw [counted_miss]
    constructor <;> dsimp only <;> linarith

theorem balanced_of (outcomes : List Bool) : Balanced (of outcomes) := by
  induction outcomes using List.reverseRecOn with
  | nil =>
    change Balanced new
    constructor <;> norm_num [new]
  | append_singleton outcomes success ih =>
    rw [of_concat]
    exact ih.counted success

/-- After a miss the rate is at most nine tenths. -/
theorem Balanced.not_ready {a : Averages ℚ} (h : Balanced a) : ¬(a.counted false).Ready := by
  rintro ⟨high, -⟩
  have most : a.successRate ≤ 1 := by
    have sum := h.sum
    have miss := h.miss
    linarith
  rw [counted_miss] at high
  norm_num at high
  linarith

end Averages

/-- A library with the averages of its entries in numbers of this type. Those that its entries have
themselves are not read. -/
structure RatedLibrary (N : Type) where
  library : ScenarioLibrary
  averages : ScenarioId → Averages N

namespace RatedLibrary
variable {N : Type} [Add N] [Sub N] [Mul N] [OfScientific N]

def new : RatedLibrary N := { library := .new, averages := fun _ => .new }

def add (lib : RatedLibrary N) (id : ScenarioId) (kind : ScenarioKind) (plan : StoredPlan) (nowMs : Nat) :
    RatedLibrary N where
  library := lib.library.add id kind plan nowMs
  averages := Function.update lib.averages id .new

def updateOutcome (lib : RatedLibrary N) (planId : PlanId) (success : Bool) (nowMs : Nat) :
    RatedLibrary N :=
  match lib.library.planToScenario[planId]? with
  | none => lib
  | some scenarioId =>
    match lib.library.entries[scenarioId]? with
    | none => lib
    | some _ =>
      { library := lib.library.updateOutcome planId success nowMs
        averages :=
          Function.update lib.averages scenarioId ((lib.averages scenarioId).counted success) }

def recordSuccess (lib : RatedLibrary N) (planId : PlanId) (nowMs : Nat) : RatedLibrary N :=
  lib.updateOutcome planId true nowMs

def recordMiss (lib : RatedLibrary N) (planId : PlanId) (nowMs : Nat) : RatedLibrary N :=
  lib.updateOutcome planId false nowMs

def promoteIfReady [LE N] [DecidableLE N] (lib : RatedLibrary N) (planId : PlanId) :
    Option ScenarioId × RatedLibrary N :=
  match lib.library.lookup planId with
  | none => (none, lib)
  | some entry =>
    if (lib.averages entry.id).Ready then
      (some entry.id, { lib with library := lib.library.setKind entry.id .template })
    else (none, lib)

def demote (lib : RatedLibrary N) (scenarioId : ScenarioId) : Bool × RatedLibrary N :=
  ((lib.library.demote scenarioId).1, { lib with library := (lib.library.demote scenarioId).2 })

/-- `ColdStartStrategy::record_outcome`, on the library that the strategy shares. -/
def recordOutcome [LE N] [DecidableLE N] (lib : RatedLibrary N) (planId : PlanId) (success : Bool)
    (nowMs : Nat) : Option ScenarioId × RatedLibrary N :=
  let library := if success then lib.recordSuccess planId nowMs else lib.recordMiss planId nowMs
  library.promoteIfReady planId

theorem library_updateOutcome (lib : RatedLibrary N) (planId : PlanId) (success : Bool) (nowMs : Nat) :
    (lib.updateOutcome planId success nowMs).library =
      lib.library.updateOutcome planId success nowMs := by
  unfold updateOutcome ScenarioLibrary.updateOutcome
  cases lib.library.planToScenario[planId]? with
  | none => rfl
  | some own =>
    dsimp only
    cases lib.library.entries[own]? <;> rfl

section
variable [LE N] [DecidableLE N]

omit [Add N] [Sub N] [Mul N] in
theorem promote_cases (lib : RatedLibrary N) (planId : PlanId) :
    (∃ entry, lib.library.lookup planId = some entry ∧ (lib.averages entry.id).Ready ∧
        lib.promoteIfReady planId =
          (some entry.id, { lib with library := lib.library.setKind entry.id .template })) ∨
      (∀ entry, lib.library.lookup planId = some entry → ¬(lib.averages entry.id).Ready) ∧
        lib.promoteIfReady planId = (none, lib) := by
  unfold promoteIfReady
  cases lib.library.lookup planId with
  | none => exact .inr ⟨fun entry same => (by cases same), rfl⟩
  | some entry =>
    by_cases ready : (lib.averages entry.id).Ready
    · exact .inl ⟨entry, rfl, ready, if_pos ready⟩
    · refine .inr ⟨fun entry' same => ?_, if_neg ready⟩
      obtain rfl := Option.some.inj same
      exact ready

end

end RatedLibrary

/-- Such a library, the counter of its ids, and the outcomes that each entry has had since it was
added. -/
structure RatedScenarios (N : Type) where
  counter : Nat
  rated : RatedLibrary N
  outcomes : ScenarioId → List Bool

namespace RatedScenarios
open ScenarioLibrary Scenarios
variable {N : Type} [Add N] [Sub N] [Mul N] [OfScientific N]

def new (counter : Nat) : RatedScenarios N := { counter, rated := .new, outcomes := fun _ => [] }

/-- An outcome of a plan is one of the entry by which it is found. -/
def noted (s : RatedScenarios N) (planId : PlanId) (success : Bool) : ScenarioId → List Bool :=
  match s.rated.library.planToScenario[planId]? with
  | none => s.outcomes
  | some id =>
    if id ∈ s.rated.library.entries then Function.update s.outcomes id (s.outcomes id ++ [success])
    else s.outcomes

def step [LE N] [DecidableLE N] (s : RatedScenarios N) : ScenarioOp → RatedScenarios N
  | .add kind plan nowMs =>
    { counter := s.counter + 1
      rated := s.rated.add s.counter kind plan nowMs
      outcomes := Function.update s.outcomes s.counter [] }
  | .recordSuccess planId nowMs =>
    { s with rated := s.rated.recordSuccess planId nowMs, outcomes := s.noted planId true }
  | .recordMiss planId nowMs =>
    { s with rated := s.rated.recordMiss planId nowMs, outcomes := s.noted planId false }
  | .promoteIfReady planId => { s with rated := (s.rated.promoteIfReady planId).2 }
  | .demote scenarioId => { s with rated := (s.rated.demote scenarioId).2 }
  | .elsewhere => { s with counter := s.counter + 1 }

def scenarios (s : RatedScenarios N) : Scenarios := { counter := s.counter, library := s.rated.library }

structure Kept (s : RatedScenarios N) : Prop where
  fresh : s.scenarios.Fresh
  averages : ∀ id, s.rated.averages id = .of (s.outcomes id)

variable {s : RatedScenarios N}

theorem kept_new (counter : Nat) : Kept (new counter : RatedScenarios N) :=
  ⟨fresh_new counter, fun _ => rfl⟩

theorem Kept.useCount (h : Kept s) (id : ScenarioId) :
    (s.rated.averages id).useCount = (s.outcomes id).length := by
  rw [h.averages id, Averages.useCount_of]

theorem averages_updateOutcome (h : Kept s) (planId : PlanId) (success : Bool) (nowMs : Nat)
    (id : ScenarioId) :
    (s.rated.updateOutcome planId success nowMs).averages id = .of (s.noted planId success id) := by
  unfold RatedLibrary.updateOutcome noted
  cases listed : s.rated.library.planToScenario[planId]? with
  | none => exact h.averages id
  | some own =>
    dsimp only
    cases held : s.rated.library.entries[own]? with
    | none =>
      have unknown : own ∉ s.rated.library.entries := by
        rw [Std.TreeMap.mem_iff_isSome_getElem?, held]
        exact Bool.false_ne_true
      rw [if_neg unknown]
      exact h.averages id
    | some entry =>
      have known : own ∈ s.rated.library.entries := by
        rw [Std.TreeMap.mem_iff_isSome_getElem?, held]
        rfl
      rw [if_pos known]
      dsimp only
      rw [Function.update_apply, Function.update_apply]
      split
      · rw [Averages.of_concat, h.averages own]
      · exact h.averages id

variable [LE N] [DecidableLE N]

theorem Kept.step (h : Kept s) (op : ScenarioOp) : Kept (s.step op) := by
  have updated (planId : PlanId) (success : Bool) (nowMs : Nat) : Fresh
      { counter := s.counter, library := (s.rated.updateOutcome planId success nowMs).library } := by
    rw [RatedLibrary.library_updateOutcome]
    exact h.fresh.similar (similar_updateOutcome ..) (Nat.le_refl _)
  cases op with
  | add kind plan nowMs =>
    refine ⟨h.fresh.add kind plan nowMs, fun id => ?_⟩
    change Function.update s.rated.averages s.counter .new id =
      .of (Function.update s.outcomes s.counter [] id)
    rw [Function.update_apply, Function.update_apply]
    split
    · rfl
    · exact h.averages id
  | recordSuccess planId nowMs =>
    exact ⟨updated planId true nowMs, averages_updateOutcome h planId true nowMs⟩
  | recordMiss planId nowMs =>
    exact ⟨updated planId false nowMs, averages_updateOutcome h planId false nowMs⟩
  | promoteIfReady planId =>
    rcases s.rated.promote_cases planId with ⟨entry, -, -, run⟩ | ⟨-, run⟩
    · refine ⟨?_, ?_⟩
      · change Fresh { counter := s.counter, library := (s.rated.promoteIfReady planId).2.library }
        rw [run]
        exact h.fresh.similar (similar_setKind ..) (Nat.le_refl _)
      · change ∀ id, (s.rated.promoteIfReady planId).2.averages id = _
        rw [run]
        exact h.averages
    · have same : s.step (.promoteIfReady planId) = s := by
        change { s with rated := (s.rated.promoteIfReady planId).2 } = s
        rw [run]
      rw [same]
      exact h
  | demote id => exact ⟨h.fresh.similar (similar_demote ..) (Nat.le_refl _), h.averages⟩
  | elsewhere => exact ⟨h.fresh.similar (.refl _) (Nat.le_succ _), h.averages⟩

theorem Kept.promoted (h : Kept s) {planId : PlanId} {id : ScenarioId}
    (promoted : (s.rated.promoteIfReady planId).1 = some id) : 10 ≤ (s.outcomes id).length := by
  rcases s.rated.promote_cases planId with ⟨entry, -, ready, run⟩ | ⟨-, run⟩
  · rw [run] at promoted
    cases promoted
    rw [← h.useCount]
    exact ready.2.2
  · rw [run] at promoted
    cases promoted

end RatedScenarios

/- In the numbers of the source. -/

def ScenarioEntry.averages (entry : ScenarioEntry) : Averages Float32 :=
  { successRate := entry.successRate, missRate := entry.missRate, useCount := entry.useCount }

namespace RatedLibrary
open ScenarioLibrary

/-- The averages are those that the entries have. -/
def Agrees (lib : RatedLibrary Float32) : Prop :=
  ∀ (id : ScenarioId) (entry : ScenarioEntry), lib.library.entries[id]? = some entry →
    lib.averages id = entry.averages

theorem averages_counted (entry : ScenarioEntry) (success : Bool) (nowMs : Nat) :
    (counted entry success nowMs).averages = entry.averages.counted success := by
  cases success <;> rfl

variable {lib : RatedLibrary Float32}

theorem Agrees.updateOutcome (agrees : Agrees lib) (planId : PlanId) (success : Bool) (nowMs : Nat) :
    Agrees (lib.updateOutcome planId success nowMs) := by
  intro id entry held
  rw [library_updateOutcome] at held
  unfold ScenarioLibrary.updateOutcome at held
  unfold RatedLibrary.updateOutcome
  cases listed : lib.library.planToScenario[planId]? with
  | none =>
    rw [listed] at held
    exact agrees id entry held
  | some own =>
    rw [listed] at held
    dsimp only at held ⊢
    cases before : lib.library.entries[own]? with
    | none =>
      rw [before] at held
      exact agrees id entry held
    | some old =>
      rw [before] at held
      dsimp only at held ⊢
      rw [Std.TreeMap.getElem?_insert] at held
      rw [Function.update_apply]
      by_cases same : id = own
      · subst same
        rw [if_pos Std.ReflCmp.compare_self] at held
        obtain rfl := Option.some.inj held
        rw [if_pos rfl, averages_counted, agrees id old before]
      · rw [if_neg fun equal => same (Std.LawfulEqCmp.eq_of_compare equal).symm] at held
        rw [if_neg same]
        exact agrees id entry held

theorem Agrees.setKind (agrees : Agrees lib) (target : ScenarioId) (kind : ScenarioKind) :
    Agrees { lib with library := lib.library.setKind target kind } := by
  intro id entry held
  dsimp only at held
  unfold ScenarioLibrary.setKind at held
  cases before : lib.library.entries[target]? with
  | none =>
    rw [before] at held
    exact agrees id entry held
  | some old =>
    rw [before] at held
    dsimp only at held
    rw [Std.TreeMap.getElem?_insert] at held
    split at held
    case isTrue same =>
      obtain rfl := Std.LawfulEqCmp.eq_of_compare same
      obtain rfl := Option.some.inj held
      exact agrees target old before
    case isFalse => exact agrees id entry held

theorem Agrees.promoteIfReady (agrees : Agrees lib) (own : ∀ (id : ScenarioId) (entry : ScenarioEntry),
      lib.library.entries[id]? = some entry → entry.id = id) (planId : PlanId) :
    (lib.promoteIfReady planId).1 = (lib.library.promoteIfReady planId).1 ∧
      (lib.promoteIfReady planId).2.library = (lib.library.promoteIfReady planId).2 ∧
      Agrees (lib.promoteIfReady planId).2 := by
  unfold RatedLibrary.promoteIfReady ScenarioLibrary.promoteIfReady
  cases found : lib.library.lookup planId with
  | none => exact ⟨rfl, rfl, agrees⟩
  | some entry =>
    obtain ⟨id, -, held⟩ := Option.bind_eq_some_iff.mp found
    obtain rfl := own id entry held
    have decided : (lib.averages entry.id).Ready ↔ entry.successRate ≥ promoteSuccessRate ∧
        entry.missRate ≤ promoteMissRateCeil ∧ entry.useCount ≥ 10 := by
      rw [agrees entry.id entry held]
      rfl
    dsimp only
    by_cases ready : (lib.averages entry.id).Ready
    · rw [if_pos ready, if_pos (decided.mp ready)]
      exact ⟨rfl, rfl, agrees.setKind entry.id .template⟩
    · rw [if_neg ready, if_neg (mt decided.mpr ready)]
      exact ⟨rfl, rfl, agrees⟩

theorem Agrees.add (agrees : Agrees lib) (id : ScenarioId) (kind : ScenarioKind) (plan : StoredPlan)
    (nowMs : Nat) : Agrees (lib.add id kind plan nowMs) := by
  intro other entry held
  change (lib.library.evict.entries.insert id _)[other]? = some entry at held
  change Function.update lib.averages id .new other = entry.averages
  rw [Std.TreeMap.getElem?_insert] at held
  rw [Function.update_apply]
  by_cases same : other = id
  · subst same
    rw [if_pos Std.ReflCmp.compare_self] at held
    obtain rfl := Option.some.inj held
    rw [if_pos rfl]
    rfl
  · rw [if_neg fun equal => same (Std.LawfulEqCmp.eq_of_compare equal).symm] at held
    rw [if_neg same]
    exact agrees other entry (getElem?_evict held)

theorem Agrees.demote (agrees : Agrees lib) (id : ScenarioId) : Agrees (lib.demote id).2 := by
  change Agrees { lib with library := (lib.library.demote id).2 }
  unfold ScenarioLibrary.demote
  split
  · split
    · exact agrees.setKind id .deprecated
    · exact agrees
  · exact agrees

theorem Agrees.recordOutcome (agrees : Agrees lib) (own : ∀ (id : ScenarioId) (entry : ScenarioEntry),
      lib.library.entries[id]? = some entry → entry.id = id) {st : ColdStartStrategy}
    (shared : st.scenarioLibrary = lib.library) (planId : PlanId) (success : Bool) (nowMs : Nat) :
    (lib.recordOutcome planId success nowMs).1 = (st.recordOutcome planId success nowMs).1 ∧
      (lib.recordOutcome planId success nowMs).2.library =
        (st.recordOutcome planId success nowMs).2.scenarioLibrary := by
  have run : lib.recordOutcome planId success nowMs =
      (lib.updateOutcome planId success nowMs).promoteIfReady planId := by
    cases success <;> rfl
  have run' : st.recordOutcome planId success nowMs =
      (((lib.library.updateOutcome planId success nowMs).promoteIfReady planId).1,
        { st with scenarioLibrary :=
          ((lib.library.updateOutcome planId success nowMs).promoteIfReady planId).2 }) := by
    rw [← shared]
    cases success <;> rfl
  have own' : ∀ (id : ScenarioId) (entry : ScenarioEntry),
      (lib.updateOutcome planId success nowMs).library.entries[id]? = some entry → entry.id = id := by
    intro id entry held
    rw [library_updateOutcome] at held
    obtain ⟨before, held, same, -⟩ := (similar_updateOutcome ..).symm.entry held
    rw [← same, own id before held]
  obtain ⟨answer, library, -⟩ :=
    (agrees.updateOutcome planId success nowMs).promoteIfReady own' planId
  rw [library_updateOutcome] at answer library
  rw [run, run']
  exact ⟨answer, library⟩

end RatedLibrary

namespace RatedScenarios
open ScenarioLibrary Scenarios

theorem agrees_step {s : RatedScenarios Float32} (kept : Kept s) (agrees : s.rated.Agrees)
    (op : ScenarioOp) :
    (s.step op).rated.Agrees ∧ (s.step op).scenarios = s.scenarios.step op := by
  cases op with
  | add kind plan nowMs => exact ⟨agrees.add s.counter kind plan nowMs, rfl⟩
  | recordSuccess planId nowMs =>
    refine ⟨agrees.updateOutcome planId true nowMs, ?_⟩
    exact congrArg (Scenarios.mk s.counter) (RatedLibrary.library_updateOutcome ..)
  | recordMiss planId nowMs =>
    refine ⟨agrees.updateOutcome planId false nowMs, ?_⟩
    exact congrArg (Scenarios.mk s.counter) (RatedLibrary.library_updateOutcome ..)
  | promoteIfReady planId =>
    obtain ⟨-, library, same⟩ := agrees.promoteIfReady kept.fresh.own planId
    exact ⟨same, congrArg (Scenarios.mk s.counter) library⟩
  | demote id => exact ⟨agrees.demote id, rfl⟩
  | elsewhere => exact ⟨agrees, rfl⟩

/-- With the numbers of the source this is the library of the source. -/
theorem scenarios_after {s : RatedScenarios Float32} (kept : Kept s) (agrees : s.rated.Agrees)
    (ops : List ScenarioOp) :
    (Run.after step s ops).scenarios = Run.after Scenarios.step s.scenarios ops := by
  induction ops generalizing s with
  | nil => rfl
  | cons op rest ih =>
    obtain ⟨after, same⟩ := agrees_step kept agrees op
    rw [Run.after, Run.after, ih (kept.step op) after, same]

end RatedScenarios

/-- What the averages of a library in use say. -/
structure RatedScenarios.Accounted (s : RatedScenarios ℚ) : Prop where
  sum : ∀ id, (s.rated.averages id).successRate + (s.rated.averages id).missRate = 1
  success : ∀ id, 0 ≤ (s.rated.averages id).successRate ∧ (s.rated.averages id).successRate ≤ 1
  miss : ∀ id, 0 ≤ (s.rated.averages id).missRate ∧ (s.rated.averages id).missRate ≤ 1
  useCount : ∀ id, (s.rated.averages id).useCount = (s.outcomes id).length
  promoted : ∀ planId id, (s.rated.promoteIfReady planId).1 = some id → 10 ≤ (s.outcomes id).length
  missed : ∀ planId nowMs, (s.rated.recordOutcome planId false nowMs).1 = none

namespace RatedScenarios
open ScenarioLibrary Scenarios

theorem Kept.missed {s : RatedScenarios ℚ} (h : Kept s) (planId : PlanId) (nowMs : Nat) :
    (s.rated.recordOutcome planId false nowMs).1 = none := by
  change ((s.rated.updateOutcome planId false nowMs).promoteIfReady planId).1 = none
  have after := h.step (.recordMiss planId nowMs)
  rcases (s.rated.updateOutcome planId false nowMs).promote_cases planId with
    ⟨entry, found, ready, -⟩ | ⟨-, run⟩
  · obtain ⟨id, listed, held⟩ := Option.bind_eq_some_iff.mp found
    obtain rfl : entry.id = id := after.fresh.own id entry held
    have known : s.rated.library.planToScenario[planId]? = some entry.id ∧
        entry.id ∈ s.rated.library.entries := by
      have same := similar_updateOutcome s.rated.library planId false nowMs
      rw [RatedLibrary.library_updateOutcome] at listed held
      obtain ⟨before, held, -⟩ := same.symm.entry held
      refine ⟨same.index ▸ listed, ?_⟩
      rw [Std.TreeMap.mem_iff_isSome_getElem?, held]
      rfl
    have last : s.noted planId false entry.id = s.outcomes entry.id ++ [false] := by
      rw [noted, known.1]
      dsimp only
      rw [if_pos known.2, Function.update_self]
    have averages := after.averages entry.id
    change (s.rated.updateOutcome planId false nowMs).averages entry.id =
      .of (s.noted planId false entry.id) at averages
    rw [averages, last, Averages.of_concat] at ready
    exact absurd ready (Averages.balanced_of _).not_ready
  · rw [run]

theorem Kept.accounted {s : RatedScenarios ℚ} (h : Kept s) : Accounted s := by
  have balanced (id : ScenarioId) : (s.rated.averages id).Balanced := by
    rw [h.averages id]
    exact Averages.balanced_of _
  refine ⟨fun id => (balanced id).sum, fun id => ?_, fun id => ?_, h.useCount, fun _ _ => h.promoted,
    h.missed⟩
  · obtain ⟨sum, success, miss⟩ := balanced id
    exact ⟨success, by linarith⟩
  · obtain ⟨sum, success, miss⟩ := balanced id
    exact ⟨miss, by linarith⟩

/-- In exact numbers the rates of every entry are shares of its outcomes, and no miss is followed by a
promotion. -/
theorem averages_accounted (counter : Nat) (ops : List ScenarioOp) :
    Accounted (Run.after step (new counter) ops) :=
  (Run.preserved Kept (fun _ op h => h.step op) (kept_new counter) ops).accounted

end RatedScenarios
end HidConnect.Kernel

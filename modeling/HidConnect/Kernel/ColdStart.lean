import Mathlib.Data.List.AList
import HidConnect.Kernel.ScenarioIndex

/-! The start of a task: from a template, a preference or a recording, or from nothing. -/
namespace HidConnect.Kernel
open ScenarioLibrary Scenarios

inductive StartPath where
  | shipTimeTemplate (id : ScenarioId)
  | perUserPreference (planId : PlanId)
  | perDeviceRecording (id : ScenarioId)
  | freshPlan
  deriving DecidableEq

structure ColdStartStrategy where
  shipTime : List StoredPlan
  perUser : AList fun _ : String => StoredPlan
  perDevice : ScenarioLibrary
  scenarioLibrary : ScenarioLibrary

namespace ColdStartStrategy

def new : ColdStartStrategy :=
  { shipTime := [], perUser := ∅, perDevice := .new, scenarioLibrary := .new }

/-- The id is the one that `ScenarioId::new()` gives. -/
def addShipTimeTemplate (st : ColdStartStrategy) (id : ScenarioId) (plan : StoredPlan) (nowMs : Nat) :
    ColdStartStrategy :=
  { st with
    scenarioLibrary := st.scenarioLibrary.add id .template plan nowMs
    shipTime := st.shipTime ++ [plan] }

def setPerUserPreference (st : ColdStartStrategy) (userId : String) (plan : StoredPlan) :
    ColdStartStrategy :=
  { st with perUser := st.perUser.insert userId plan }

def recordOutcome (st : ColdStartStrategy) (planId : PlanId) (success : Bool) (nowMs : Nat) :
    Option ScenarioId × ColdStartStrategy :=
  let library :=
    if success then st.scenarioLibrary.recordSuccess planId nowMs
    else st.scenarioLibrary.recordMiss planId nowMs
  ((library.promoteIfReady planId).1,
    { st with scenarioLibrary := (library.promoteIfReady planId).2 })

/-- What follows where no preference is found. -/
def startShared (st : ColdStartStrategy) : StartPath :=
  match st.shipTime.head?.bind fun plan => st.scenarioLibrary.lookup plan.id with
  | some scenario => .shipTimeTemplate scenario.id
  | none =>
    match st.perDevice.selectFirst with
    | some recording => .perDeviceRecording recording
    | none => .freshPlan

def start (st : ColdStartStrategy) (task : Option String) : StartPath :=
  match task.bind fun userId => st.perUser.lookup userId with
  | some plan => .perUserPreference plan.id
  | none => st.startShared

/-- The templates that are still in the library are found in it, and a task without a preference
starts from the one that was registered first. -/
structure Serves (st : ColdStartStrategy) : Prop where
  indexed : Indexed st.scenarioLibrary
  finds : ∀ plan ∈ st.shipTime, Live st.scenarioLibrary plan.id →
    ∃ entry, st.scenarioLibrary.lookup plan.id = some entry ∧ entry.plan.id = plan.id
  starts : ∀ task : Option String, (task.bind fun userId => st.perUser.lookup userId) = none →
    (∃ plan ∈ st.shipTime, Live st.scenarioLibrary plan.id) →
      ∃ first entry, st.shipTime.head? = some first ∧
        st.scenarioLibrary.lookup first.id = some entry ∧
        st.start task = .shipTimeTemplate entry.id ∧ st.scenarioLibrary.entries[entry.id]? = some entry

end ColdStartStrategy

/-- A strategy, and the counter that every library of the process takes its ids from. -/
structure ColdStart where
  counter : Nat
  strategy : ColdStartStrategy

inductive ColdStartOp where
  | addShipTimeTemplate (plan : StoredPlan) (nowMs : Nat)
  | setPerUserPreference (userId : String) (plan : StoredPlan)
  | recordOutcome (planId : PlanId) (success : Bool) (nowMs : Nat)
  /-- Another library takes an id. -/
  | elsewhere

namespace ColdStart

def new (counter : Nat) : ColdStart := { counter, strategy := .new }

def step (s : ColdStart) : ColdStartOp → ColdStart
  | .addShipTimeTemplate plan nowMs =>
    { counter := s.counter + 1, strategy := s.strategy.addShipTimeTemplate s.counter plan nowMs }
  | .setPerUserPreference userId plan =>
    { s with strategy := s.strategy.setPerUserPreference userId plan }
  | .recordOutcome planId success nowMs =>
    { s with strategy := (s.strategy.recordOutcome planId success nowMs).2 }
  | .elsewhere => { s with counter := s.counter + 1 }

def shared (s : ColdStart) : Scenarios := { counter := s.counter, library := s.strategy.scenarioLibrary }

/-- A template makes no entry give way by which another plan is found. -/
def Harmless (s : ColdStart) : ColdStartOp → Prop
  | .addShipTimeTemplate plan nowMs => s.shared.Harmless (.add .template plan nowMs)
  | _ => True

end ColdStart

/-- The operations of the shared library that an operation of the strategy comes down to. -/
def ColdStartOp.shared : ColdStartOp → List ScenarioOp
  | addShipTimeTemplate plan nowMs => [.add .template plan nowMs]
  | setPerUserPreference _ _ => []
  | recordOutcome planId true nowMs => [.recordSuccess planId nowMs, .promoteIfReady planId]
  | recordOutcome planId false nowMs => [.recordMiss planId nowMs, .promoteIfReady planId]
  | elsewhere => [.elsewhere]

namespace ColdStart
variable {s : ColdStart}

theorem shared_step (s : ColdStart) (op : ColdStartOp) :
    (s.step op).shared = Run.after Scenarios.step s.shared op.shared := by
  cases op with
  | recordOutcome planId success nowMs => cases success <;> rfl
  | _ => rfl

theorem along_shared {op : ColdStartOp} (harmless : s.Harmless op) :
    Run.Along Scenarios.step Scenarios.Harmless s.shared op.shared := by
  cases op with
  | addShipTimeTemplate => exact ⟨harmless, trivial⟩
  | setPerUserPreference => trivial
  | recordOutcome planId success nowMs => cases success <;> exact ⟨trivial, trivial, trivial⟩
  | elsewhere => exact ⟨trivial, trivial⟩

/-- The index of the shared library is exact, and every template that was registered is in it. -/
structure Kept (s : ColdStart) : Prop where
  exact' : Exact s.strategy.scenarioLibrary
  fresh : Fresh s.shared
  live : ∀ plan ∈ s.strategy.shipTime, Live s.strategy.scenarioLibrary plan.id

theorem Kept.serves (h : Kept s) : s.strategy.Serves where
  indexed := h.exact'.indexed
  finds plan _ live := by
    obtain ⟨id, entry, listed, held, same⟩ := h.exact'.lookup live
    exact ⟨entry, by rw [ScenarioLibrary.lookup, listed, Option.bind_some, held], same⟩
  starts task unknown := by
    rintro ⟨plan, member, -⟩
    cases shipTime : s.strategy.shipTime with
    | nil =>
      rw [shipTime] at member
      cases member
    | cons first rest =>
      have live := h.live first (by rw [shipTime]; exact List.mem_cons_self)
      obtain ⟨id, entry, listed, held, -⟩ := h.exact'.lookup live
      have found : s.strategy.scenarioLibrary.lookup first.id = some entry := by
        rw [ScenarioLibrary.lookup, listed, Option.bind_some, held]
      refine ⟨first, entry, rfl, found, ?_, ?_⟩
      · rw [ColdStartStrategy.start, unknown]
        dsimp only
        rw [ColdStartStrategy.startShared, shipTime, List.head?_cons, Option.bind_some, found]
      · rwa [h.fresh.own id entry held]

theorem kept_step (h : Kept s) {op : ColdStartOp} (harmless : s.Harmless op) : Kept (s.step op) := by
  have shared : (Exact (s.step op).shared.library ∧ Fresh (s.step op).shared) ∧
      ∀ plan ∈ s.strategy.shipTime, Live (s.step op).shared.library plan.id := by
    rw [shared_step]
    refine Run.invariant (fun t => (Exact t.library ∧ Fresh t) ∧
      ∀ plan ∈ s.strategy.shipTime, Live t.library plan.id) ?_ ⟨⟨h.exact', h.fresh⟩, h.live⟩
      (along_shared harmless)
    rintro t op ⟨⟨before, fresh⟩, live⟩ harmless
    have after := exact_step before fresh harmless
    exact ⟨⟨after, fresh.step op⟩, fun plan member => live_step before after (live plan member)⟩
  refine ⟨shared.1.1, shared.1.2, fun plan member => ?_⟩
  cases op with
  | addShipTimeTemplate new nowMs =>
    rcases List.mem_append.mp member with old | added
    · exact shared.2 plan old
    · obtain rfl := List.mem_singleton.mp added
      exact live_add s.shared .template plan nowMs
  | setPerUserPreference => exact shared.2 plan member
  | recordOutcome => exact shared.2 plan member
  | elsewhere => exact shared.2 plan member

theorem not_serves_step (h : Kept s) {op : ColdStartOp} (harm : ¬s.Harmless op) :
    ¬(s.step op).strategy.Serves := by
  intro serves
  cases op with
  | addShipTimeTemplate plan nowMs =>
    have broken : ¬s.shared.Harmless (.add .template plan nowMs) := harm
    exact not_exact_step h.fresh broken serves.indexed.toExact
  | _ => exact harm trivial

theorem kept_new (counter : Nat) : Kept (new counter) :=
  ⟨exact_new counter, fresh_new counter, fun _ member => absurd member List.not_mem_nil⟩

theorem bounded_step (bounded : s.strategy.scenarioLibrary.entries.size ≤ maxLibrarySize)
    (op : ColdStartOp) : (s.step op).strategy.scenarioLibrary.entries.size ≤ maxLibrarySize := by
  change (s.step op).shared.library.entries.size ≤ maxLibrarySize
  rw [shared_step]
  exact Scenarios.bounded_after bounded op.shared

theorem always_bounded (counter : Nat) (ops : List ColdStartOp) :
    (Run.after step (new counter) ops).strategy.scenarioLibrary.entries.size ≤ maxLibrarySize :=
  Run.preserved (fun s : ColdStart => s.strategy.scenarioLibrary.entries.size ≤ maxLibrarySize)
    (fun _ op h => bounded_step h op) (Nat.zero_le _) ops

theorem always_serves_iff (counter : Nat) (ops : List ColdStartOp) :
    (∀ n, (Run.after step (new counter) (ops.take n)).strategy.Serves) ↔
      Run.Along step Harmless (new counter) ops :=
  Run.always_iff Kept (fun s => s.strategy.Serves) (fun _ h => h.serves)
    (fun _ _ h harmless => kept_step h harmless) (fun _ _ h harm => not_serves_step h harm)
    (kept_new counter) ops

end ColdStart

/-- A library never grows beyond its limit. The index is exact, and templates are found, all along a run if
and only if no entry gives way by which the index finds another plan than the one that is added. -/
theorem scenario_index_exact_iff (counter : Nat) :
    (∀ ops : List ScenarioOp,
      (Run.after Scenarios.step (.new counter) ops).library.entries.size ≤ maxLibrarySize ∧
      ((∀ n, Indexed (Run.after Scenarios.step (.new counter) (ops.take n)).library) ↔
        Run.Along Scenarios.step Scenarios.Harmless (.new counter) ops)) ∧
    ∀ ops : List ColdStartOp,
      (Run.after ColdStart.step (.new counter) ops).strategy.scenarioLibrary.entries.size ≤
        maxLibrarySize ∧
      ((∀ n, (Run.after ColdStart.step (.new counter) (ops.take n)).strategy.Serves) ↔
        Run.Along ColdStart.step ColdStart.Harmless (.new counter) ops) :=
  ⟨fun ops => ⟨Scenarios.bounded_after (Nat.zero_le _) ops, always_indexed_iff counter ops⟩,
    fun ops => ⟨ColdStart.always_bounded counter ops, ColdStart.always_serves_iff counter ops⟩⟩

def emptyPlan (id : PlanId) : StoredPlan :=
  { steps := [], abortOnError := true, checkpointEvery := 0, version := "0.1.0", id }

def manyTemplates (n : Nat) : List ColdStartOp :=
  (List.range n).map fun i => .addShipTimeTemplate (emptyPlan i.toUInt64) 0

theorem manyTemplates_succ (n : Nat) : manyTemplates (n + 1) =
    manyTemplates n ++ [.addShipTimeTemplate (emptyPlan n.toUInt64) 0] := by
  rw [manyTemplates, List.range_succ, List.map_append]
  rfl

structure Filled (s : ColdStart) (n : Nat) : Prop where
  kept : s.Kept
  size : s.strategy.scenarioLibrary.entries.size = n
  own : ∀ (id : ScenarioId) (entry : ScenarioEntry),
    s.strategy.scenarioLibrary.entries[id]? = some entry →
      s.strategy.scenarioLibrary.planToScenario[entry.plan.id]? = some id ∧ entry.plan.id.toNat < n

theorem Filled.step {s : ColdStart} {n : Nat} (h : Filled s n) (room : n < maxLibrarySize) :
    Filled (s.step (.addShipTimeTemplate (emptyPlan n.toUInt64) 0)) (n + 1) := by
  have number : n.toUInt64.toNat = n :=
    UInt64.toNat_ofNat_of_lt' (Nat.lt_trans room (by decide))
  have harmless : s.Harmless (.addShipTimeTemplate (emptyPlan n.toUInt64) 0) := by
    intro full
    exact absurd (Nat.lt_of_lt_of_le room full) (h.size ▸ Nat.lt_irrefl _)
  have same : s.strategy.scenarioLibrary.evict = s.strategy.scenarioLibrary :=
    if_neg (Nat.not_le.mpr (h.size ▸ room))
  obtain ⟨new, -, newPlan, newHeld, others⟩ := add_entries s.strategy.scenarioLibrary s.counter
    .template (emptyPlan n.toUInt64) 0
  refine ⟨ColdStart.kept_step h.kept harmless, ?_, fun id entry held => ?_⟩
  · have nothing : s.strategy.scenarioLibrary.entries[s.counter]? = none := h.kept.fresh.unused
    have unused : ¬s.strategy.scenarioLibrary.entries.contains s.counter = true := by
      rw [Std.TreeMap.contains_eq_isSome_getElem?, nothing]
      exact Bool.false_ne_true
    change (s.strategy.scenarioLibrary.evict.entries.insert _ _).size = n + 1
    rw [same, Std.TreeMap.size_insert, if_neg unused, h.size]
  · change (s.strategy.scenarioLibrary.add _ _ _ _).planToScenario[_]? = _ ∧ _
    rw [add_planToScenario]
    by_cases newest : id = s.counter
    · subst newest
      obtain rfl := Option.some.inj (newHeld.symm.trans held)
      rw [newPlan]
      exact ⟨if_pos rfl, Nat.lt_succ_of_le (Nat.le_of_eq number)⟩
    · have old : s.strategy.scenarioLibrary.entries[id]? = some entry := by
        rw [← held]
        exact ((others id newest).trans (by rw [same])).symm
      obtain ⟨listed, below⟩ := h.own id entry old
      have other : entry.plan.id ≠ (emptyPlan n.toUInt64).id := by
        intro equal
        rw [equal] at below
        exact Nat.lt_irrefl _ (Nat.lt_of_lt_of_eq below number.symm)
      rw [if_neg other]
      exact ⟨listed, Nat.lt_succ_of_lt below⟩

theorem filled_manyTemplates (counter : Nat) {n : Nat} (room : n ≤ maxLibrarySize) :
    Filled (Run.after ColdStart.step (.new counter) (manyTemplates n)) n := by
  induction n with
  | zero =>
    refine ⟨ColdStart.kept_new counter, rfl, fun id entry held => ?_⟩
    cases Std.TreeMap.getElem?_emptyc.symm.trans held
  | succ n ih =>
    rw [manyTemplates_succ, Run.after_append]
    exact (ih (Nat.le_of_succ_le room)).step room

/-- Whichever entry gives way to another plan, it is the only one of its own. -/
theorem Filled.overflows {s : ColdStart} (h : Filled s maxLibrarySize) {plan : StoredPlan}
    (other : maxLibrarySize ≤ plan.id.toNat) (nowMs : Nat) :
    ¬(s.step (.addShipTimeTemplate plan nowMs)).strategy.Serves := by
  refine ColdStart.not_serves_step h.kept fun harmless => ?_
  obtain ⟨⟨id, entry⟩, oldest⟩ := oldest_of_size (Nat.lt_of_lt_of_eq (by decide) h.size.symm)
  obtain ⟨listed, below⟩ := h.own id entry (getElem?_of_oldest oldest)
  have same := harmless (Nat.le_of_eq h.size.symm) id entry oldest listed
  rw [same] at below
  exact absurd other (Nat.not_le.mpr below)

/-- The template after the last one that there is room for makes another one give way, which stays in
the index. -/
theorem evicted_template_is_lost :
    ¬(Run.after ColdStart.step (.new 1) (manyTemplates 1001)).strategy.Serves := by
  rw [manyTemplates_succ, Run.after_append]
  exact (filled_manyTemplates 1 (Nat.le_refl maxLibrarySize)).overflows (by decide) 0

end HidConnect.Kernel

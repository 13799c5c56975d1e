import Mathlib.Data.List.MinMax
import HidConnect.Kernel.PlanExecutor
import HidConnect.Library.Run

/-! The scenario library: plans that are kept for another use, and the index that finds them. -/
namespace HidConnect.Kernel

/-- A plan with what it is stored and found by. -/
structure StoredPlan extends Plan where
  version : String
  id : PlanId
  deriving DecidableEq

inductive ScenarioKind where
  | template | recording | deprecated
  deriving DecidableEq

abbrev ScenarioId := Nat

/-- Ids and uses are counted by `u64`s in the source: the counts agree up to 2^64. -/
structure ScenarioEntry where
  id : ScenarioId
  kind : ScenarioKind
  plan : StoredPlan
  successRate : Float32
  missRate : Float32
  useCount : Nat
  createdAtMs : Nat
  lastUsedAtMs : Nat

structure ScenarioLibrary where
  entries : Std.TreeMap ScenarioId ScenarioEntry
  planToScenario : Std.TreeMap PlanId ScenarioId

namespace ScenarioLibrary

def maxLibrarySize : Nat := 1000
def promoteSuccessRate : Float32 := 0.95
def promoteMissRateCeil : Float32 := 0.05

def new : ScenarioLibrary := { entries := ∅, planToScenario := ∅ }

/-- `entries.iter().min_by_key(..)`: of several that were used at the same time, the first. -/
def oldest (lib : ScenarioLibrary) : Option (ScenarioId × ScenarioEntry) :=
  lib.entries.toList.argmin fun e => e.2.lastUsedAtMs

/-- What `add` does where the library is full. -/
def evict (lib : ScenarioLibrary) : ScenarioLibrary :=
  if maxLibrarySize ≤ lib.entries.size then
    match lib.oldest with
    | some (oldestId, _) => { lib with entries := lib.entries.erase oldestId }
    | none => lib
  else lib

/-- The id is the one that `ScenarioId::new()` gives. -/
def add (lib : ScenarioLibrary) (id : ScenarioId) (kind : ScenarioKind) (plan : StoredPlan)
    (nowMs : Nat) : ScenarioLibrary :=
  let entry : ScenarioEntry :=
    { id, kind, plan, successRate := 1.0, missRate := 0.0, useCount := 0, createdAtMs := nowMs,
      lastUsedAtMs := nowMs }
  { entries := lib.evict.entries.insert id entry
    planToScenario := lib.evict.planToScenario.insert plan.id id }

def lookup (lib : ScenarioLibrary) (planId : PlanId) : Option ScenarioEntry :=
  lib.planToScenario[planId]?.bind fun scenarioId => lib.entries[scenarioId]?

def alpha : Float32 := 0.1

/-- The change that an outcome makes to the entry it is for. -/
def counted (entry : ScenarioEntry) (success : Bool) (nowMs : Nat) : ScenarioEntry :=
  { entry with
    successRate :=
      if success then entry.successRate * (1.0 - alpha) + alpha else entry.successRate * (1.0 - alpha)
    missRate :=
      if success then entry.missRate * (1.0 - alpha) else entry.missRate * (1.0 - alpha) + alpha
    useCount := entry.useCount + 1
    lastUsedAtMs := nowMs }

def updateOutcome (lib : ScenarioLibrary) (planId : PlanId) (success : Bool) (nowMs : Nat) :
    ScenarioLibrary :=
  match lib.planToScenario[planId]? with
  | none => lib
  | some scenarioId =>
    match lib.entries[scenarioId]? with
    | none => lib
    | some entry =>
      { lib with entries := lib.entries.insert scenarioId (counted entry success nowMs) }

def recordSuccess (lib : ScenarioLibrary) (planId : PlanId) (nowMs : Nat) : ScenarioLibrary :=
  lib.updateOutcome planId true nowMs

def recordMiss (lib : ScenarioLibrary) (planId : PlanId) (nowMs : Nat) : ScenarioLibrary :=
  lib.updateOutcome planId false nowMs

def setKind (lib : ScenarioLibrary) (scenarioId : ScenarioId) (kind : ScenarioKind) : ScenarioLibrary :=
  match lib.entries[scenarioId]? with
  | some entry => { lib with entries := lib.entries.insert scenarioId { entry with kind } }
  | none => lib

def promoteIfReady (lib : ScenarioLibrary) (planId : PlanId) : Option ScenarioId × ScenarioLibrary :=
  match lib.lookup planId with
  | none => (none, lib)
  | some entry =>
    if entry.successRate ≥ promoteSuccessRate ∧ entry.missRate ≤ promoteMissRateCeil ∧
        entry.useCount ≥ 10 then
      (some entry.id, lib.setKind entry.id .template)
    else (none, lib)

def demote (lib : ScenarioLibrary) (scenarioId : ScenarioId) : Bool × ScenarioLibrary :=
  match lib.entries[scenarioId]? with
  | some entry =>
    if entry.kind = .template then (true, lib.setKind scenarioId .deprecated) else (false, lib)
  | none => (false, lib)

def selectFirst (lib : ScenarioLibrary) : Option ScenarioId :=
  (lib.entries.values.find? fun e => decide (e.kind = .recording)).map ScenarioEntry.id

def Live (lib : ScenarioLibrary) (planId : PlanId) : Prop :=
  ∃ id : ScenarioId, ∃ entry : ScenarioEntry, lib.entries[id]? = some entry ∧ entry.plan.id = planId

/-- The index has the plans of the entries, and each with an entry of that plan. -/
structure Exact (lib : ScenarioLibrary) : Prop where
  bounded : lib.entries.size ≤ maxLibrarySize
  keys : ∀ planId, planId ∈ lib.planToScenario ↔ lib.Live planId
  mapped : ∀ planId id, lib.planToScenario[planId]? = some id →
    ∃ entry : ScenarioEntry, lib.entries[id]? = some entry ∧ entry.plan.id = planId

/-- What the index is for: the plans are found, and their outcomes are counted. -/
structure Indexed (lib : ScenarioLibrary) : Prop extends Exact lib where
  found : ∀ planId, (lib.lookup planId).isSome = true ↔ lib.Live planId
  counts : ∀ planId, lib.Live planId → ∀ success nowMs,
    ((lib.updateOutcome planId success nowMs).lookup planId).map ScenarioEntry.useCount =
      (lib.lookup planId).map fun entry => entry.useCount + 1

end ScenarioLibrary

/-- A library, and the counter, a `u64` like the ids, that every library of the process takes its ids
from. -/
structure Scenarios where
  counter : Nat
  library : ScenarioLibrary

inductive ScenarioOp where
  | add (kind : ScenarioKind) (plan : StoredPlan) (nowMs : Nat)
  | recordSuccess (planId : PlanId) (nowMs : Nat)
  | recordMiss (planId : PlanId) (nowMs : Nat)
  | promoteIfReady (planId : PlanId)
  | demote (scenarioId : ScenarioId)
  /-- Another library takes an id. -/
  | elsewhere

namespace Scenarios
open ScenarioLibrary

/-- The counter starts at one; libraries that were there before may have taken ids already. -/
def new (counter : Nat) : Scenarios := { counter, library := ScenarioLibrary.new }

def step (s : Scenarios) : ScenarioOp → Scenarios
  | .add kind plan nowMs =>
    { counter := s.counter + 1, library := s.library.add s.counter kind plan nowMs }
  | .recordSuccess planId nowMs => { s with library := s.library.recordSuccess planId nowMs }
  | .recordMiss planId nowMs => { s with library := s.library.recordMiss planId nowMs }
  | .promoteIfReady planId => { s with library := (s.library.promoteIfReady planId).2 }
  | .demote scenarioId => { s with library := (s.library.demote scenarioId).2 }
  | .elsewhere => { s with counter := s.counter + 1 }

/-- An entry that gives way to a new one is not the one by which the index finds another plan. -/
def Harmless (s : Scenarios) : ScenarioOp → Prop
  | .add _ plan _ => maxLibrarySize ≤ s.library.entries.size → ∀ id entry,
      s.library.oldest = some (id, entry) → s.library.planToScenario[entry.plan.id]? = some id →
        entry.plan.id = plan.id
  | _ => True

end Scenarios

end HidConnect.Kernel

import HidConnect.Kernel.Stream
import HidConnect.Library.Method

/-! Plans: their steps are run one after the other, with predicates before and after each of them. -/
namespace HidConnect.Kernel
open Fallible

abbrev PredicateHandle := UInt64

structure RegisteredPredicate where
  handle : PredicateHandle
  predicate : Predicate
  deriving DecidableEq

inductive PredicateOutcome where
  | noMatch | matched
  deriving DecidableEq

structure PredicateEngine where
  predicates : AList fun _ : PredicateHandle => RegisteredPredicate
  nextHandle : UInt64

namespace PredicateEngine

def new : PredicateEngine := { predicates := ∅, nextHandle := 0 }

def register (e : PredicateEngine) (predicate : Predicate) : PredicateHandle × PredicateEngine :=
  let handle := e.nextHandle
  (handle, {
    predicates := e.predicates.insert handle { handle, predicate }
    nextHandle := e.nextHandle + 1 })

def cancel (e : PredicateEngine) (handle : PredicateHandle) : Bool × PredicateEngine :=
  (decide (handle ∈ e.predicates), { e with predicates := e.predicates.erase handle })

def clear (e : PredicateEngine) : PredicateEngine := { e with predicates := ∅ }

def onObservation (e : PredicateEngine) (obs : Observation) :
    List (PredicateHandle × PredicateOutcome) :=
  e.predicates.entries.map fun entry =>
    (entry.1, if entry.2.predicate.matched obs then .matched else .noMatch)

end PredicateEngine

/-- `results.iter().any(..)` -/
def reports (results : List (PredicateHandle × PredicateOutcome)) (handle : PredicateHandle) : Bool :=
  results.any fun r => r.1 == handle && r.2 == .matched

structure PlanStep where
  id : StepId
  action : Action
  waitBefore : Option Predicate
  verifyAfter : Option Predicate
  label : Option String
  deriving DecidableEq

structure Plan where
  steps : List PlanStep
  abortOnError : Bool
  checkpointEvery : UInt32
  deriving DecidableEq

structure StepResult where
  stepId : StepId
  index : UInt32
  actionResult : ActionResult
  landed : Bool
  error : Option String
  deriving DecidableEq

structure PlanResult where
  planId : PlanId
  steps : List StepResult
  finalObservation : Observation
  totalElapsedMs : UInt32
  allLanded : Bool
  deriving DecidableEq

/-- They wrap, as in a release build. -/
structure ExecutorCounters where
  landed : UInt32
  aborted : UInt32
  skipped : UInt32
  checkpoints : UInt32
  deriving DecidableEq

inductive PlanFailure where
  | waitBeforeTimeout (stepIndex : UInt32) (stepId : StepId) (label : Option String)
  | verifyAfterMismatch (stepIndex : UInt32) (stepId : StepId) (label : Option String)
  | actionRefused (stepIndex : UInt32) (stepId : StepId) (reason : String)
  | cancelled (stepIndex : UInt32) (stepId : StepId)
  deriving DecidableEq

/-- The closures of the host, over whatever state they share. -/
structure Host (η : Type) where
  executeStep : Action → η → Except String ActionResult × η
  drainObservation : η → Option Observation × η

/-- What happens in a run. Nothing in the code reads it. -/
inductive PlanEvent where
  | awaited (answer : Option Observation)
  | waited (index : Nat) (matched : Bool)
  | executed (index : Nat) (answer : Except String ActionResult)
  | observed (answer : Option Observation)
  | judged (index : Nat) (obs : Observation) (matched : Bool)
  | completed (index : Nat) (landed : Bool)
  | checkpoint (index : Nat) (obs : Observation)
  | finished (answer : Option Observation)

/-- The engines, the local variables of `execute`, and the trace. -/
structure PlanRun (η : Type) where
  host : η
  predicateEngine : PredicateEngine
  streamEngine : StreamEngine
  stepsOut : List StepResult
  counters : ExecutorCounters
  finalObs : Observation
  trace : List PlanEvent

/-- An error of the code, or a wait that has not come to its end. -/
inductive PlanStop where
  | failed (failure : PlanFailure)
  | waiting
  deriving DecidableEq

abbrev Running (η : Type) := Method PlanStop (PlanRun η)

inductive WaitStatus where
  | matched | closed
  deriving DecidableEq

section Executor
variable {η : Type} (host : Host η)

def note (event : PlanEvent) : Running η Unit :=
  .update fun s => { s with trace := s.trace ++ [event] }

/-- A call of the closure, noted under what it is for. -/
def drain (event : Option Observation → PlanEvent) : Running η (Option Observation) := do
  let s ← .read
  let answer := host.drainObservation s.host
  .update fun s => { s with host := answer.2 }
  note (event answer.1)
  pure answer.1

def publish (obs : Observation) : Running η Unit :=
  .update fun s => { s with streamEngine := (s.streamEngine.produce fun _ => obs).2 }

def register (p : Predicate) : Running η PredicateHandle := do
  let s ← .read
  .update fun s => { s with predicateEngine := (s.predicateEngine.register p).2 }
  pure (s.predicateEngine.register p).1

def cancel (handle : PredicateHandle) : Running η Unit :=
  .update fun s => { s with predicateEngine := (s.predicateEngine.cancel handle).2 }

def evaluate (obs : Observation) (handle : PredicateHandle) : Running η Bool := do
  let s ← .read
  pure (reports (s.predicateEngine.onObservation obs) handle)

/-- The loop of `wait_for_predicate`, for as many turns as are given. -/
def waitLoop (handle : PredicateHandle) : Nat → Running η WaitStatus
  | 0 => .fail .waiting
  | turns + 1 => do
    match ← drain host .awaited with
    | none =>
      cancel handle
      pure .closed
    | some obs =>
      publish obs
      if ← evaluate obs handle then
        cancel handle
        pure .matched
      else waitLoop handle turns

def waitForPredicate (turns : Nat) (predicate : Predicate) : Running η WaitStatus := do
  let handle ← register predicate
  waitLoop host handle turns

/-- 1. Wait for `wait_before`. -/
def waitBefore (turns : Nat) (index : Nat) (step : PlanStep) : Running η Unit :=
  match step.waitBefore with
  | none => pure ()
  | some p => do
    match ← waitForPredicate host turns p with
    | .matched => note (.waited index true)
    | .closed =>
      note (.waited index false)
      .fail (.failed (.waitBeforeTimeout index.toUInt32 step.id step.label))

/-- 2. Execute the action. -/
def perform (index : Nat) (action : Action) : Running η (Except String ActionResult) := do
  let s ← .read
  let answer := host.executeStep action s.host
  .update fun s => { s with host := answer.2 }
  note (.executed index answer.1)
  pure answer.1

def refuse (plan : Plan) (index : Nat) (step : PlanStep) (reason : String) : Running η Unit :=
  if plan.abortOnError then .fail (.failed (.actionRefused index.toUInt32 step.id reason))
  else
    let stepRecord := {
      stepId := step.id, index := index.toUInt32, actionResult := .blank, landed := false
      error := some reason }
    .update fun s => { s with
      stepsOut := s.stepsOut ++ [stepRecord]
      counters := { s.counters with aborted := s.counters.aborted + 1 } }

/-- 3. Drain one observation. The same is done once more after the last step. -/
def observe (event : Option Observation → PlanEvent) : Running η Unit := do
  match ← drain host event with
  | none => pure ()
  | some obs =>
    publish obs
    .update fun s => { s with finalObs := obs }

/-- 4. Evaluate `verify_after` against the latest observation. -/
def verify (index : Nat) (step : PlanStep) : Running η Unit :=
  match step.verifyAfter with
  | none => pure ()
  | some p => do
    let handle ← register p
    let s ← .read
    let matched ← evaluate s.finalObs handle
    cancel handle
    note (.judged index s.finalObs matched)
    if matched then pure ()
    else .fail (.failed (.verifyAfterMismatch index.toUInt32 step.id step.label))

/-- 5. Record the result of the step. -/
def record (index : Nat) (step : PlanStep) (result : ActionResult) : Running η Unit :=
  let stepRecord := {
    stepId := step.id, index := index.toUInt32, actionResult := result, landed := result.landed
    error := none }
  .update fun s => { s with
    stepsOut := s.stepsOut ++ [stepRecord]
    counters :=
      if result.landed then { s.counters with landed := s.counters.landed + 1 }
      else { s.counters with aborted := s.counters.aborted + 1 }
    trace := s.trace ++ [.completed index result.landed] }

/-- The observation that carries a checkpoint. -/
def checkpointCopy (planId : PlanId) (obs : Observation) : Observation :=
  { obs with events := obs.events ++ [.planCompleted planId false 0] }

/-- 6. Emit a checkpoint. -/
def emitCheckpoint (plan : Plan) (planId : PlanId) (index : Nat) : Running η Unit := do
  let s ← .read
  if 0 < plan.checkpointEvery ∧ s.counters.landed % plan.checkpointEvery = 0 then
    publish (checkpointCopy planId s.finalObs)
    note (.checkpoint index (checkpointCopy planId s.finalObs))
    .update fun s => { s with
      counters := { s.counters with checkpoints := s.counters.checkpoints + 1 } }
  else pure ()

def finishStep (plan : Plan) (planId : PlanId) (index : Nat) (step : PlanStep)
    (result : ActionResult) : Running η Unit := do
  observe host .observed
  verify index step
  record index step result
  emitCheckpoint plan planId index
  if !result.landed && plan.abortOnError then .fail (.failed (.cancelled index.toUInt32 step.id))
  else pure ()

/-- One turn of the loop over the steps. -/
def runStep (plan : Plan) (planId : PlanId) (turns : Nat) (step : PlanStep × Nat) :
    Running η Unit := do
  waitBefore host turns step.2 step.1
  match ← perform host step.2 step.1.action with
  | .error reason => refuse plan step.2 step.1 reason
  | .ok result => finishStep host plan planId step.2 step.1 result

/-- The result that the local variables are put together into. -/
def PlanRun.result (s : PlanRun η) (planId : PlanId) : PlanResult where
  planId := planId
  steps := s.stepsOut
  finalObservation := s.finalObs
  totalElapsedMs := s.counters.landed
  allLanded := s.stepsOut.all StepResult.landed

def executeBody (plan : Plan) (planId : PlanId) (turns : Nat) :
    Running η (PlanResult × ExecutorCounters) := do
  .forEach plan.steps.zipIdx (runStep host plan planId turns)
  observe host .finished
  let s ← .read
  pure (s.result planId, s.counters)

/-- The local variables at the start. -/
def PlanRun.start (predicateEngine : PredicateEngine) (streamEngine : StreamEngine) (state : η) :
    PlanRun η where
  host := state
  predicateEngine := predicateEngine
  streamEngine := streamEngine
  stepsOut := []
  counters := { landed := 0, aborted := 0, skipped := 0, checkpoints := 0 }
  finalObs := .initial
  trace := []

/-- With an error come the steps that are recorded in the state after it. -/
def execute (plan : Plan) (planId : PlanId) (turns : Nat) (predicateEngine : PredicateEngine)
    (streamEngine : StreamEngine) (state : η) :
    Outcome PlanStop (PlanResult × ExecutorCounters) × PlanRun η :=
  (executeBody host plan planId turns).run (.start predicateEngine streamEngine state)

end Executor

end HidConnect.Kernel

import HidConnect.Kernel.PlanTurn
import HidConnect.Library.Run
import HidConnect.Library.Trace
import Mathlib.Algebra.Group.Nat.Defs

/-! Plans that stop at their first failure, and the predicates that a plan registers on the way. -/
namespace HidConnect.Kernel
open Fallible

def PlanEvent.isFailure : PlanEvent → Bool
  | waited _ matched => !matched
  | executed _ (.error _) => true
  | executed _ (.ok result) => !result.landed
  | judged _ _ matched => !matched
  | _ => false

/-- No action is executed once a step has failed. -/
def NothingAfterFailure (before : List PlanEvent) (event : PlanEvent) : Prop :=
  ∀ i answer, event = .executed i answer → ∀ e ∈ before, e.isFailure = false

def InPlanOrder (plan : Plan) (results : List StepResult) : Prop :=
  ∀ (k : Nat) (result : StepResult), results[k]? = some result →
    ∃ step : PlanStep, plan.steps[k]? = some step ∧
      result.stepId = step.id ∧ result.index = k.toUInt32

theorem InPlanOrder.snoc {plan : Plan} {results : List StepResult} {result : StepResult} {step : PlanStep}
    (h : InPlanOrder plan results) (found : plan.steps[results.length]? = some step)
    (stepId : result.stepId = step.id) (index : result.index = results.length.toUInt32) :
    InPlanOrder plan (results ++ [result]) := by
  intro k r at_
  rcases Nat.lt_trichotomy k results.length with lower | rfl | higher
  · rw [List.getElem?_append_left lower] at at_
    exact h k r at_
  · rw [List.getElem?_append_right (Nat.le_refl _), Nat.sub_self] at at_
    cases at_
    exact ⟨step, found, stepId, index⟩
  · have outside : (results ++ [result]).length ≤ k := by
      rw [List.length_append]
      exact higher
    rw [List.getElem?_eq_none outside] at at_
    contradiction

/- Handles. -/

def PlanStep.predicates (step : PlanStep) : List Predicate :=
  step.waitBefore.toList ++ step.verifyAfter.toList

def predicateCount (steps : List PlanStep) : Nat := (steps.flatMap PlanStep.predicates).length

namespace PredicateEngine

/-- The next handles, as many as are asked for, are not in use. -/
def FreshHandles (e : PredicateEngine) (count : Nat) : Prop :=
  ∀ k < count, e.nextHandle + k.toUInt64 ∉ e.predicates

theorem predicates_used {e : PredicateEngine} (fresh : e.nextHandle ∉ e.predicates) :
    e.used.predicates = e.predicates :=
  AList.ext (List.kerase_of_notMem_keys fresh)

theorem nextHandle_iterate (e : PredicateEngine) (k : Nat) :
    (used^[k] e).nextHandle = e.nextHandle + k.toUInt64 := by
  induction k with
  | zero => exact (UInt64.add_zero _).symm
  | succ k ih =>
    rw [Function.iterate_succ_apply']
    change (used^[k] e).nextHandle + 1 = _
    rw [ih, UInt64.add_assoc]
    congr 1
    exact (UInt64.ofNat_add k 1).symm

/-- Predicates come and go without a trace while their handles are fresh. -/
theorem predicates_iterate {e : PredicateEngine} {count k : Nat} (fresh : e.FreshHandles count)
    (few : k ≤ count) : (used^[k] e).predicates = e.predicates := by
  induction k with
  | zero => rfl
  | succ k ih =>
    have before := ih (Nat.le_of_succ_le few)
    rw [Function.iterate_succ_apply', predicates_used, before]
    rw [before, nextHandle_iterate]
    exact fresh k few

/-- The engine after the predicate of a step, if there is one. -/
def spend (e : PredicateEngine) (p : Option Predicate) : PredicateEngine :=
  used^[p.toList.length] e

end PredicateEngine

theorem predicateCount_take_le (steps : List PlanStep) (i : Nat) :
    predicateCount (steps.take i) ≤ predicateCount steps := by
  unfold predicateCount
  conv_rhs => rw [← List.take_append_drop i steps, List.flatMap_append, List.length_append]
  exact Nat.le_add_right ..

theorem predicateCount_take_succ {steps : List PlanStep} {i : Nat} {step : PlanStep}
    (found : steps[i]? = some step) :
    predicateCount (steps.take (i + 1)) = predicateCount (steps.take i) + step.predicates.length := by
  unfold predicateCount
  rw [List.take_add_one, found, List.flatMap_append, List.length_append, Option.toList_some,
    List.flatMap_singleton]

section Turns
variable {η : Type} {host : Host η} {plan : Plan} {planId : PlanId} {turns i : Nat} {step : PlanStep}

theorem Waited.spent {s w : PlanRun η} {ending : WaitEnd} (h : Waited host turns i step s ending w)
    (ended : ending ≠ .waiting) : w.predicateEngine = s.predicateEngine.spend step.waitBefore := by
  cases h with
  | free absent =>
    rw [absent]
    rfl
  | waiting present drains unmatched long => contradiction
  | closed present drains unmatched eof =>
    rw [present]
    rfl
  | matched present drains unmatched answer met =>
    rw [present]
    rfl

theorem predicateEngine_verified (w : PlanRun η) :
    (w.verified host i step).predicateEngine = w.predicateEngine.spend step.verifyAfter := by
  unfold PlanRun.verified PlanRun.judged
  cases step.verifyAfter <;> rfl

theorem spend_iterate (e : PredicateEngine) (k : Nat) (p : Option Predicate) :
    (PredicateEngine.used^[k] e).spend p = PredicateEngine.used^[p.toList.length + k] e :=
  (Function.iterate_add_apply ..).symm

theorem predicateEngine_done (w : PlanRun η) (result : ActionResult) :
    (w.done host plan planId i step result).predicateEngine =
      w.predicateEngine.spend step.verifyAfter := by
  unfold PlanRun.done
  rw [predicateEngine_checkpointed]
  exact predicateEngine_verified w

theorem Waited.calm {s w : PlanRun η} (h : Waited host turns i step s .passed w) :
    ∃ more, w.trace = s.trace ++ more ∧ ∀ event ∈ more, event.isFailure = false := by
  cases h with
  | free absent => exact ⟨[], (List.append_nil _).symm, fun event member => absurd member List.not_mem_nil⟩
  | matched present drains unmatched answer met =>
    refine ⟨_, List.append_assoc .., fun event member => ?_⟩
    rcases List.mem_append.mp member with member | member
    · obtain ⟨o, -, rfl⟩ := List.mem_map.mp member
      rfl
    · rw [List.mem_singleton.mp member]
      rfl

theorem Waited.calm_trace {s w : PlanRun η} (h : Waited host turns i step s .passed w)
    (calm : ∀ event ∈ s.trace, event.isFailure = false) :
    ∀ event ∈ w.trace, event.isFailure = false := by
  obtain ⟨more, trace, added⟩ := h.calm
  rw [trace, List.forall_mem_append]
  exact ⟨calm, added⟩

def PlanEvent.isAction : PlanEvent → Bool
  | executed _ _ => true
  | _ => false

theorem upheld_of_calm {trace : List PlanEvent} (calm : ∀ event ∈ trace, event.isFailure = false) :
    Trace.Upheld NothingAfterFailure trace := by
  rintro before event after rfl i answer - e member
  exact calm e (List.mem_append_left _ member)

theorem upheld_idle {trace more : List PlanEvent} (upheld : Trace.Upheld NothingAfterFailure trace)
    (idle : ∀ event ∈ more, event.isAction = false) :
    Trace.Upheld NothingAfterFailure (trace ++ more) := by
  refine Trace.upheld_append upheld ?_
  rintro before event member i answer rfl
  exact absurd (idle _ member) Bool.noConfusion

/-- A run that may go on after this many steps. -/
structure Tidy (plan : Plan) (e : PredicateEngine) (i : Nat) (s : PlanRun η) : Prop where
  engine : ∃ k ≤ predicateCount (plan.steps.take i), s.predicateEngine = PredicateEngine.used^[k] e
  order : InPlanOrder plan s.stepsOut
  length : s.stepsOut.length = i
  calm : plan.abortOnError = true → ∀ event ∈ s.trace, event.isFailure = false

structure Halted (plan : Plan) (s : PlanRun η) : Prop where
  order : InPlanOrder plan s.stepsOut
  upheld : plan.abortOnError = true → Trace.Upheld NothingAfterFailure s.trace

def Returned (plan : Plan) (e : PredicateEngine) (s : PlanRun η) : Prop :=
  ∃ k ≤ predicateCount plan.steps, s.predicateEngine = PredicateEngine.used^[k] e

section Step
variable {e : PredicateEngine} {s w : PlanRun η}

theorem Tidy.halted (h : Tidy plan e i s) : Halted plan s :=
  ⟨h.order, fun abort => upheld_of_calm (h.calm abort)⟩

theorem Halted.idle {t : PlanRun η} (h : Halted plan s) (more : List PlanEvent)
    (idle : ∀ event ∈ more, event.isAction = false) (stepsOut : t.stepsOut = s.stepsOut)
    (trace : t.trace = s.trace ++ more) : Halted plan t := by
  constructor
  · rw [stepsOut]
    exact h.order
  · intro abort
    rw [trace]
    exact upheld_idle (h.upheld abort) idle

theorem Tidy.waited (h : Tidy plan e i s) {ending : WaitEnd} (wait : Waited host turns i step s ending w) :
    Halted plan w := by
  obtain ⟨more, trace, waits⟩ := wait.trace
  refine h.halted.idle more (fun event member => ?_) wait.stepsOut trace
  have := waits event member
  cases event <;> first | rfl | contradiction

theorem Tidy.performed (h : Tidy plan e i s) (wait : Waited host turns i step s .passed w) :
    Halted plan (w.performed host i step.action) := by
  refine ⟨(h.waited wait).order, fun abort => ?_⟩
  have calm := wait.calm_trace (h.calm abort)
  refine Trace.upheld_snoc.mpr ⟨upheld_of_calm calm, ?_⟩
  intro j answer same
  exact calm

theorem isAction_verdict {obs : Observation} {verifyAfter : Option Predicate} :
    ∀ event ∈ verdict i obs verifyAfter, event.isAction = false := by
  intro event member
  obtain ⟨p, -, rfl⟩ := mem_verdict member
  rfl

theorem Halted.judged (h : Halted plan w) (verifyAfter : Option Predicate) :
    Halted plan ((w.observed host .observed).judged i verifyAfter) := by
  have observed : Halted plan (w.observed host .observed) := by
    refine h.idle [.observed (host.drainObservation w.host).1] ?_ rfl rfl
    rintro event (_ | ⟨_, ⟨⟩⟩)
    rfl
  exact observed.idle _ isAction_verdict (stepsOut_judged ..) (trace_judged ..)

theorem Tidy.spent (h : Tidy plan e i s) (found : plan.steps[i]? = some step)
    (engine : w.predicateEngine = s.predicateEngine.spend step.waitBefore) :
    (∃ k ≤ predicateCount (plan.steps.take (i + 1)),
      w.predicateEngine = PredicateEngine.used^[k] e) ∧
    ∃ k ≤ predicateCount (plan.steps.take (i + 1)),
      w.predicateEngine.spend step.verifyAfter = PredicateEngine.used^[k] e := by
  obtain ⟨k, few, same⟩ := h.engine
  rw [engine, same, spend_iterate, spend_iterate, predicateCount_take_succ found]
  unfold PlanStep.predicates
  rw [List.length_append]
  constructor
  · exact ⟨_, by omega, rfl⟩
  · exact ⟨_, by omega, rfl⟩

theorem returned_of_take (count : Nat) {t : PlanRun η}
    (h : ∃ k ≤ predicateCount (plan.steps.take count), t.predicateEngine = PredicateEngine.used^[k] e) :
    Returned plan e t := by
  obtain ⟨k, few, same⟩ := h
  exact ⟨k, Nat.le_trans few (predicateCount_take_le ..), same⟩

theorem Tidy.recorded (h : Tidy plan e i s) (found : plan.steps[i]? = some step) {t : PlanRun η}
    {result : StepResult} (stepsOut : t.stepsOut = s.stepsOut ++ [result])
    (stepId : result.stepId = step.id) (index : result.index = i.toUInt32) :
    InPlanOrder plan t.stepsOut ∧ t.stepsOut.length = i + 1 := by
  rw [stepsOut, List.length_append, h.length]
  refine ⟨h.order.snoc ?_ stepId ?_, rfl⟩
  · rw [h.length]
    exact found
  · rw [h.length]
    exact index

theorem Tidy.refused (h : Tidy plan e i s) (found : plan.steps[i]? = some step)
    (wait : Waited host turns i step s .passed w) (abort : plan.abortOnError = false) (reason : String) :
    Tidy plan e (i + 1) ((w.performed host i step.action).refused i step reason) := by
  have stepsOut : ((w.performed host i step.action).refused i step reason).stepsOut =
      s.stepsOut ++ [{
        stepId := step.id, index := i.toUInt32, actionResult := .blank, landed := false
        error := some reason }] := by
    rw [← wait.stepsOut]
    rfl
  obtain ⟨order, length⟩ := h.recorded found stepsOut rfl rfl
  refine ⟨(h.spent found (wait.spent (by decide))).1, order, length, fun abort' => ?_⟩
  rw [abort] at abort'
  contradiction

theorem calm_done {result : ActionResult} (calm : ∀ event ∈ w.trace, event.isFailure = false)
    (said : (host.executeStep step.action w.host).1 = .ok result) (landed : result.landed = true)
    (accepted : ∀ p, step.verifyAfter = some p →
      p.matched ((w.performed host i step.action).latest host) = true) :
    ∀ event ∈ (w.done host plan planId i step result).trace, event.isFailure = false := by
  rw [trace_done, trace_verified, said]
  intro event member
  simp only [List.mem_append, List.mem_singleton] at member
  rcases member with (((member | rfl) | rfl) | member) | rfl | member
  · exact calm event member
  · simp [PlanEvent.isFailure, landed]
  · rfl
  · obtain ⟨p, verify, rfl⟩ := mem_verdict member
    simp [PlanEvent.isFailure, accepted p verify]
  · rfl
  · rw [mem_marks member]
    rfl

theorem Tidy.done (h : Tidy plan e i s) (found : plan.steps[i]? = some step)
    (wait : Waited host turns i step s .passed w) {result : ActionResult}
    (said : (host.executeStep step.action w.host).1 = .ok result)
    (accepted : ∀ p, step.verifyAfter = some p →
      p.matched ((w.performed host i step.action).latest host) = true)
    (goOn : plan.abortOnError = true → result.landed = true) :
    Tidy plan e (i + 1) (w.done host plan planId i step result) := by
  obtain ⟨order, length⟩ := h.recorded found
    ((stepsOut_done ..).trans (by rw [wait.stepsOut])) rfl rfl
  refine ⟨?_, order, length, fun abort => ?_⟩
  · rw [predicateEngine_done]
    exact (h.spent found (wait.spent (by decide))).2
  · exact calm_done (wait.calm_trace (h.calm abort)) said (goOn abort) accepted

theorem Tidy.cancelled (h : Tidy plan e i s) (found : plan.steps[i]? = some step)
    (wait : Waited host turns i step s .passed w) (result : ActionResult) :
    Halted plan (w.done host plan planId i step result) := by
  have judged : Halted plan (w.verified host i step) := (h.performed wait).judged step.verifyAfter
  constructor
  · exact (h.recorded found ((stepsOut_done ..).trans (by rw [wait.stepsOut])) rfl rfl).1
  · intro abort
    rw [trace_done]
    refine upheld_idle (judged.upheld abort) fun event member => ?_
    rcases List.mem_append.mp member with member | member
    · rw [List.mem_singleton.mp member]
      rfl
    · rw [mem_marks member]
      rfl

theorem tidy_turn {r : Outcome PlanStop Unit × PlanRun η} (h : Tidy plan e i s)
    (found : plan.steps[i]? = some step) (turn : Turn host plan planId turns i step s r) :
    Method.Ends (fun _ => Tidy plan e (i + 1))
      (fun stop t => Halted plan t ∧ (stop ≠ .waiting → Returned plan e t)) r := by
  have spent {w : PlanRun η} {ending : WaitEnd} (wait : Waited host turns i step s ending w)
      (ended : ending ≠ .waiting) := h.spent found (wait.spent ended)
  cases turn with
  | waiting wait => exact ⟨h.waited wait, fun ended => absurd rfl ended⟩
  | closed wait =>
    exact ⟨h.waited wait, fun _ => returned_of_take _ (spent wait (by decide)).1⟩
  | aborted wait said abort =>
    exact ⟨h.performed wait, fun _ => returned_of_take _ (spent wait (by decide)).1⟩
  | refused wait said abort => exact h.refused found wait abort _
  | mismatched wait said verify rejected =>
    refine ⟨(h.performed wait).judged step.verifyAfter, fun _ => returned_of_take (i + 1) ?_⟩
    · rw [predicateEngine_verified]
      exact (spent wait (by decide)).2
  | @done w result wait said accepted =>
    cases landed : result.landed with
    | true => exact h.done found wait said accepted fun _ => landed
    | false =>
      cases abort : plan.abortOnError with
      | false => exact h.done found wait said accepted fun abort' => by rw [abort] at abort'; cases abort'
      | true =>
        refine ⟨h.cancelled found wait result, fun _ => returned_of_take (i + 1) ?_⟩
        · rw [predicateEngine_done]
          exact (spent wait (by decide)).2

end Step

end Turns

/- Engines, from their creation on. -/

inductive EngineOp where
  | register (predicate : Predicate)
  | cancel (handle : PredicateHandle)
  | clear

def PredicateEngine.step (e : PredicateEngine) : EngineOp → PredicateEngine
  | .register predicate => (e.register predicate).2
  | .cancel handle => (e.cancel handle).2
  | .clear => e.clear

def EngineOp.isRegister : EngineOp → Bool
  | register _ => true
  | _ => false

/-- The handles in use are among those that were given out. -/
structure GivenOut (count : Nat) (e : PredicateEngine) : Prop where
  next : e.nextHandle = count.toUInt64
  known : ∀ handle ∈ e.predicates, handle.toNat < count

theorem givenOut_after {ops : List EngineOp} (few : (ops.countP EngineOp.isRegister) ≤ 2 ^ 64) :
    GivenOut (ops.countP EngineOp.isRegister) (Run.after PredicateEngine.step .new ops) := by
  induction ops using List.reverseRecOn with
  | nil => exact ⟨rfl, fun handle member => absurd member (AList.notMem_empty handle)⟩
  | append_singleton ops op ih =>
    rw [Run.after_append]
    rw [List.countP_append] at few ⊢
    have before := ih (Nat.le_trans (Nat.le_add_right ..) few)
    change GivenOut _ (PredicateEngine.step (Run.after PredicateEngine.step .new ops) op)
    cases op with
    | register predicate =>
      rw [List.countP_singleton] at few ⊢
      simp only [EngineOp.isRegister, if_true] at few ⊢
      constructor
      · change _ + 1 = _
        rw [before.next]
        exact (UInt64.ofNat_add _ 1).symm
      · intro handle member
        rcases (AList.mem_insert _).mp member with rfl | member
        · rw [before.next]
          change (UInt64.ofNat _).toNat < _
          rw [UInt64.toNat_ofNat']
          exact Nat.lt_succ_of_le (Nat.mod_le ..)
        · exact Nat.lt_succ_of_lt (before.known handle member)
    | cancel handle =>
      refine ⟨before.next, fun other member => ?_⟩
      exact before.known other (AList.mem_erase.mp member).2
    | clear => exact ⟨before.next, fun handle member => absurd member (AList.notMem_empty handle)⟩

/-- While no more predicates are registered than there are handles, handles are fresh. -/
theorem freshHandles_after {ops : List EngineOp} {count : Nat}
    (few : ops.countP EngineOp.isRegister + count ≤ 2 ^ 64) :
    (Run.after PredicateEngine.step .new ops).FreshHandles count := by
  intro k below member
  have given := givenOut_after (Nat.le_trans (Nat.le_add_right ..) few)
  have known := given.known _ member
  have sum : UInt64.ofNat (ops.countP EngineOp.isRegister) + UInt64.ofNat k =
      UInt64.ofNat (ops.countP EngineOp.isRegister + k) := (UInt64.ofNat_add ..).symm
  rw [given.next] at known
  change (UInt64.ofNat _ + UInt64.ofNat k).toNat < _ at known
  rw [sum, UInt64.toNat_ofNat', Nat.mod_eq_of_lt (by omega)] at known
  omega

/-- An aborting plan executes nothing after its first failure, and the results of every plan are in order.
Where the handles that it will draw are not in use, a plan that returns, by whatever exit, leaves the
registered predicates as it found them. -/
structure WellBehaved {η : Type} (plan : Plan) (e : PredicateEngine)
    (r : Outcome PlanStop (PlanResult × ExecutorCounters) × PlanRun η) : Prop where
  aborts : plan.abortOnError = true → Trace.Upheld NothingAfterFailure r.2.trace
  order : InPlanOrder plan r.2.stepsOut
  allLanded : ∀ answer counters, r.1 = .ok (answer, counters) → answer.steps = r.2.stepsOut ∧
    (answer.allLanded = true ↔ ∀ result ∈ answer.steps, result.landed = true)
  hygiene : e.FreshHandles (predicateCount plan.steps) → r.1 ≠ .err .waiting →
    r.2.predicateEngine.predicates = e.predicates

section Execute
variable {η : Type} (host : Host η) (plan : Plan) (planId : PlanId) (turns : Nat)
  (predicateEngine : PredicateEngine) (streamEngine : StreamEngine) (state : η)

theorem abort_and_hygiene :
    WellBehaved plan predicateEngine
      (execute host plan planId turns predicateEngine streamEngine state) := by
  have initial : Tidy plan predicateEngine 0 (PlanRun.start predicateEngine streamEngine state) :=
    ⟨⟨0, Nat.zero_le _, rfl⟩, (fun k result at_ => by cases at_), rfl,
      fun _ event member => absurd member List.not_mem_nil⟩
  have ends : Method.Ends _ _ (execute host plan planId turns predicateEngine streamEngine state) :=
    execute_ends host (Tidy plan predicateEngine) initial
      fun i step s r found tidy turn => tidy_turn tidy found turn
  have kept (fresh : predicateEngine.FreshHandles (predicateCount plan.steps)) {s : PlanRun η}
      (returned : Returned plan predicateEngine s) :
      s.predicateEngine.predicates = predicateEngine.predicates := by
    obtain ⟨k, few, same⟩ := returned
    rw [same]
    exact PredicateEngine.predicates_iterate fresh few
  generalize execute host plan planId turns predicateEngine streamEngine state = r at ends
  rcases r with ⟨answer | stop | _, t⟩
  · obtain ⟨w, tidy, rfl, rfl⟩ := ends
    have halted : Halted plan (w.observed host .finished) := by
      refine tidy.halted.idle [.finished (host.drainObservation w.host).1] ?_ rfl rfl
      rintro event (_ | ⟨_, ⟨⟩⟩)
      rfl
    refine ⟨halted.upheld, halted.order, ?_, fun fresh _ => ?_⟩
    · rintro answer counters same
      cases same
      exact ⟨rfl, List.all_eq_true⟩
    · exact kept fresh (returned_of_take (t := w.observed host .finished) _ tidy.engine)
  · obtain ⟨halted, returned⟩ := ends
    refine ⟨halted.upheld, halted.order, (fun answer counters same => by cases same), ?_⟩
    intro fresh ended
    exact kept fresh (returned fun same => ended (by rw [same]))
  · contradiction

end Execute

def closedHost : Host Unit where
  executeStep _ s := (.error "refused", s)
  drainObservation s := (none, s)

def homeOnTop : Predicate := .activity "app/.Home" 1000

def waitingPlan : Plan where
  steps := [{
    id := 0, action := .tap 0 0 0, waitBefore := some homeOnTop, verifyAfter := none, label := none }]
  abortOnError := true
  checkpointEvery := 0

theorem timeout_keeps_registered :
    (execute closedHost waitingPlan 1 1 (Run.after PredicateEngine.step .new [.register homeOnTop])
        .new ()).2.predicateEngine.predicates =
      (Run.after PredicateEngine.step .new [.register homeOnTop]).predicates :=
  (abort_and_hygiene closedHost waitingPlan 1 1 _ .new ()).hygiene (freshHandles_after (by decide))
    (by decide)

/-- One predicate that stays, and then so many that come and go. -/
def passing (count : Nat) : List EngineOp :=
  .register homeOnTop ::
    (List.range count).flatMap fun k => [.register homeOnTop, .cancel (k + 1).toUInt64]

def holding (next : PredicateHandle) : PredicateEngine where
  predicates := AList.insert 0 { handle := 0, predicate := homeOnTop } ∅
  nextHandle := next

theorem after_passing {count : Nat} (few : count < 2 ^ 64) :
    Run.after PredicateEngine.step .new (passing count) = holding (count + 1).toUInt64 := by
  induction count with
  | zero => rfl
  | succ count ih =>
    have before := ih (Nat.lt_of_succ_lt few)
    have longer : passing (count + 1) =
        passing count ++ [.register homeOnTop, .cancel (count + 1).toUInt64] := by
      unfold passing
      rw [List.range_succ, List.flatMap_append, List.flatMap_singleton, List.cons_append]
    have unused : (count + 1).toUInt64 ∉ (holding (count + 1).toUInt64).predicates := by
      intro member
      rcases (AList.mem_insert _).mp member with same | member
      · have := congrArg UInt64.toNat same
        change (UInt64.ofNat _).toNat = 0 at this
        rw [UInt64.toNat_ofNat', Nat.mod_eq_of_lt few] at this
        contradiction
      · exact AList.notMem_empty _ member
    rw [longer, Run.after_append, before]
    refine (PredicateEngine.cancel_register (holding (count + 1).toUInt64) homeOnTop).trans ?_
    have kept := PredicateEngine.predicates_used unused
    have next : (count + 1).toUInt64 + 1 = (count + 1 + 1).toUInt64 := (UInt64.ofNat_add _ 1).symm
    change PredicateEngine.mk _ _ = PredicateEngine.mk _ _
    rw [PredicateEngine.mk.injEq]
    exact ⟨kept, next⟩

/-- When the handles start again from the first one, a wait cancels the predicate that holds it. -/
theorem wrapped_handle_is_cancelled :
    let e := Run.after PredicateEngine.step .new (passing (2 ^ 64 - 1))
    let r := execute closedHost waitingPlan 1 1 e .new ()
    r.1 = .err (.failed (.waitBeforeTimeout 0 0 none)) ∧
      r.2.predicateEngine.predicates ≠ e.predicates := by
  intro e r
  have wrapped : e = holding 0 := after_passing (by decide)
  have lost : (execute closedHost waitingPlan 1 1 (holding 0) .new ()).2.predicateEngine.predicates = ∅ :=
    rfl
  refine ⟨?_, ?_⟩
  · unfold r
    rw [wrapped]
    rfl
  · unfold r
    rw [wrapped, lost]
    intro same
    have member : (0 : PredicateHandle) ∈ (holding 0).predicates := (AList.mem_insert _).mpr (.inl rfl)
    rw [← same] at member
    exact AList.notMem_empty _ member

end HidConnect.Kernel

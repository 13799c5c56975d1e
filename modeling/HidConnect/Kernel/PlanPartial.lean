import HidConnect.Kernel.PlanTurn
import HidConnect.Library.Trace

/-! The steps that a failed plan reports, and the actions that it carried out. -/
namespace HidConnect.Kernel
open Fallible

/-- The entries of steps whose actions were not refused. -/
def carriedOut (results : List StepResult) : List (UInt32 × ActionResult) :=
  results.filterMap fun r => if r.error.isNone then some (r.index, r.actionResult) else none

def answeredOk : PlanEvent → Option (UInt32 × ActionResult)
  | .executed i (.ok result) => some (i.toUInt32, result)
  | _ => none

/-- The actions that the host carried out, and what it reported of them. -/
def answered (trace : List PlanEvent) : List (UInt32 × ActionResult) := trace.filterMap answeredOk

def NoneRejected (trace : List PlanEvent) : Prop := ∀ i obs, .judged i obs false ∉ trace

theorem noneRejected_append {trace more : List PlanEvent} :
    NoneRejected (trace ++ more) ↔ NoneRejected trace ∧ NoneRejected more := by
  simp only [NoneRejected, List.mem_append, not_or, forall_and]

theorem carriedOut_snoc (results : List StepResult) (r : StepResult) :
    carriedOut (results ++ [r]) = carriedOut results ++
      (if r.error.isNone then [(r.index, r.actionResult)] else []) := by
  unfold carriedOut
  rw [List.filterMap_append, List.filterMap_cons, List.filterMap_nil]
  cases r.error.isNone <;> rfl

section Partial
variable {η : Type}

/-- Every action that was carried out is reported. -/
def TraceComplete (s : PlanRun η) : Prop := carriedOut s.stepsOut = answered s.trace

/-- Only what a verification rejects goes missing. -/
def MissingIffRejected (s : PlanRun η) : Prop := TraceComplete s ↔ NoneRejected s.trace

structure Reported (s : PlanRun η) : Prop where
  entries : carriedOut s.stepsOut = answered s.trace
  accepted : NoneRejected s.trace

theorem Reported.iff {s : PlanRun η} (h : Reported s) : MissingIffRejected s :=
  iff_of_true h.entries h.accepted

/-- Events that neither carry anything out nor reject it. -/
def PlanEvent.isNeutral (event : PlanEvent) : Prop :=
  answeredOk event = none ∧ ∀ i obs, event ≠ .judged i obs false

theorem Reported.quiet {s t : PlanRun η} (h : Reported s) (more : List PlanEvent)
    (neutral : ∀ event ∈ more, event.isNeutral) (stepsOut : t.stepsOut = s.stepsOut)
    (trace : t.trace = s.trace ++ more) : Reported t := by
  constructor
  · rw [stepsOut, trace, h.entries]
    exact (Trace.filterMap_append_of_none fun event member => (neutral event member).1).symm
  · rw [trace, noneRejected_append]
    exact ⟨h.accepted, fun i obs member => (neutral _ member).2 i obs rfl⟩

theorem neutral_of_isWait {event : PlanEvent} (wait : event.isWait = true) : event.isNeutral := by
  cases event with
  | awaited answer => exact ⟨rfl, fun i obs same => by cases same⟩
  | waited index matched => exact ⟨rfl, fun i obs same => by cases same⟩
  | _ => contradiction

theorem Reported.waited {host : Host η} {turns i : Nat} {step : PlanStep} {s w : PlanRun η}
    {ending : WaitEnd} (h : Reported s) (wait : Waited host turns i step s ending w) : Reported w := by
  obtain ⟨more, trace, waits⟩ := wait.trace
  exact h.quiet more (fun event member => neutral_of_isWait (waits event member)) wait.stepsOut trace

theorem Reported.performed {host : Host η} {i : Nat} {action : Action} {w : PlanRun η} {reason : String}
    (h : Reported w) (said : (host.executeStep action w.host).1 = .error reason) :
    Reported (w.performed host i action) := by
  refine h.quiet [.executed i (.error reason)] ?_ rfl ?_
  · rintro event (_ | ⟨_, ⟨⟩⟩)
    exact ⟨rfl, fun i obs same => by cases same⟩
  · rw [← said]
    rfl

theorem Reported.refused {w : PlanRun η} (h : Reported w) (i : Nat) (step : PlanStep)
    (reason : String) : Reported (w.refused i step reason) := by
  refine ⟨?_, h.accepted⟩
  change carriedOut (w.stepsOut ++ [_]) = answered w.trace
  rw [carriedOut_snoc, h.entries]
  exact List.append_nil _

theorem answered_executed (trace : List PlanEvent) (i : Nat) (result : ActionResult) :
    answered (trace ++ [.executed i (.ok result)]) = answered trace ++ [(i.toUInt32, result)] := by
  unfold answered
  rw [List.filterMap_append]
  rfl

theorem answered_append {trace more : List PlanEvent} (none : ∀ event ∈ more, answeredOk event = none) :
    answered (trace ++ more) = answered trace := Trace.filterMap_append_of_none none

theorem noneRejected_marks (w : PlanRun η) (i : Nat) (plan : Plan) (planId : PlanId) :
    NoneRejected (w.marks i plan planId) := by
  intro j obs member
  cases mem_marks member

section Judged
variable {host : Host η} {plan : Plan} {planId : PlanId} {i : Nat} {step : PlanStep} {w : PlanRun η}
  {result : ActionResult}

theorem answered_verified (said : (host.executeStep step.action w.host).1 = .ok result) :
    answered (w.verified host i step).trace = answered w.trace ++ [(i.toUInt32, result)] := by
  rw [trace_verified, said, answered_append fun event member => ?_, answered_append, answered_executed]
  · simp [answeredOk]
  · obtain ⟨p, -, rfl⟩ := mem_verdict member
    rfl

theorem noneRejected_verified (accepted : ∀ p, step.verifyAfter = some p →
      p.matched ((w.performed host i step.action).latest host) = true) (h : NoneRejected w.trace) :
    NoneRejected (w.verified host i step).trace := by
  rw [trace_verified]
  simp only [noneRejected_append]
  refine ⟨⟨⟨h, ?_⟩, ?_⟩, ?_⟩
  · exact fun j obs member => by cases List.mem_singleton.mp member
  · exact fun j obs member => by cases List.mem_singleton.mp member
  · intro j obs member
    obtain ⟨p, verify, same⟩ := mem_verdict member
    rw [accepted p verify] at same
    cases same

theorem Reported.done (h : Reported w) (said : (host.executeStep step.action w.host).1 = .ok result)
    (accepted : ∀ p, step.verifyAfter = some p →
      p.matched ((w.performed host i step.action).latest host) = true) :
    Reported (w.done host plan planId i step result) := by
  constructor
  · rw [stepsOut_done, carriedOut_snoc, h.entries, trace_done, answered_append fun event member => ?_,
      answered_verified said]
    · rfl
    · rcases List.mem_append.mp member with member | member
      · rw [List.mem_singleton.mp member]
        rfl
      · rw [mem_marks member]
        rfl
  · rw [trace_done]
    simp only [noneRejected_append]
    refine ⟨noneRejected_verified accepted h.accepted, ?_, noneRejected_marks _ _ _ _⟩
    exact fun j obs member => by cases List.mem_singleton.mp member

/-- A step whose verification fails is carried out and not reported. -/
theorem Reported.mismatched {p : Predicate} (h : Reported w)
    (said : (host.executeStep step.action w.host).1 = .ok result) (verify : step.verifyAfter = some p)
    (rejected : p.matched ((w.performed host i step.action).latest host) = false) :
    MissingIffRejected (w.verified host i step) := by
  unfold MissingIffRejected TraceComplete
  rw [stepsOut_verified, h.entries, answered_verified said]
  refine iff_of_false (fun same => ?_) fun accepted => ?_
  · have length := congrArg List.length same
    rw [List.length_append] at length
    exact Nat.succ_ne_self _ length.symm
  · apply accepted i ((w.performed host i step.action).latest host)
    rw [trace_verified, verify]
    apply List.mem_append_right
    rw [verdict, rejected]
    exact List.mem_singleton_self _

end Judged

theorem reported_turn {host : Host η} {plan : Plan} {planId : PlanId} {turns i : Nat} {step : PlanStep}
    {s : PlanRun η} {r : Outcome PlanStop Unit × PlanRun η} (h : Reported s)
    (turn : Turn host plan planId turns i step s r) :
    Method.Ends (fun _ => Reported) (fun _ => MissingIffRejected) r := by
  cases turn with
  | waiting wait => exact (h.waited wait).iff
  | closed wait => exact (h.waited wait).iff
  | aborted wait said abort => exact ((h.waited wait).performed said).iff
  | refused wait said abort => exact ((h.waited wait).performed said).refused ..
  | mismatched wait said verify rejected => exact (h.waited wait).mismatched said verify rejected
  | @done w result wait said accepted =>
    have reported : Reported (w.done host plan planId i step result) :=
      (h.waited wait).done said accepted
    split
    · exact reported.iff
    · exact reported

end Partial

section Execute
variable {η : Type} (host : Host η) (plan : Plan) (planId : PlanId) (turns : Nat)
  (predicateEngine : PredicateEngine) (streamEngine : StreamEngine) (state : η)

/-- Whenever a run ends, its list of results has an entry for every action that was carried out, in
order, if and only if no verification has rejected the observation that it judged. -/
theorem trace_complete_iff :
    TraceComplete (execute host plan planId turns predicateEngine streamEngine state).2 ↔
      NoneRejected (execute host plan planId turns predicateEngine streamEngine state).2.trace := by
  have ends : Method.Ends _ (fun _ => MissingIffRejected)
      (execute host plan planId turns predicateEngine streamEngine state) :=
    execute_ends host (fun _ s => Reported s) ⟨rfl, fun i obs member => absurd member List.not_mem_nil⟩
      fun i step s r _ inv turn => reported_turn inv turn
  refine (ends.mono ?_ fun e s missing => missing).state
  rintro answer s ⟨w, reported, rfl, -⟩
  have last : Reported (w.observed host .finished) := by
    refine reported.quiet [.finished (host.drainObservation w.host).1] ?_ rfl rfl
    rintro event (_ | ⟨_, ⟨⟩⟩)
    exact ⟨rfl, fun i obs same => by cases same⟩
  exact last.iff

end Execute

def silentHost : Host Unit where
  executeStep _ s := (.ok { ActionResult.blank with landed := true }, s)
  drainObservation s := (none, s)

def verifiedPlan : Plan where
  steps := [{
    id := 0, action := .tap 0 0 0, waitBefore := none
    verifyAfter := some (.activity "app/.Home" 1000), label := none }]
  abortOnError := true
  checkpointEvery := 0

/-- The tap is carried out and lands, and the error comes with no step. -/
theorem executed_tap_is_missing :
    (execute silentHost verifiedPlan 1 0 .new .new ()).1 =
        .err (.failed (.verifyAfterMismatch 0 0 none)) ∧
      answered (execute silentHost verifiedPlan 1 0 .new .new ()).2.trace =
        [(0, { ActionResult.blank with landed := true })] ∧
      (execute silentHost verifiedPlan 1 0 .new .new ()).2.stepsOut = [] ∧
      carriedOut (execute silentHost verifiedPlan 1 0 .new .new ()).2.stepsOut ≠
        answered (execute silentHost verifiedPlan 1 0 .new .new ()).2.trace :=
  ⟨rfl, rfl, rfl, fun same => List.cons_ne_nil _ _ same.symm⟩

end HidConnect.Kernel

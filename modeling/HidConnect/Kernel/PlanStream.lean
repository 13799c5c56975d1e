import HidConnect.Kernel.PlanTurn

/-! What a plan puts on the stream: all that the host shows, and the checkpoints. -/
namespace HidConnect.Kernel
open Fallible

/-- The observation that an event puts on the stream. -/
def published : PlanEvent → Option Observation
  | .awaited answer | .observed answer | .finished answer => answer
  | .checkpoint _ obs => some obs
  | _ => none

theorem publishAll_append (e : StreamEngine) (xs ys : List Observation) :
    publishAll e (xs ++ ys) = publishAll (publishAll e xs) ys := List.foldl_append ..

theorem published_awaits (os : List Observation) : (awaits os).filterMap published = os := by
  unfold awaits
  rw [List.filterMap_map]
  exact List.filterMap_some

theorem published_verdict (i : Nat) (obs : Observation) (verifyAfter : Option Predicate) :
    (verdict i obs verifyAfter).filterMap published = [] := by
  cases verifyAfter <;> rfl

/-- The stream carries what the trace says was put on it. -/
def Carries {η : Type} (start : StreamEngine) (s : PlanRun η) : Prop :=
  s.streamEngine = publishAll start (s.trace.filterMap published)

section Runs
variable {η : Type} {host : Host η} {start : StreamEngine}

theorem Carries.more {s t : PlanRun η} (h : Carries start s) (more : List PlanEvent)
    (trace : t.trace = s.trace ++ more)
    (engine : t.streamEngine = publishAll s.streamEngine (more.filterMap published)) :
    Carries start t := by
  unfold Carries at h ⊢
  rw [engine, trace, List.filterMap_append, publishAll_append, h]

theorem Carries.drained {s : PlanRun η} (h : Carries start s) (state : η)
    (predicates : PredicateEngine) (os : List Observation) {more : List PlanEvent}
    (none : more.filterMap published = []) : Carries start (s.drained state predicates os more) := by
  refine h.more (awaits os ++ more) (List.append_assoc ..) ?_
  rw [List.filterMap_append, published_awaits, none, List.append_nil]
  rfl

theorem Carries.waited {turns i : Nat} {step : PlanStep} {s w : PlanRun η} {ending : WaitEnd}
    (h : Carries start s) (wait : Waited host turns i step s ending w) : Carries start w := by
  cases wait with
  | free absent => exact h
  | waiting present drains unmatched long => exact h.drained _ _ _ rfl
  | closed present drains unmatched eof => exact h.drained _ _ _ rfl
  | matched present drains unmatched answer met => exact h.drained _ _ _ rfl

theorem Carries.performed {i : Nat} {action : Action} {w : PlanRun η} (h : Carries start w) :
    Carries start (w.performed host i action) :=
  h.more [.executed i (host.executeStep action w.host).1] rfl rfl

theorem Carries.observed {w : PlanRun η} {event : Option Observation → PlanEvent}
    (shows : ∀ answer, published (event answer) = answer) (h : Carries start w) :
    Carries start (w.observed host event) := by
  refine h.more [event (host.drainObservation w.host).1] rfl ?_
  change publishAll w.streamEngine (host.drainObservation w.host).1.toList = _
  rw [List.filterMap_cons, shows]
  cases (host.drainObservation w.host).1 <;> rfl

theorem Carries.verified {i : Nat} {step : PlanStep} {w : PlanRun η} (h : Carries start w) :
    Carries start (w.verified host i step) := by
  have observed : Carries start ((w.performed host i step.action).observed host .observed) :=
    h.performed.observed fun _ => rfl
  refine observed.more _ (trace_judged ..) ?_
  rw [published_verdict]
  exact streamEngine_judged ..

theorem Carries.checkpointed {plan : Plan} {planId : PlanId} {i : Nat} {w : PlanRun η}
    (h : Carries start w) : Carries start (w.checkpointed plan planId i) := by
  unfold PlanRun.checkpointed
  split
  case isFalse => exact h
  case isTrue => exact h.more [.checkpoint i (checkpointCopy planId w.finalObs)] rfl rfl

theorem Carries.done {plan : Plan} {planId : PlanId} {i : Nat} {step : PlanStep}
    {result : ActionResult} {w : PlanRun η} (h : Carries start w) :
    Carries start (w.done host plan planId i step result) := by
  have recorded : Carries start ((w.verified host i step).recorded i step result) :=
    h.verified.more [.completed i result.landed] rfl rfl
  exact recorded.checkpointed

theorem carries_turn {plan : Plan} {planId : PlanId} {turns i : Nat} {step : PlanStep} {s : PlanRun η}
    {r : Outcome PlanStop Unit × PlanRun η} (h : Carries start s)
    (turn : Turn host plan planId turns i step s r) :
    Method.Ends (fun _ => Carries start) (fun _ => Carries start) r := by
  cases turn with
  | waiting wait => exact h.waited wait
  | closed wait => exact h.waited wait
  | aborted wait said abort => exact (h.waited wait).performed
  | refused wait said abort =>
    exact (h.waited wait).performed.more [] (List.append_nil _).symm rfl
  | mismatched wait said verify rejected => exact (h.waited wait).verified
  | @done w result wait said accepted =>
    have done : Carries start (w.done host plan planId i step result) := (h.waited wait).done
    split
    · exact done
    · exact done

end Runs

section Execute
variable {η : Type} (host : Host η) (plan : Plan) (planId : PlanId) (turns : Nat)
  (predicateEngine : PredicateEngine) (streamEngine : StreamEngine) (state : η)

/-- However a plan ends, the stream carries what was put on it and nothing else. -/
theorem execute_carries : Carries streamEngine
    (execute host plan planId turns predicateEngine streamEngine state).2 := by
  have ends : Method.Ends _ (fun _ => Carries streamEngine)
      (execute host plan planId turns predicateEngine streamEngine state) :=
    execute_ends host (fun _ => Carries streamEngine) rfl
      fun i step s r _ carries turn => carries_turn carries turn
  refine (ends.mono ?_ fun e s carries => carries).state
  rintro answer s ⟨w, carries, rfl, -⟩
  exact carries.observed fun _ => rfl

end Execute

end HidConnect.Kernel

import HidConnect.Kernel.PlanExecutor
import HidConnect.Library.Ends

/-! What one turn of a plan can do, and what follows for a whole plan. -/
namespace HidConnect.Kernel
open Fallible

namespace PredicateEngine

/-- The engine once a predicate is registered and cancelled again. -/
def used (e : PredicateEngine) : PredicateEngine :=
  { predicates := e.predicates.erase e.nextHandle, nextHandle := e.nextHandle + 1 }

theorem cancel_register (e : PredicateEngine) (p : Predicate) :
    ((e.register p).2.cancel e.nextHandle).2 = e.used := by
  have same : (e.predicates.insert e.nextHandle ⟨e.nextHandle, p⟩).erase e.nextHandle =
      e.predicates.erase e.nextHandle := by
    refine AList.ext ?_
    change (e.predicates.insert e.nextHandle ⟨e.nextHandle, p⟩).entries.kerase e.nextHandle =
      e.predicates.entries.kerase e.nextHandle
    rw [AList.entries_insert, List.kerase_cons_eq (by rfl)]
  unfold register cancel used
  dsimp only
  rw [same]

theorem reports_register (e : PredicateEngine) (p : Predicate) (obs : Observation) :
    reports ((e.register p).2.onObservation obs) e.nextHandle = p.matched obs := by
  unfold reports onObservation register
  dsimp only
  rw [AList.entries_insert, List.map_cons, List.any_cons]
  have others : (((e.predicates.entries.kerase e.nextHandle).map fun entry =>
      (entry.1, if entry.2.predicate.matched obs then PredicateOutcome.matched else .noMatch)).any
        fun r => r.1 == e.nextHandle && r.2 == .matched) = false := by
    rw [List.any_eq_false]
    intro r known
    obtain ⟨entry, member, rfl⟩ := List.mem_map.mp known
    have other : entry.1 ≠ e.nextHandle := by
      rintro same
      have key : e.nextHandle ∈ (e.predicates.entries.kerase e.nextHandle).keys :=
        List.mem_keys.mpr ⟨entry.2, same ▸ member⟩
      exact List.notMem_keys_kerase _ e.predicates.nodupKeys key
    simp [other]
  rw [others, Bool.or_false]
  cases p.matched obs <;> simp

end PredicateEngine

section Turns
variable {η : Type} (host : Host η)

/-- The host gives these observations, one after the other. -/
inductive Drains : η → List Observation → η → Prop where
  | nil (h : η) : Drains h [] h
  | cons {h h' : η} {o : Observation} {os : List Observation}
      (answer : (host.drainObservation h).1 = some o)
      (rest : Drains (host.drainObservation h).2 os h') : Drains h (o :: os) h'

def awaits (os : List Observation) : List PlanEvent := os.map fun o => .awaited (some o)

def publishAll (stream : StreamEngine) (os : List Observation) : StreamEngine :=
  os.foldl (fun stream o => (stream.produce fun _ => o).2) stream

/-- The state after these observations were drained while the predicate was waited for. -/
def PlanRun.drained (s : PlanRun η) (h : η) (engine : PredicateEngine) (os : List Observation)
    (more : List PlanEvent) : PlanRun η :=
  { s with
    host := h
    predicateEngine := engine
    streamEngine := publishAll s.streamEngine os
    trace := s.trace ++ awaits os ++ more }

inductive WaitEnd where
  | waiting | closed | passed
  deriving DecidableEq

/-- How a wait can end, and in which state. -/
inductive Waited (turns i : Nat) (step : PlanStep) (s : PlanRun η) : WaitEnd → PlanRun η → Prop where
  | free (absent : step.waitBefore = none) : Waited turns i step s .passed s
  | waiting {p : Predicate} {os : List Observation} {h : η} (present : step.waitBefore = some p)
      (drains : Drains host s.host os h) (unmatched : ∀ o ∈ os, p.matched o = false)
      (long : os.length = turns) :
      Waited turns i step s .waiting (s.drained h (s.predicateEngine.register p).2 os [])
  | closed {p : Predicate} {os : List Observation} {h : η} (present : step.waitBefore = some p)
      (drains : Drains host s.host os h) (unmatched : ∀ o ∈ os, p.matched o = false)
      (eof : (host.drainObservation h).1 = none) :
      Waited turns i step s .closed (s.drained (host.drainObservation h).2 s.predicateEngine.used os
        [.awaited none, .waited i false])
  | matched {p : Predicate} {os : List Observation} {o : Observation} {h : η}
      (present : step.waitBefore = some p) (drains : Drains host s.host os h)
      (unmatched : ∀ o ∈ os, p.matched o = false)
      (answer : (host.drainObservation h).1 = some o) (met : p.matched o = true) :
      Waited turns i step s .passed (s.drained (host.drainObservation h).2 s.predicateEngine.used
        (os ++ [o]) [.waited i true])

/- The rest of a turn, as functions of the state. -/

namespace PlanRun

def performed (w : PlanRun η) (i : Nat) (action : Action) : PlanRun η :=
  { w with
    host := (host.executeStep action w.host).2
    trace := w.trace ++ [.executed i (host.executeStep action w.host).1] }

def refused (w : PlanRun η) (i : Nat) (step : PlanStep) (reason : String) : PlanRun η :=
  { w with
    stepsOut := w.stepsOut ++ [{
      stepId := step.id, index := i.toUInt32, actionResult := .blank, landed := false
      error := some reason }]
    counters := { w.counters with aborted := w.counters.aborted + 1 } }

def latest (w : PlanRun η) : Observation := (host.drainObservation w.host).1.getD w.finalObs

def observed (w : PlanRun η) (event : Option Observation → PlanEvent) : PlanRun η :=
  { w with
    host := (host.drainObservation w.host).2
    streamEngine := publishAll w.streamEngine (host.drainObservation w.host).1.toList
    finalObs := w.latest host
    trace := w.trace ++ [event (host.drainObservation w.host).1] }

def judged (w : PlanRun η) (i : Nat) (verifyAfter : Option Predicate) : PlanRun η :=
  match verifyAfter with
  | none => w
  | some p => { w with
    predicateEngine := w.predicateEngine.used
    trace := w.trace ++ [.judged i w.finalObs (p.matched w.finalObs)] }

def recorded (w : PlanRun η) (i : Nat) (step : PlanStep) (result : ActionResult) : PlanRun η :=
  { w with
    stepsOut := w.stepsOut ++ [{
      stepId := step.id, index := i.toUInt32, actionResult := result, landed := result.landed
      error := none }]
    counters :=
      if result.landed then { w.counters with landed := w.counters.landed + 1 }
      else { w.counters with aborted := w.counters.aborted + 1 }
    trace := w.trace ++ [.completed i result.landed] }

def checkpointDue (w : PlanRun η) (plan : Plan) : Prop :=
  0 < plan.checkpointEvery ∧ w.counters.landed % plan.checkpointEvery = 0

instance (w : PlanRun η) (plan : Plan) : Decidable (w.checkpointDue plan) :=
  inferInstanceAs (Decidable (_ ∧ _))

def checkpointed (w : PlanRun η) (plan : Plan) (planId : PlanId) (i : Nat) : PlanRun η :=
  if w.checkpointDue plan then { w with
    streamEngine := publishAll w.streamEngine [checkpointCopy planId w.finalObs]
    trace := w.trace ++ [.checkpoint i (checkpointCopy planId w.finalObs)]
    counters := { w.counters with checkpoints := w.counters.checkpoints + 1 } }
  else w

end PlanRun

/- What each of them leaves, field by field. -/

section Fields
variable (w : PlanRun η) (i : Nat) (step : PlanStep) (plan : Plan) (planId : PlanId)
  (action : Action) (result : ActionResult) (verifyAfter : Option Predicate)

def verdict (i : Nat) (obs : Observation) : Option Predicate → List PlanEvent
  | none => []
  | some p => [.judged i obs (p.matched obs)]

theorem mem_verdict {i : Nat} {obs : Observation} {verifyAfter : Option Predicate} {event : PlanEvent}
    (member : event ∈ verdict i obs verifyAfter) :
    ∃ p, verifyAfter = some p ∧ event = .judged i obs (p.matched obs) := by
  cases verifyAfter with
  | none => contradiction
  | some p => exact ⟨p, rfl, List.mem_singleton.mp member⟩

@[simp] theorem host_judged : (w.judged i verifyAfter).host = w.host := by
  cases verifyAfter <;> rfl

@[simp] theorem stepsOut_judged : (w.judged i verifyAfter).stepsOut = w.stepsOut := by
  cases verifyAfter <;> rfl

@[simp] theorem counters_judged : (w.judged i verifyAfter).counters = w.counters := by
  cases verifyAfter <;> rfl

@[simp] theorem finalObs_judged : (w.judged i verifyAfter).finalObs = w.finalObs := by
  cases verifyAfter <;> rfl

@[simp] theorem streamEngine_judged : (w.judged i verifyAfter).streamEngine = w.streamEngine := by
  cases verifyAfter <;> rfl

@[simp] theorem trace_judged :
    (w.judged i verifyAfter).trace = w.trace ++ verdict i w.finalObs verifyAfter := by
  cases verifyAfter with
  | none => exact (List.append_nil _).symm
  | some p => rfl

@[simp] theorem host_checkpointed : (w.checkpointed plan planId i).host = w.host := by
  unfold PlanRun.checkpointed
  split <;> rfl

@[simp] theorem stepsOut_checkpointed : (w.checkpointed plan planId i).stepsOut = w.stepsOut := by
  unfold PlanRun.checkpointed
  split <;> rfl

@[simp] theorem finalObs_checkpointed : (w.checkpointed plan planId i).finalObs = w.finalObs := by
  unfold PlanRun.checkpointed
  split <;> rfl

def PlanRun.marks : List PlanEvent :=
  if w.checkpointDue plan then [.checkpoint i (checkpointCopy planId w.finalObs)] else []

variable {w i plan planId} in
theorem mem_marks {event : PlanEvent} (member : event ∈ w.marks i plan planId) :
    event = .checkpoint i (checkpointCopy planId w.finalObs) := by
  unfold PlanRun.marks at member
  split at member
  · exact List.mem_singleton.mp member
  · contradiction

@[simp] theorem trace_checkpointed :
    (w.checkpointed plan planId i).trace = w.trace ++ w.marks i plan planId := by
  unfold PlanRun.checkpointed PlanRun.marks
  split
  · rfl
  · exact (List.append_nil _).symm

@[simp] theorem predicateEngine_checkpointed :
    (w.checkpointed plan planId i).predicateEngine = w.predicateEngine := by
  unfold PlanRun.checkpointed
  split <;> rfl

@[simp] theorem landed_checkpointed :
    (w.checkpointed plan planId i).counters.landed = w.counters.landed := by
  unfold PlanRun.checkpointed
  split <;> rfl

end Fields

section Done
variable (w : PlanRun η) (plan : Plan) (planId : PlanId) (i : Nat) (step : PlanStep)
  (result : ActionResult)

def PlanRun.verified : PlanRun η :=
  ((w.performed host i step.action).observed host .observed).judged i step.verifyAfter

def PlanRun.done : PlanRun η :=
  ((w.verified host i step).recorded i step result).checkpointed plan planId i

@[simp] theorem host_verified : (w.verified host i step).host =
    (host.drainObservation (w.performed host i step.action).host).2 := host_judged ..

@[simp] theorem stepsOut_verified : (w.verified host i step).stepsOut = w.stepsOut :=
  stepsOut_judged ..

@[simp] theorem counters_verified : (w.verified host i step).counters = w.counters :=
  counters_judged ..

@[simp] theorem finalObs_verified :
    (w.verified host i step).finalObs = (w.performed host i step.action).latest host :=
  finalObs_judged ..

theorem trace_verified : (w.verified host i step).trace =
    w.trace ++ [.executed i (host.executeStep step.action w.host).1] ++
      [.observed (host.drainObservation (w.performed host i step.action).host).1] ++
      verdict i ((w.performed host i step.action).latest host) step.verifyAfter := trace_judged ..

theorem trace_done : (w.done host plan planId i step result).trace =
    (w.verified host i step).trace ++ ([.completed i result.landed] ++
      ((w.verified host i step).recorded i step result).marks i plan planId) := by
  unfold PlanRun.done
  rw [trace_checkpointed, ← List.append_assoc]
  rfl

theorem stepsOut_done : (w.done host plan planId i step result).stepsOut =
    w.stepsOut ++ [{
      stepId := step.id, index := i.toUInt32, actionResult := result, landed := result.landed
      error := none }] := by
  unfold PlanRun.done
  rw [stepsOut_checkpointed, ← stepsOut_verified host w i step]
  rfl

theorem host_done : (w.done host plan planId i step result).host =
    (host.drainObservation (w.performed host i step.action).host).2 := by
  unfold PlanRun.done
  rw [host_checkpointed, ← host_verified host w i step]
  rfl

theorem finalObs_done : (w.done host plan planId i step result).finalObs =
    (w.performed host i step.action).latest host := by
  unfold PlanRun.done
  rw [finalObs_checkpointed, ← finalObs_verified host w i step]
  rfl

end Done

/-- How a turn can end, and in which state. -/
inductive Turn (plan : Plan) (planId : PlanId) (turns i : Nat) (step : PlanStep) (s : PlanRun η) :
    Outcome PlanStop Unit × PlanRun η → Prop where
  | waiting {w : PlanRun η} (wait : Waited host turns i step s .waiting w) :
      Turn plan planId turns i step s (.err .waiting, w)
  | closed {w : PlanRun η} (wait : Waited host turns i step s .closed w) :
      Turn plan planId turns i step s
        (.err (.failed (.waitBeforeTimeout i.toUInt32 step.id step.label)), w)
  | aborted {w : PlanRun η} {reason : String} (wait : Waited host turns i step s .passed w)
      (said : (host.executeStep step.action w.host).1 = .error reason)
      (abort : plan.abortOnError = true) :
      Turn plan planId turns i step s (.err (.failed (.actionRefused i.toUInt32 step.id reason)),
        w.performed host i step.action)
  | refused {w : PlanRun η} {reason : String} (wait : Waited host turns i step s .passed w)
      (said : (host.executeStep step.action w.host).1 = .error reason)
      (abort : plan.abortOnError = false) :
      Turn plan planId turns i step s
        (.ok (), (w.performed host i step.action).refused i step reason)
  | mismatched {w : PlanRun η} {result : ActionResult} {p : Predicate}
      (wait : Waited host turns i step s .passed w)
      (said : (host.executeStep step.action w.host).1 = .ok result)
      (verify : step.verifyAfter = some p)
      (rejected : p.matched ((w.performed host i step.action).latest host) = false) :
      Turn plan planId turns i step s
        (.err (.failed (.verifyAfterMismatch i.toUInt32 step.id step.label)),
          w.verified host i step)
  | done {w : PlanRun η} {result : ActionResult} (wait : Waited host turns i step s .passed w)
      (said : (host.executeStep step.action w.host).1 = .ok result)
      (accepted : ∀ p, step.verifyAfter = some p →
        p.matched ((w.performed host i step.action).latest host) = true) :
      Turn plan planId turns i step s
        (if !result.landed && plan.abortOnError then
            .err (.failed (.cancelled i.toUInt32 step.id)) else .ok (),
          w.done host plan planId i step result)

/- The methods compute these states. -/

theorem run_drain (event : Option Observation → PlanEvent) (s : PlanRun η) :
    (drain host event).run s = (.ok (host.drainObservation s.host).1, { s with
      host := (host.drainObservation s.host).2
      trace := s.trace ++ [event (host.drainObservation s.host).1] }) := rfl

theorem run_evaluate {e : PredicateEngine} {p : Predicate} {s : PlanRun η}
    (registered : s.predicateEngine = (e.register p).2) (obs : Observation) :
    (evaluate obs e.nextHandle).run s = (.ok (p.matched obs), s) := by
  change (Outcome.ok (reports (s.predicateEngine.onObservation obs) e.nextHandle), s) = _
  rw [registered, PredicateEngine.reports_register]

theorem run_cancel {e : PredicateEngine} {p : Predicate} {s : PlanRun η}
    (registered : s.predicateEngine = (e.register p).2) :
    (cancel e.nextHandle).run s = (.ok (), { s with predicateEngine := e.used }) := by
  change (Outcome.ok (), { s with predicateEngine := (s.predicateEngine.cancel e.nextHandle).2 }) = _
  rw [registered, PredicateEngine.cancel_register]

theorem drained_drained (s : PlanRun η) (h h' : η) (e e' : PredicateEngine) (os os' : List Observation)
    (more : List PlanEvent) :
    (s.drained h e os []).drained h' e' os' more = s.drained h' e' (os ++ os') more := by
  simp [PlanRun.drained, publishAll, awaits]

theorem run_waitLoop_none {e : PredicateEngine} {p : Predicate} {s : PlanRun η} (turns : Nat)
    (registered : s.predicateEngine = (e.register p).2)
    (answer : (host.drainObservation s.host).1 = none) :
    (waitLoop host e.nextHandle (turns + 1)).run s =
      (.ok .closed, s.drained (host.drainObservation s.host).2 e.used [] [.awaited none]) := by
  have kept : ({ s with
      host := (host.drainObservation s.host).2
      trace := s.trace ++ [.awaited none] } : PlanRun η).predicateEngine = (e.register p).2 :=
    registered
  rw [waitLoop, Method.run_bind_ok (run_drain host .awaited s), answer]
  dsimp only
  rw [Method.run_bind_ok (run_cancel kept)]
  simp [PlanRun.drained, publishAll, awaits]

theorem run_waitLoop_some {e : PredicateEngine} {p : Predicate} {s : PlanRun η} (turns : Nat)
    (registered : s.predicateEngine = (e.register p).2) {o : Observation}
    (answer : (host.drainObservation s.host).1 = some o) :
    (waitLoop host e.nextHandle (turns + 1)).run s =
      if p.matched o then (.ok .matched, s.drained (host.drainObservation s.host).2 e.used [o] [])
      else (waitLoop host e.nextHandle turns).run
        (s.drained (host.drainObservation s.host).2 s.predicateEngine [o] []) := by
  have next : ({ s with
      host := (host.drainObservation s.host).2
      streamEngine := (s.streamEngine.produce fun _ => o).2
      trace := s.trace ++ [.awaited (some o)] } : PlanRun η) =
      s.drained (host.drainObservation s.host).2 s.predicateEngine [o] [] := by
    simp [PlanRun.drained, publishAll, awaits]
  have published : (publish o).run ({ s with
      host := (host.drainObservation s.host).2
      trace := s.trace ++ [.awaited (some o)] } : PlanRun η) = (.ok (),
        s.drained (host.drainObservation s.host).2 s.predicateEngine [o] []) := by
    rw [← next]
    rfl
  have kept : (s.drained (host.drainObservation s.host).2 s.predicateEngine [o] []).predicateEngine =
      (e.register p).2 := registered
  rw [waitLoop, Method.run_bind_ok (run_drain host .awaited s), answer]
  dsimp only
  rw [Method.run_bind_ok published, Method.run_bind_ok (run_evaluate kept o)]
  cases met : p.matched o with
  | true =>
    rw [if_pos rfl, if_pos rfl, Method.run_bind_ok (run_cancel kept)]
    rfl
  | false => rw [if_neg Bool.false_ne_true, if_neg Bool.false_ne_true]

/-- The loop drains observations that do not match, and then ends in one of three ways. -/
theorem run_waitLoop {e : PredicateEngine} {p : Predicate} (turns : Nat) (s : PlanRun η)
    (registered : s.predicateEngine = (e.register p).2) :
    ∃ os h, Drains host s.host os h ∧ (∀ o ∈ os, p.matched o = false) ∧
      (os.length = turns ∧ (waitLoop host e.nextHandle turns).run s =
          (.err .waiting, s.drained h s.predicateEngine os []) ∨
        (host.drainObservation h).1 = none ∧ (waitLoop host e.nextHandle turns).run s =
          (.ok .closed, s.drained (host.drainObservation h).2 e.used os [.awaited none]) ∨
        ∃ o, (host.drainObservation h).1 = some o ∧ p.matched o = true ∧
          (waitLoop host e.nextHandle turns).run s =
            (.ok .matched, s.drained (host.drainObservation h).2 e.used (os ++ [o]) [])) := by
  have idle : ∀ o ∈ ([] : List Observation), p.matched o = false :=
    fun o known => absurd known List.not_mem_nil
  induction turns generalizing s with
  | zero =>
    refine ⟨[], s.host, .nil _, idle, .inl ⟨rfl, ?_⟩⟩
    simp [waitLoop, PlanRun.drained, publishAll, awaits]
  | succ turns ih =>
    cases answer : (host.drainObservation s.host).1 with
    | none =>
      exact ⟨[], s.host, .nil _, idle, .inr (.inl ⟨answer, run_waitLoop_none host turns registered answer⟩)⟩
    | some o =>
      rw [run_waitLoop_some host turns registered answer]
      cases met : p.matched o with
      | true => exact ⟨[], s.host, .nil _, idle, .inr (.inr ⟨o, answer, met, if_pos rfl⟩)⟩
      | false =>
        rw [if_neg Bool.false_ne_true]
        obtain ⟨os, h, drains, unmatched, ends⟩ := ih
          (s.drained (host.drainObservation s.host).2 s.predicateEngine [o] []) registered
        refine ⟨o :: os, h, .cons answer drains, ?_, ?_⟩
        · rintro o' (_ | ⟨_, known⟩)
          · exact met
          · exact unmatched o' known
        · simp only [drained_drained] at ends
          rw [List.length_cons, Nat.add_right_cancel_iff]
          exact ends

theorem run_waitBefore (turns i : Nat) (step : PlanStep) (s : PlanRun η) :
    (∃ w, Waited host turns i step s .waiting w ∧
      (waitBefore host turns i step).run s = (.err .waiting, w)) ∨
    (∃ w, Waited host turns i step s .closed w ∧ (waitBefore host turns i step).run s =
      (.err (.failed (.waitBeforeTimeout i.toUInt32 step.id step.label)), w)) ∨
    ∃ w, Waited host turns i step s .passed w ∧ (waitBefore host turns i step).run s = (.ok (), w) := by
  unfold waitBefore
  cases present : step.waitBefore with
  | none => exact .inr (.inr ⟨s, .free present, rfl⟩)
  | some p =>
    have registered : (register p).run s = (.ok s.predicateEngine.nextHandle,
        { s with predicateEngine := (s.predicateEngine.register p).2 }) := rfl
    obtain ⟨os, h, drains, unmatched, ends⟩ := run_waitLoop host turns
      ({ s with predicateEngine := (s.predicateEngine.register p).2 } : PlanRun η) rfl
    dsimp only
    unfold waitForPredicate
    rcases ends with ⟨long, loop⟩ | ⟨eof, loop⟩ | ⟨o, answer, met, loop⟩
    · refine .inl ⟨_, .waiting present drains unmatched long, ?_⟩
      exact Method.run_bind_err ((Method.run_bind_ok registered).trans loop)
    · refine .inr (.inl ⟨_, .closed present drains unmatched eof, ?_⟩)
      rw [Method.run_bind_ok ((Method.run_bind_ok registered).trans loop)]
      simp [PlanRun.drained, note]
    · refine .inr (.inr ⟨_, .matched present drains unmatched answer met, ?_⟩)
      rw [Method.run_bind_ok ((Method.run_bind_ok registered).trans loop)]
      simp [PlanRun.drained, note]

theorem run_perform (i : Nat) (action : Action) (s : PlanRun η) :
    (perform host i action).run s =
      (.ok (host.executeStep action s.host).1, s.performed host i action) := rfl

theorem run_observe (event : Option Observation → PlanEvent) (s : PlanRun η) :
    (observe host event).run s = (.ok (), s.observed host event) := by
  unfold observe
  rw [Method.run_bind_ok (run_drain host event s)]
  unfold PlanRun.observed PlanRun.latest publishAll
  cases (host.drainObservation s.host).1 with
  | none => rfl
  | some o => rfl

theorem run_verify (i : Nat) (step : PlanStep) (s : PlanRun η) :
    (verify i step).run s =
      (if ∀ p, step.verifyAfter = some p → p.matched s.finalObs = true then .ok ()
        else .err (.failed (.verifyAfterMismatch i.toUInt32 step.id step.label)),
        s.judged i step.verifyAfter) := by
  unfold verify PlanRun.judged
  cases step.verifyAfter with
  | none => simp
  | some p =>
    have registered : (register p).run s = (.ok s.predicateEngine.nextHandle,
        { s with predicateEngine := (s.predicateEngine.register p).2 }) := rfl
    have kept : ({ s with
        predicateEngine := (s.predicateEngine.register p).2 } : PlanRun η).predicateEngine =
        (s.predicateEngine.register p).2 := rfl
    dsimp only
    rw [Method.run_bind_ok registered, Method.run_read_bind,
      Method.run_bind_ok (run_evaluate kept s.finalObs), Method.run_bind_ok (run_cancel kept)]
    cases matched : p.matched s.finalObs with
    | true => simp [note, matched]
    | false => simp [note, matched]

theorem run_record (i : Nat) (step : PlanStep) (result : ActionResult) (s : PlanRun η) :
    (record i step result).run s = (.ok (), s.recorded i step result) := rfl

theorem run_emitCheckpoint (plan : Plan) (planId : PlanId) (i : Nat) (s : PlanRun η) :
    (emitCheckpoint plan planId i).run s = (.ok (), s.checkpointed plan planId i) := by
  unfold emitCheckpoint PlanRun.checkpointed
  rw [Method.run_read_bind]
  by_cases due : s.checkpointDue plan
  · rw [if_pos due]
    unfold PlanRun.checkpointDue at due
    rw [if_pos due]
    rfl
  · rw [if_neg due]
    unfold PlanRun.checkpointDue at due
    rw [if_neg due]
    rfl

theorem runStep_turn (plan : Plan) (planId : PlanId) (turns i : Nat) (step : PlanStep)
    (s : PlanRun η) :
    Turn host plan planId turns i step s ((runStep host plan planId turns (step, i)).run s) := by
  unfold runStep
  dsimp only
  rcases run_waitBefore host turns i step s with ⟨w, wait, ran⟩ | ⟨w, wait, ran⟩ | ⟨w, wait, ran⟩
  · rw [Method.run_bind_err ran]
    exact .waiting wait
  · rw [Method.run_bind_err ran]
    exact .closed wait
  · rw [Method.run_bind_ok ran, Method.run_bind_ok (run_perform host i step.action w)]
    cases said : (host.executeStep step.action w.host).1 with
    | error reason =>
      dsimp only
      unfold refuse
      cases abort : plan.abortOnError with
      | true => exact .aborted wait said abort
      | false => exact .refused wait said abort
    | ok result =>
      dsimp only
      unfold finishStep
      rw [Method.run_bind_ok (run_observe host .observed _), Method.run_bind, run_verify]
      by_cases accepted : ∀ p, step.verifyAfter = some p →
          p.matched ((w.performed host i step.action).latest host) = true
      · have verified : ∀ p, step.verifyAfter = some p →
            p.matched ((w.performed host i step.action).observed host .observed).finalObs = true := accepted
        rw [if_pos verified]
        dsimp only
        rw [Method.run_bind_ok (run_record i step result _),
          Method.run_bind_ok (run_emitCheckpoint plan planId i _)]
        have turn : Turn host plan planId turns i step s _ := .done wait said accepted
        unfold PlanRun.done at turn
        split at turn
        case isTrue abort =>
          rw [if_pos abort]
          exact turn
        case isFalse goOn =>
          rw [if_neg goOn]
          exact turn
      · have rejected : ¬∀ p, step.verifyAfter = some p →
            p.matched ((w.performed host i step.action).observed host .observed).finalObs = true := accepted
        rw [if_neg rejected]
        simp only [not_forall, Bool.not_eq_true] at accepted
        obtain ⟨p, verify, failed⟩ := accepted
        exact .mismatched wait said verify failed

/- What a wait leaves alone. -/

def PlanEvent.isWait : PlanEvent → Bool
  | awaited _ | waited _ _ => true
  | _ => false

variable {host}

theorem Waited.stepsOut {turns i : Nat} {step : PlanStep} {s w : PlanRun η} {ending : WaitEnd}
    (h : Waited host turns i step s ending w) : w.stepsOut = s.stepsOut := by
  cases h <;> rfl

theorem Waited.counters {turns i : Nat} {step : PlanStep} {s w : PlanRun η} {ending : WaitEnd}
    (h : Waited host turns i step s ending w) : w.counters = s.counters := by
  cases h <;> rfl

theorem Waited.finalObs {turns i : Nat} {step : PlanStep} {s w : PlanRun η} {ending : WaitEnd}
    (h : Waited host turns i step s ending w) : w.finalObs = s.finalObs := by
  cases h <;> rfl

theorem isWait_awaits {os : List Observation} {event : PlanEvent} (known : event ∈ awaits os) :
    event.isWait = true := by
  obtain ⟨o, -, rfl⟩ := List.mem_map.mp known
  rfl

theorem Waited.trace {turns i : Nat} {step : PlanStep} {s w : PlanRun η} {ending : WaitEnd}
    (h : Waited host turns i step s ending w) :
    ∃ more, w.trace = s.trace ++ more ∧ ∀ event ∈ more, event.isWait = true := by
  cases h with
  | free absent => exact ⟨[], (List.append_nil _).symm, fun e known => absurd known List.not_mem_nil⟩
  | waiting present drains unmatched long =>
    refine ⟨_, List.append_assoc .., fun e known => ?_⟩
    rw [List.append_nil] at known
    exact isWait_awaits known
  | closed present drains unmatched eof =>
    refine ⟨_, List.append_assoc .., fun e known => ?_⟩
    rcases List.mem_append.mp known with h | h
    · exact isWait_awaits h
    · simp only [List.mem_cons, List.not_mem_nil, or_false] at h
      rcases h with rfl | rfl <;> rfl
  | matched present drains unmatched answer met =>
    refine ⟨_, List.append_assoc .., fun e known => ?_⟩
    rcases List.mem_append.mp known with h | h
    · exact isWait_awaits h
    · rw [List.mem_singleton] at h
      subst h
      rfl

variable (host)

/-- What every turn keeps holds at the end, after one more observation; a failed turn ends the run. -/
theorem execute_ends {plan : Plan} {planId : PlanId} {turns : Nat} {predicateEngine : PredicateEngine}
    {streamEngine : StreamEngine} {state : η} (inv : Nat → PlanRun η → Prop)
    {Stop : PlanStop → PlanRun η → Prop} (initial : inv 0 (.start predicateEngine streamEngine state))
    (turn : ∀ i step s r, plan.steps[i]? = some step → inv i s → Turn host plan planId turns i step s r →
      Method.Ends (fun _ => inv (i + 1)) Stop r) :
    Method.Ends (fun answer t => ∃ w, inv plan.steps.length w ∧ t = w.observed host .finished ∧
        answer = (t.result planId, t.counters)) Stop
      (execute host plan planId turns predicateEngine streamEngine state) := by
  have loop : Method.Ends (fun _ => inv plan.steps.zipIdx.length) Stop
      ((Method.forEach plan.steps.zipIdx (runStep host plan planId turns)).run
        (.start predicateEngine streamEngine state)) := by
    refine Method.ends_forEach (fun before s => inv before.length s) ?_ initial
    intro before a after s whole here
    have at_ : plan.steps.zipIdx[before.length]? = some a := by
      rw [whole, List.getElem?_append_right (Nat.le_refl _), Nat.sub_self, List.getElem?_cons_zero]
    rw [List.getElem?_zipIdx, Option.map_eq_some_iff] at at_
    obtain ⟨step, found, same⟩ := at_
    rw [Nat.zero_add] at same
    subst same
    rw [List.length_append, List.length_singleton]
    exact turn before.length step s _ found here (runStep_turn host plan planId turns _ step s)
  rw [List.length_zipIdx] at loop
  unfold execute executeBody
  refine loop.bind fun _ w here => ?_
  rw [Method.run_bind_ok (run_observe host .finished w), Method.run_read_bind]
  exact ⟨w, here, rfl, rfl⟩

end Turns

end HidConnect.Kernel

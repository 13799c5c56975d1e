import HidConnect.Kernel.PlanAbort

/-! Plans that are to go on after a failure. -/
namespace HidConnect.Kernel
open Fallible

/-- Every step has one result, in order; a step is executed unless its wait fails, and then it is
recorded as not landed. -/
structure BestEffort {η : Type} (plan : Plan)
    (r : Outcome PlanStop (PlanResult × ExecutorCounters) × PlanRun η) : Prop where
  returns : ∃ answer counters, r.1 = .ok (answer, counters) ∧ answer.steps = r.2.stepsOut
  each : r.2.stepsOut.length = plan.steps.length
  order : InPlanOrder plan r.2.stepsOut
  timedOut : ∀ (k : Nat) (result : StepResult), r.2.stepsOut[k]? = some result →
    .waited k false ∈ r.2.trace → (∀ answer, .executed k answer ∉ r.2.trace) ∧ result.landed = false
  executed : ∀ k < plan.steps.length, .waited k false ∉ r.2.trace → ∃ answer, .executed k answer ∈ r.2.trace

section Smooth
variable {η : Type} (host : Host η)

/-- An observation that the predicate accepts comes after so many that it does not. -/
inductive Arrives (p : Predicate) : Nat → η → η → Prop where
  | now {h : η} {o : Observation} (answer : (host.drainObservation h).1 = some o)
      (met : p.matched o = true) : Arrives p 0 h (host.drainObservation h).2
  | later {n : Nat} {h h' : η} {o : Observation} (answer : (host.drainObservation h).1 = some o)
      (unmatched : p.matched o = false) (rest : Arrives p n (host.drainObservation h).2 h') :
      Arrives p (n + 1) h h'

def Met (waitBefore : Option Predicate) (h h' : η) : Prop :=
  match waitBefore with
  | none => h' = h
  | some p => ∃ n, Arrives host p n h h'

/-- Every wait comes to pass and every verification is met: what the host shows from here on, while the
steps are gone through. -/
inductive Smooth : List PlanStep → Observation → η → Prop where
  | nil {obs : Observation} {h : η} : Smooth [] obs h
  | refused {step : PlanStep} {steps : List PlanStep} {obs : Observation} {h h' : η} {reason : String}
      (met : Met host step.waitBefore h h') (said : (host.executeStep step.action h').1 = .error reason)
      (rest : Smooth steps obs (host.executeStep step.action h').2) : Smooth (step :: steps) obs h
  | done {step : PlanStep} {steps : List PlanStep} {obs : Observation} {h h' h'' : η}
      {result : ActionResult} (met : Met host step.waitBefore h h')
      (said : host.executeStep step.action h' = (.ok result, h''))
      (verified : ∀ p, step.verifyAfter = some p →
        p.matched ((host.drainObservation h'').1.getD obs) = true)
      (rest : Smooth steps ((host.drainObservation h'').1.getD obs) (host.drainObservation h'').2) :
      Smooth (step :: steps) obs h

variable {host}

theorem arrives_of_drains {p : Predicate} {h h' : η} {os : List Observation} {o : Observation}
    (drains : Drains host h os h') (unmatched : ∀ o ∈ os, p.matched o = false)
    (answer : (host.drainObservation h').1 = some o) (met : p.matched o = true) :
    Arrives host p os.length h (host.drainObservation h').2 := by
  induction drains with
  | nil h => exact .now answer met
  | cons first drains ih =>
    rw [List.forall_mem_cons] at unmatched
    exact .later first unmatched.1 (ih unmatched.2 answer)

/-- What was drained in vain only brings the arrival nearer. -/
theorem Arrives.ahead {p : Predicate} {n : Nat} {h h' h₁ : η} {os : List Observation}
    (arrives : Arrives host p n h h') (drains : Drains host h os h₁)
    (unmatched : ∀ o ∈ os, p.matched o = false) :
    ∃ m, Arrives host p m h₁ h' ∧ os.length + m = n := by
  induction drains generalizing n with
  | nil h => exact ⟨n, arrives, Nat.zero_add n⟩
  | cons first drains ih =>
    rw [List.forall_mem_cons] at unmatched
    cases arrives with
    | now answer met =>
      rw [first] at answer
      cases answer
      rw [unmatched.1] at met
      contradiction
    | later answer _ rest =>
      obtain ⟨m, ahead, sum⟩ := ih rest unmatched.2
      exact ⟨m, ahead, by rw [List.length_cons]; omega⟩

theorem Waited.met {turns i : Nat} {step : PlanStep} {s w : PlanRun η}
    (wait : Waited host turns i step s .passed w) : Met host step.waitBefore s.host w.host := by
  cases wait with
  | free absent =>
    rw [absent]
    exact rfl
  | matched present drains unmatched answer met =>
    rw [present]
    exact ⟨_, arrives_of_drains drains unmatched answer met⟩

theorem Waited.of_absent {turns i : Nat} {step : PlanStep} {s w : PlanRun η} {ending : WaitEnd}
    (wait : Waited host turns i step s ending w) (absent : step.waitBefore = none) :
    ending = .passed ∧ w = s := by
  cases wait with
  | free _ => exact ⟨rfl, rfl⟩
  | waiting present | closed present | matched present =>
    rw [absent] at present
    contradiction

theorem Waited.of_arrives {turns i n : Nat} {step : PlanStep} {s w : PlanRun η} {ending : WaitEnd}
    {p : Predicate} {h' : η} (wait : Waited host turns i step s ending w)
    (present : step.waitBefore = some p) (arrives : Arrives host p n s.host h') (enough : n < turns) :
    ending = .passed ∧ w.host = h' := by
  cases wait with
  | free absent =>
    rw [present] at absent
    contradiction
  | waiting same drains unmatched long =>
    cases present.symm.trans same
    obtain ⟨m, -, sum⟩ := arrives.ahead drains unmatched
    omega
  | closed same drains unmatched eof =>
    cases present.symm.trans same
    obtain ⟨m, ahead, -⟩ := arrives.ahead drains unmatched
    cases ahead with
    | now answer met | later answer _ _ =>
      rw [eof] at answer
      contradiction
  | matched same drains unmatched answer met =>
    cases present.symm.trans same
    obtain ⟨m, ahead, -⟩ := arrives.ahead drains unmatched
    cases ahead with
    | now _ _ => exact ⟨rfl, rfl⟩
    | later answer' unmatched _ =>
      rw [answer] at answer'
      cases answer'
      rw [met] at unmatched
      contradiction

theorem passed_of_met {step : PlanStep} {h h' : η} (met : Met host step.waitBefore h h') :
    ∃ n, ∀ turns > n, ∀ (i : Nat) (s w : PlanRun η) (ending : WaitEnd), s.host = h →
      Waited host turns i step s ending w → ending = .passed ∧ w.host = h' := by
  cases present : step.waitBefore with
  | none =>
    rw [present] at met
    refine ⟨0, fun turns _ i s w ending here wait => ?_⟩
    obtain ⟨passed, rfl⟩ := wait.of_absent present
    exact ⟨passed, here.trans met.symm⟩
  | some p =>
    rw [present] at met
    obtain ⟨n, arrives⟩ := met
    refine ⟨n, fun turns enough i s w ending here wait => ?_⟩
    subst here
    exact wait.of_arrives present arrives enough

/- A turn under these conditions. -/

section Turn
variable {plan : Plan} {planId : PlanId} {turns i : Nat} {step : PlanStep} {s : PlanRun η} {h' : η}
  {r : Outcome PlanStop Unit × PlanRun η}

theorem turn_refused (effort : plan.abortOnError = false)
    (passes : ∀ w ending, Waited host turns i step s ending w → ending = .passed ∧ w.host = h')
    {reason : String} (said : (host.executeStep step.action h').1 = .error reason)
    (turn : Turn host plan planId turns i step s r) :
    ∃ t, r = (.ok (), t) ∧ t.host = (host.executeStep step.action h').2 ∧ t.finalObs = s.finalObs := by
  cases turn with
  | waiting wait => cases (passes _ _ wait).1
  | closed wait => cases (passes _ _ wait).1
  | aborted wait said' abort =>
    rw [effort] at abort
    contradiction
  | refused wait said' abort =>
    obtain ⟨-, rfl⟩ := passes _ _ wait
    exact ⟨_, rfl, rfl, wait.finalObs⟩
  | mismatched wait said' verify rejected =>
    obtain ⟨-, rfl⟩ := passes _ _ wait
    rw [said] at said'
    contradiction
  | done wait said' accepted =>
    obtain ⟨-, rfl⟩ := passes _ _ wait
    rw [said] at said'
    contradiction

theorem turn_done (effort : plan.abortOnError = false)
    (passes : ∀ w ending, Waited host turns i step s ending w → ending = .passed ∧ w.host = h')
    {result : ActionResult} {h'' : η} (said : host.executeStep step.action h' = (.ok result, h''))
    (verified : ∀ p, step.verifyAfter = some p →
      p.matched ((host.drainObservation h'').1.getD s.finalObs) = true)
    (turn : Turn host plan planId turns i step s r) :
    ∃ t, r = (.ok (), t) ∧ t.host = (host.drainObservation h'').2 ∧
      t.finalObs = (host.drainObservation h'').1.getD s.finalObs := by
  have latest {w : PlanRun η} (here : w.host = h') (kept : w.finalObs = s.finalObs) :
      (w.performed host i step.action).latest host =
        (host.drainObservation h'').1.getD s.finalObs := by
    subst here
    change (host.drainObservation (host.executeStep step.action w.host).2).1.getD w.finalObs = _
    rw [said, kept]
  cases turn with
  | waiting wait => cases (passes _ _ wait).1
  | closed wait => cases (passes _ _ wait).1
  | aborted wait said' abort =>
    rw [effort] at abort
    contradiction
  | refused wait said' abort =>
    obtain ⟨-, rfl⟩ := passes _ _ wait
    rw [said] at said'
    contradiction
  | @mismatched w result' p wait said' verify rejected =>
    rw [latest (passes _ _ wait).2 wait.finalObs, verified p verify] at rejected
    contradiction
  | @done w result' wait said' accepted =>
    rw [effort, Bool.and_false, if_neg Bool.false_ne_true]
    refine ⟨_, rfl, ?_, ?_⟩
    · obtain ⟨-, rfl⟩ := passes _ _ wait
      rw [host_done]
      change (host.drainObservation (host.executeStep step.action w.host).2).2 = _
      rw [said]
    · rw [finalObs_done]
      exact latest (passes _ _ wait).2 wait.finalObs

end Turn

theorem Smooth.runs {plan : Plan} (planId : PlanId) (effort : plan.abortOnError = false)
    {steps : List PlanStep} {obs : Observation} {h : η} (smooth : Smooth host steps obs h) :
    ∃ n, ∀ turns > n, ∀ (i : Nat) (s : PlanRun η), s.host = h → s.finalObs = obs →
      ∃ t, (Method.forEach (steps.zipIdx i) (runStep host plan planId turns)).run s = (.ok (), t) := by
  induction smooth with
  | nil => exact ⟨0, fun turns _ i s _ _ => ⟨s, rfl⟩⟩
  | @refused step steps obs h h' reason met said rest ih =>
    obtain ⟨n, passes⟩ := passed_of_met met
    obtain ⟨m, runs⟩ := ih
    refine ⟨max n m, fun turns enough i s here kept => ?_⟩
    obtain ⟨t, run, there, same⟩ := turn_refused effort
      (fun w ending wait => passes turns (by omega) i s w ending here wait) said
      (runStep_turn host plan planId turns i step s)
    rw [List.zipIdx_cons, Method.forEach_cons, Method.run_bind_ok run]
    exact runs turns (by omega) (i + 1) t there (same.trans kept)
  | @done step steps obs h h' h'' result met said verified rest ih =>
    obtain ⟨n, passes⟩ := passed_of_met met
    obtain ⟨m, runs⟩ := ih
    refine ⟨max n m, fun turns enough i s here kept => ?_⟩
    subst kept
    obtain ⟨t, run, there, same⟩ := turn_done effort
      (fun w ending wait => passes turns (by omega) i s w ending here wait) said verified
      (runStep_turn host plan planId turns i step s)
    rw [List.zipIdx_cons, Method.forEach_cons, Method.run_bind_ok run]
    exact runs turns (by omega) (i + 1) t there same

end Smooth

section Execute
variable {η : Type} (host : Host η) (plan : Plan) (planId : PlanId) (turns : Nat)
  (predicateEngine : PredicateEngine) (streamEngine : StreamEngine) (state : η)

/-- The steps so far went smoothly, and all of them were executed. -/
structure Handled (i : Nat) (s : PlanRun η) : Prop where
  whole : Smooth host (plan.steps.drop i) s.finalObs s.host → Smooth host plan.steps .initial state
  executed : ∀ k < i, ∃ answer, .executed k answer ∈ s.trace
  patient : ∀ k, .waited k false ∉ s.trace

variable {host plan state}

theorem Handled.turn {i : Nat} {s t : PlanRun η} (h : Handled host plan state i s)
    {answer : Except String ActionResult} {before after : List PlanEvent}
    (trace : t.trace = s.trace ++ before ++ [.executed i answer] ++ after)
    (calm : ∀ event ∈ before ++ after, ∀ k, event ≠ .waited k false)
    (smooth : Smooth host (plan.steps.drop (i + 1)) t.finalObs t.host →
      Smooth host (plan.steps.drop i) s.finalObs s.host) :
    Handled host plan state (i + 1) t := by
  refine ⟨fun rest => h.whole (smooth rest), fun k below => ?_, fun k member => ?_⟩
  · rw [trace]
    rcases Nat.lt_succ_iff_lt_or_eq.mp below with lower | rfl
    · obtain ⟨answer, member⟩ := h.executed k lower
      exact ⟨answer, by simp [member]⟩
    · exact ⟨answer, by simp⟩
  · rw [trace] at member
    simp only [List.mem_append, List.mem_singleton] at member calm
    rcases member with ((member | member) | member) | member
    · exact h.patient k member
    · exact calm _ (.inl member) k rfl
    · cases member
    · exact calm _ (.inr member) k rfl

section Steps
variable {i : Nat} {step : PlanStep} {s w : PlanRun η}

theorem drop_of_found (found : plan.steps[i]? = some step) :
    plan.steps.drop i = step :: plan.steps.drop (i + 1) := by
  obtain ⟨below, rfl⟩ := List.getElem?_eq_some_iff.mp found
  exact List.drop_eq_getElem_cons below

theorem Handled.refused (h : Handled host plan state i s) (found : plan.steps[i]? = some step)
    (wait : Waited host turns i step s .passed w) {reason : String}
    (said : (host.executeStep step.action w.host).1 = .error reason) :
    Handled host plan state (i + 1) ((w.performed host i step.action).refused i step reason) := by
  obtain ⟨more, trace, calm⟩ := wait.calm
  have whole : ((w.performed host i step.action).refused i step reason).trace =
      s.trace ++ more ++ [.executed i (host.executeStep step.action w.host).1] ++ [] := by
    rw [List.append_nil, ← trace]
    rfl
  refine h.turn whole (fun event member k same => ?_) fun rest => ?_
  · rw [List.append_nil, same] at member
    exact Bool.noConfusion (calm _ member)
  · have last : ((w.performed host i step.action).refused i step reason).finalObs = s.finalObs :=
      wait.finalObs
    rw [last] at rest
    rw [drop_of_found found]
    exact .refused wait.met said rest

theorem Handled.done (h : Handled host plan state i s) (found : plan.steps[i]? = some step)
    (wait : Waited host turns i step s .passed w) {result : ActionResult}
    (said : (host.executeStep step.action w.host).1 = .ok result)
    (accepted : ∀ p, step.verifyAfter = some p →
      p.matched ((w.performed host i step.action).latest host) = true) :
    Handled host plan state (i + 1) (w.done host plan planId i step result) := by
  obtain ⟨more, trace, calm⟩ := wait.calm
  have whole : (w.done host plan planId i step result).trace =
      s.trace ++ more ++ [.executed i (host.executeStep step.action w.host).1] ++
        ([.observed (host.drainObservation (w.performed host i step.action).host).1] ++
          (verdict i ((w.performed host i step.action).latest host) step.verifyAfter ++
            ([.completed i result.landed] ++
              ((w.verified host i step).recorded i step result).marks i plan planId))) := by
    rw [trace_done, trace_verified, trace]
    simp only [List.append_assoc]
  refine h.turn whole (fun event member k same => ?_) fun rest => ?_
  · subst same
    simp only [List.mem_append, List.mem_singleton] at member
    rcases member with member | member | member | member | member
    · exact Bool.noConfusion (calm _ member)
    · cases member
    · obtain ⟨p, -, same⟩ := mem_verdict member
      cases same
    · cases member
    · cases mem_marks member
  · have latest : (w.performed host i step.action).latest host =
        (host.drainObservation (host.executeStep step.action w.host).2).1.getD s.finalObs := by
      rw [← wait.finalObs]
      rfl
    rw [host_done, finalObs_done, latest] at rest
    rw [latest] at accepted
    rw [drop_of_found found]
    exact .done wait.met (Prod.ext said rfl) accepted rest

theorem handled_turn {r : Outcome PlanStop Unit × PlanRun η} (effort : plan.abortOnError = false)
    (found : plan.steps[i]? = some step) (h : Handled host plan state i s)
    (turn : Turn host plan planId turns i step s r) :
    Method.Ends (fun _ => Handled host plan state (i + 1)) (fun _ _ => True) r := by
  cases turn with
  | waiting wait => trivial
  | closed wait => trivial
  | aborted wait said abort => trivial
  | mismatched wait said verify rejected => trivial
  | refused wait said abort => exact h.refused turns found wait said
  | done wait said accepted =>
    rw [effort, Bool.and_false, if_neg Bool.false_ne_true]
    exact h.done planId turns found wait said accepted

end Steps

variable (host plan state)

theorem handled_execute (effort : plan.abortOnError = false) :
    Method.Ends
      (fun answer t => ∃ w,
        (Handled host plan state plan.steps.length w ∧ Tidy plan predicateEngine plan.steps.length w) ∧
          t = w.observed host .finished ∧ answer = (t.result planId, t.counters))
      (fun _ _ => True) (execute host plan planId turns predicateEngine streamEngine state) := by
  refine execute_ends host
    (fun i s => Handled host plan state i s ∧ Tidy plan predicateEngine i s) ⟨?_, ?_⟩ ?_
  · exact ⟨id, fun k below => absurd below (Nat.not_lt_zero k), fun k member => by cases member⟩
  · exact ⟨⟨0, Nat.zero_le _, rfl⟩, (fun k result at_ => by cases at_), rfl,
      fun _ event member => absurd member List.not_mem_nil⟩
  · rintro i step s ⟨r, t⟩ found ⟨handled, tidy⟩ turn
    have next := handled_turn planId turns effort found handled turn
    have kept := tidy_turn tidy found turn
    cases r with
    | ok _ => exact ⟨next, kept⟩
    | err _ => trivial
    | panic => exact next

theorem Handled.finished {w : PlanRun η} (h : Handled host plan state plan.steps.length w)
    (tidy : Tidy plan predicateEngine plan.steps.length w) :
    BestEffort plan (.ok ((w.observed host .finished).result planId, (w.observed host .finished).counters),
      w.observed host .finished) := by
  constructor
  case returns => exact ⟨_, _, rfl, rfl⟩
  case each => exact tidy.length
  case order => exact tidy.order
  case timedOut =>
    intro k result at_ member
    rcases List.mem_append.mp member with member | member
    · exact absurd member (h.patient k)
    · cases List.mem_singleton.mp member
  case executed =>
    intro k below _
    obtain ⟨answer, member⟩ := h.executed k below
    exact ⟨answer, List.mem_append_left _ member⟩

/-- A plan that is to go on does what is asked of it, with enough turns for its waits, if and only if
every wait comes to pass and every verification is met. -/
theorem best_effort_iff (effort : plan.abortOnError = false) :
    (∃ turns, BestEffort plan (execute host plan planId turns predicateEngine streamEngine state)) ↔
      Smooth host plan.steps .initial state := by
  constructor
  · rintro ⟨turns, done⟩
    have ends := handled_execute host plan planId turns predicateEngine streamEngine state effort
    obtain ⟨answer, counters, ok, -⟩ := done.returns
    rcases run : execute host plan planId turns predicateEngine streamEngine state with ⟨r, t⟩
    rw [run] at ends ok
    cases ok
    obtain ⟨w, ⟨handled, -⟩, -, -⟩ := ends
    apply handled.whole
    rw [List.drop_length]
    exact .nil
  · intro smooth
    obtain ⟨n, runs⟩ := smooth.runs planId effort
    obtain ⟨w, run⟩ := runs (n + 1) (Nat.lt_succ_self n) 0 (.start predicateEngine streamEngine state)
      rfl rfl
    refine ⟨n + 1, ?_⟩
    have ends := handled_execute host plan planId (n + 1) predicateEngine streamEngine state effort
    have whole : execute host plan planId (n + 1) predicateEngine streamEngine state =
        (.ok ((w.observed host .finished).result planId, (w.observed host .finished).counters),
          w.observed host .finished) := by
      unfold execute executeBody
      rw [Method.run_bind_ok run, Method.run_bind_ok (run_observe host .finished w),
        Method.run_read_bind]
      rfl
    rw [whole] at ends ⊢
    obtain ⟨w', ⟨handled, tidy⟩, same, -⟩ := ends
    rw [same]
    exact handled.finished host plan planId predicateEngine state tidy

end Execute

/-- The step of `waitingPlan`, with the wish to go on. -/
def patientPlan : Plan := { waitingPlan with abortOnError := false }

/-- The wait that times out ends the plan, which reports no step. -/
theorem timeout_ends_patient_plan :
    (execute closedHost patientPlan 1 1 .new .new ()).1 =
        .err (.failed (.waitBeforeTimeout 0 0 none)) ∧
      ∀ turns, ¬BestEffort patientPlan (execute closedHost patientPlan 1 turns .new .new ()) := by
  refine ⟨rfl, fun turns done => ?_⟩
  obtain ⟨answer, counters, ok, -⟩ := done.returns
  cases turns with
  | zero => cases ok
  | succ turns => cases ok

def keyHost : Host Unit where
  executeStep
    | .key .., s => (.ok { ActionResult.blank with landed := true }, s)
    | _, s => (.error "refused", s)
  drainObservation s := (none, s)

def refusedPlan : Plan where
  steps := [
    { id := 0, action := .tap 0 0 0, waitBefore := none, verifyAfter := none, label := none },
    { id := 1, action := .key 3 0, waitBefore := none, verifyAfter := none, label := none }]
  abortOnError := false
  checkpointEvery := 0

theorem refusal_is_passed_over :
    ∃ turns, BestEffort refusedPlan (execute keyHost refusedPlan 1 turns .new .new ()) := by
  have later : Smooth keyHost (refusedPlan.steps.drop 1) .initial () :=
    .done rfl rfl (fun p verifies => by cases verifies) .nil
  exact (best_effort_iff keyHost refusedPlan 1 .new .new () rfl).mpr (.refused rfl rfl later)

end HidConnect.Kernel

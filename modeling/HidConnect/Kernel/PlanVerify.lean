import HidConnect.Kernel.PlanTurn
import HidConnect.Library.Trace

/-! What a verification judges: an observation of its own step, or one that is left from an earlier
step. -/
namespace HidConnect.Kernel
open Fallible

def PlanEvent.isExecuted : PlanEvent → Bool
  | executed _ _ => true
  | _ => false

/-- A match is judged on an observation that was drained since the action of its own step. -/
def FreshMatch (before : List PlanEvent) (event : PlanEvent) : Prop :=
  ∀ i obs, event = .judged i obs true → ∃ earlier answer since,
    before = earlier ++ .executed i answer :: since ∧ .observed (some obs) ∈ since ∧
      ∀ e ∈ since, e.isExecuted = false

def shown : PlanEvent → Option Observation
  | .observed answer => answer
  | _ => none

/-- The last observation that was drained after an action. -/
def leftover (trace : List PlanEvent) : Observation :=
  (trace.filterMap shown).getLast?.getD .initial

/-- Where nothing is drained after an action, the verification of its step does not match what is left
from the steps before. -/
def NoLeftoverMatch (plan : Plan) (before : List PlanEvent) (event : PlanEvent) : Prop :=
  event = .observed none → ∀ earlier i result, before = earlier ++ [.executed i (.ok result)] →
    ∀ step p, plan.steps[i]? = some step → step.verifyAfter = some p →
      p.matched (leftover earlier) = false

theorem leftover_append {trace more : List PlanEvent} (none : ∀ event ∈ more, shown event = none) :
    leftover (trace ++ more) = leftover trace := by
  unfold leftover
  rw [Trace.filterMap_append_of_none none]

theorem leftover_observed (trace : List PlanEvent) (answer : Option Observation) :
    leftover (trace ++ [.observed answer]) = answer.getD (leftover trace) := by
  cases answer with
  | none =>
    refine leftover_append fun event member => ?_
    rw [List.mem_singleton.mp member]
    rfl
  | some obs =>
    unfold leftover
    rw [List.filterMap_append]
    change (((trace.filterMap shown) ++ [obs]).getLast?).getD _ = _
    rw [List.getLast?_concat]
    rfl

/-- Events that neither of the two conditions is about. -/
def PlanEvent.isPlain : PlanEvent → Bool
  | observed _ => false
  | judged _ _ matched => !matched
  | _ => true

theorem shown_of_isPlain {event : PlanEvent} (plain : event.isPlain = true) : shown event = none := by
  cases event with
  | observed answer => contradiction
  | _ => rfl

section Verify
variable {η : Type} {plan : Plan}

def Judged (plan : Plan) (trace : List PlanEvent) : Prop :=
  Trace.Upheld FreshMatch trace ↔ Trace.Upheld (NoLeftoverMatch plan) trace

theorem Judged.append {trace more : List PlanEvent} (h : Judged plan trace)
    (plain : ∀ event ∈ more, event.isPlain = true) : Judged plan (trace ++ more) := by
  have fresh : Trace.Upheld FreshMatch (trace ++ more) ↔ Trace.Upheld FreshMatch trace := by
    refine Trace.upheld_append_iff ?_
    rintro before event member i obs rfl
    exact absurd (plain _ member) Bool.false_ne_true
  have stale : Trace.Upheld (NoLeftoverMatch plan) (trace ++ more) ↔
      Trace.Upheld (NoLeftoverMatch plan) trace := by
    refine Trace.upheld_append_iff ?_
    rintro before event member rfl
    exact absurd (plain _ member) Bool.false_ne_true
  unfold Judged
  rw [fresh, stale]
  exact h

theorem freshMatch_judged {trace : List PlanEvent} {i : Nat} {result : ActionResult}
    {answer : Option Observation} {matched : Bool} :
    FreshMatch (trace ++ [.executed i (.ok result)] ++ [.observed answer])
        (.judged i (answer.getD (leftover trace)) matched) ↔ (answer = none → matched = false) := by
  cases answer with
  | some obs =>
    refine iff_of_true ?_ fun same => by cases same
    intro j o same
    cases same
    refine ⟨trace, .ok result, [.observed (some obs)], by simp, List.mem_singleton_self _, ?_⟩
    intro e member
    rw [List.mem_singleton.mp member]
    rfl
  | none =>
    cases matched with
    | false => exact iff_of_true (fun j o same => by cases same) fun _ => rfl
    | true =>
      refine iff_of_false (fun fresh => ?_) fun h => Bool.noConfusion (h rfl)
      obtain ⟨earlier, answer, since, whole, member, quiet⟩ := fresh i _ rfl
      -- the last events are the action itself and the empty answer, so nothing was drained in between
      rcases List.eq_nil_or_concat since with rfl | ⟨since, last, rfl⟩
      · exact absurd member List.not_mem_nil
      · rw [List.concat_eq_append] at whole member quiet
        rw [← List.cons_append, ← List.append_assoc] at whole
        obtain ⟨split, same⟩ := List.append_inj' whole rfl
        clear whole
        cases same
        rw [List.mem_append, List.mem_singleton] at member
        replace member := member.resolve_right fun same => by cases same
        rcases List.eq_nil_or_concat since with rfl | ⟨since, last, rfl⟩
        · exact absurd member List.not_mem_nil
        · rw [List.concat_eq_append] at split quiet
          rw [← List.cons_append, ← List.append_assoc] at split
          obtain ⟨-, same⟩ := List.append_inj' split rfl
          clear split
          cases same
          cases quiet _ (List.mem_append_left _ (List.mem_append_right _ (List.mem_singleton_self _)))

theorem noLeftoverMatch_observed {trace : List PlanEvent} {i : Nat} {step : PlanStep}
    (found : plan.steps[i]? = some step) {result : ActionResult} {answer : Option Observation} :
    NoLeftoverMatch plan (trace ++ [.executed i (.ok result)]) (.observed answer) ↔
      (answer = none → ∀ p, step.verifyAfter = some p → p.matched (leftover trace) = false) := by
  constructor
  · rintro h rfl p verify
    exact h rfl trace i result rfl step p found verify
  · intro h same earlier j result' split step' p found' verify
    cases same
    obtain ⟨rfl, same⟩ := List.append_inj' split rfl
    cases same
    rw [found] at found'
    cases found'
    exact h rfl p verify

theorem Judged.verdict {trace : List PlanEvent} (h : Judged plan trace) {i : Nat} {step : PlanStep}
    (found : plan.steps[i]? = some step) (result : ActionResult) (answer : Option Observation) :
    Judged plan (trace ++ [.executed i (.ok result)] ++ [.observed answer] ++
      verdict i (answer.getD (leftover trace)) step.verifyAfter) := by
  have fresh : Trace.Upheld FreshMatch
      (trace ++ [.executed i (.ok result)] ++ [.observed answer]) ↔ Trace.Upheld FreshMatch trace := by
    rw [Trace.upheld_snoc, Trace.upheld_snoc]
    refine ⟨fun h => h.1.1, fun h => ⟨⟨h, ?_⟩, ?_⟩⟩
    · exact fun j obs same => by cases same
    · exact fun j obs same => by cases same
  have stale : Trace.Upheld (NoLeftoverMatch plan)
      (trace ++ [.executed i (.ok result)] ++ [.observed answer]) ↔
        Trace.Upheld (NoLeftoverMatch plan) trace ∧
          (answer = none → ∀ p, step.verifyAfter = some p → p.matched (leftover trace) = false) := by
    rw [Trace.upheld_snoc, Trace.upheld_snoc, noLeftoverMatch_observed found]
    refine and_congr_left fun _ => and_iff_left ?_
    intro same
    cases same
  unfold Judged at h ⊢
  cases verify : step.verifyAfter with
  | none =>
    rw [Kernel.verdict, List.append_nil, fresh, stale, h, verify]
    exact (and_iff_left fun _ p same => by cases same).symm
  | some p =>
    have judged : NoLeftoverMatch plan (trace ++ [.executed i (.ok result)] ++ [.observed answer])
        (.judged i (answer.getD (leftover trace)) (p.matched (answer.getD (leftover trace)))) :=
      fun same => by cases same
    rw [Kernel.verdict, Trace.upheld_snoc (Q := FreshMatch), fresh, freshMatch_judged,
      Trace.upheld_snoc (Q := NoLeftoverMatch plan), stale, h, verify, and_iff_left judged]
    refine and_congr_right fun _ => ?_
    constructor
    · rintro idle rfl q same
      cases same
      exact idle rfl
    · rintro idle rfl
      exact idle rfl p rfl

structure Explained (plan : Plan) (s : PlanRun η) : Prop where
  judged : Judged plan s.trace
  left : leftover s.trace = s.finalObs

theorem Explained.quiet {s t : PlanRun η} (h : Explained plan s) (more : List PlanEvent)
    (plain : ∀ event ∈ more, event.isPlain = true) (finalObs : t.finalObs = s.finalObs)
    (trace : t.trace = s.trace ++ more) : Explained plan t := by
  constructor
  · rw [trace]
    exact h.judged.append plain
  · rw [trace, leftover_append fun event member => shown_of_isPlain (plain event member), h.left, finalObs]

theorem shown_verdict {i : Nat} {obs : Observation} {verifyAfter : Option Predicate} :
    ∀ event ∈ verdict i obs verifyAfter, shown event = none := by
  intro event member
  obtain ⟨p, -, rfl⟩ := mem_verdict member
  rfl

section Steps
variable {host : Host η} {planId : PlanId} {turns i : Nat} {step : PlanStep} {s w : PlanRun η}

theorem Explained.waited (h : Explained plan s) {ending : WaitEnd}
    (wait : Waited host turns i step s ending w) : Explained plan w := by
  obtain ⟨more, trace, waits⟩ := wait.trace
  refine h.quiet more (fun event member => ?_) wait.finalObs trace
  have := waits event member
  cases event <;> first | rfl | contradiction

theorem Explained.performed (h : Explained plan w) :
    Explained plan (w.performed host i step.action) := by
  refine h.quiet [.executed i (host.executeStep step.action w.host).1] ?_ rfl rfl
  rintro event (_ | ⟨_, ⟨⟩⟩)
  rfl

theorem Explained.verified (h : Explained plan w) (found : plan.steps[i]? = some step)
    {result : ActionResult} (said : (host.executeStep step.action w.host).1 = .ok result) :
    Explained plan (w.verified host i step) := by
  constructor
  · have stepped := h.judged.verdict found result
      (host.drainObservation (w.performed host i step.action).host).1
    rw [h.left] at stepped
    rw [trace_verified, said]
    exact stepped
  · rw [trace_verified, finalObs_verified, leftover_append shown_verdict, leftover_observed,
      leftover_append (by simp [shown]), h.left]
    rfl

theorem Explained.done (h : Explained plan (w.verified host i step)) (result : ActionResult) :
    Explained plan (w.done host plan planId i step result) := by
  refine h.quiet _ (fun event member => ?_) ?_ (trace_done ..)
  · rcases List.mem_append.mp member with member | member
    · rw [List.mem_singleton.mp member]
      rfl
    · rw [mem_marks member]
      rfl
  · exact finalObs_checkpointed ..

theorem explained_turn {r : Outcome PlanStop Unit × PlanRun η} (found : plan.steps[i]? = some step)
    (h : Explained plan s) (turn : Turn host plan planId turns i step s r) :
    Method.Ends (fun _ => Explained plan) (fun _ => Explained plan) r := by
  cases turn with
  | waiting wait => exact h.waited wait
  | closed wait => exact h.waited wait
  | aborted wait said abort => exact (h.waited wait).performed
  | refused wait said abort =>
    exact (h.waited wait).performed.quiet [] (fun event member => absurd member List.not_mem_nil) rfl
      (List.append_nil _).symm
  | mismatched wait said verify rejected => exact (h.waited wait).verified found said
  | done wait said accepted =>
    split
    · exact ((h.waited wait).verified found said).done _
    · exact ((h.waited wait).verified found said).done _

end Steps

end Verify

section Execute
variable {η : Type} (host : Host η) (plan : Plan) (planId : PlanId) (turns : Nat)
  (predicateEngine : PredicateEngine) (streamEngine : StreamEngine) (state : η)

/-- Every match of a run is judged on an observation of its own step if and only if no step that shows
nothing has its verification met by what was shown before its action. -/
theorem verification_fresh_iff :
    Trace.Upheld FreshMatch
        (execute host plan planId turns predicateEngine streamEngine state).2.trace ↔
      Trace.Upheld (NoLeftoverMatch plan)
        (execute host plan planId turns predicateEngine streamEngine state).2.trace := by
  have initial : Explained plan (PlanRun.start predicateEngine streamEngine state) :=
    ⟨iff_of_true Trace.upheld_nil Trace.upheld_nil, rfl⟩
  have ends : Method.Ends _ (fun _ => Explained plan)
      (execute host plan planId turns predicateEngine streamEngine state) :=
    execute_ends host (fun _ s => Explained plan s) initial
      fun i step s r found inv turn => explained_turn found inv turn
  refine Method.Ends.state (P := fun s => Judged plan s.trace)
    (ends.mono ?_ fun e s explained => explained.judged)
  rintro answer s ⟨w, explained, rfl, -⟩
  change Judged plan (w.trace ++ [.finished (host.drainObservation w.host).1])
  refine explained.judged.append ?_
  rintro event (_ | ⟨_, ⟨⟩⟩)
  rfl

end Execute

def homeScreen : Observation :=
  { Observation.initial with
    a11y := some { windowId := none, topActivity := some "app/.Home", nodeCount := 0, json := "[]" } }

def onceHost : Host Bool where
  executeStep _ s := (.ok { ActionResult.blank with landed := true }, s)
  drainObservation
    | true => (some homeScreen, false)
    | false => (none, false)

def homeStep (id : StepId) : PlanStep where
  id := id
  action := .tap 0 0 0
  waitBefore := none
  verifyAfter := some (.activity "app/.Home" 1000)
  label := none

def homePlan : Plan where
  steps := [homeStep 0, homeStep 1]
  abortOnError := true
  checkpointEvery := 0

def firstTap : List PlanEvent :=
  [.executed 0 (.ok { ActionResult.blank with landed := true }), .observed (some homeScreen),
    .judged 0 homeScreen true, .completed 0 true]

/-- The second tap is verified by what was shown after the first. -/
theorem second_tap_judged_on_leftover :
    (execute onceHost homePlan 1 0 .new .new true).1.isOk = true ∧
      ¬Trace.Upheld FreshMatch (execute onceHost homePlan 1 0 .new .new true).2.trace := by
  refine ⟨rfl, fun fresh => ?_⟩
  have judged := fresh (firstTap ++ [.executed 1 (.ok { ActionResult.blank with landed := true })] ++
    [.observed none]) (.judged 1 homeScreen true) [.completed 1 true, .finished none] rfl
  exact Bool.noConfusion (freshMatch_judged.mp judged rfl)

end HidConnect.Kernel

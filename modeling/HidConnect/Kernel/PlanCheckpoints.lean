import HidConnect.Kernel.PlanStream
import HidConnect.Library.Trace

/-! Checkpoints of a plan: which steps they follow, and which steps they should follow. -/
namespace HidConnect.Kernel
open Fallible

def landedCount (results : List StepResult) : Nat := results.countP StepResult.landed

/-- The steps that land and bring the landed count to a multiple of `n`. -/
def checkpointSteps (n : Nat) (results : List StepResult) : List Nat :=
  (List.range results.length).filter fun i =>
    results[i]?.any StepResult.landed && landedCount (results.take (i + 1)) % n == 0

def emitted (trace : List PlanEvent) : List Nat :=
  trace.filterMap fun
    | .checkpoint i _ => some i
    | _ => none

def landedIn (trace : List PlanEvent) : Nat :=
  trace.countP fun
    | .completed _ landed => landed
    | _ => false

/-- One checkpoint after each of these steps and none else, and as many are counted. -/
def CheckpointsExact {η : Type} (n : Nat) (t : PlanRun η) : Prop :=
  emitted t.trace = checkpointSteps n t.stepsOut ∧
    t.counters.checkpoints = UInt32.ofNat (landedCount t.stepsOut / n)

/-- What is asked of a step whose verification passed, given how many have landed before it. If it does not
land, it does not find that number, as 32 bits hold it, at a multiple of `n`. If it does, the number is a
multiple in 32 bits exactly where it is one: this only fails beyond 2^32. -/
def OnCount (n before : Nat) : Bool → Prop
  | false => before % 2 ^ 32 % n ≠ 0
  | true => (before + 1) % 2 ^ 32 % n = 0 ↔ (before + 1) % n = 0

def NoIdleMultiple (n : Nat) (trace : List PlanEvent) : Prop :=
  Trace.Upheld (fun before event => ∀ i landed, event = .completed i landed →
    OnCount n (landedIn before) landed) trace

theorem landedIn_split (before : List PlanEvent) (event : PlanEvent) (after : List PlanEvent) :
    landedIn before + landedIn [event] ≤ landedIn (before ++ event :: after) := by
  unfold landedIn
  rw [List.append_cons, List.countP_append, List.countP_append]
  exact Nat.le_add_right _ _

/-- Before 2^32 steps have landed, only a step that does not land can be off the count. -/
theorem noIdleMultiple_of_small {n : Nat} {trace : List PlanEvent} (small : landedIn trace < 2 ^ 32) :
    NoIdleMultiple n trace ↔ Trace.Upheld
      (fun before event => ∀ i, event = .completed i false → landedIn before % n ≠ 0) trace := by
  constructor
  · rintro h before event after whole i rfl
    have within := landedIn_split before (.completed i false) after
    rw [← whole] at within
    have held : landedIn before % 2 ^ 32 = landedIn before := Nat.mod_eq_of_lt (by omega)
    have onCount := h before _ after whole i false rfl
    rwa [OnCount, held] at onCount
  · rintro h before event after whole i landed rfl
    have within := landedIn_split before (.completed i landed) after
    rw [← whole] at within
    cases landed with
    | false =>
      have held : landedIn before % 2 ^ 32 = landedIn before := Nat.mod_eq_of_lt (by omega)
      rw [OnCount, held]
      exact h before _ after whole i rfl
    | true =>
      have one : landedIn [.completed i true] = 1 := rfl
      have held : (landedIn before + 1) % 2 ^ 32 = landedIn before + 1 := Nat.mod_eq_of_lt (by omega)
      rw [OnCount, held]

theorem landedCount_snoc (results : List StepResult) (r : StepResult) :
    landedCount (results ++ [r]) = landedCount results + (if r.landed then 1 else 0) := by
  unfold landedCount
  rw [List.countP_append, List.countP_singleton]

theorem checkpointSteps_snoc (n : Nat) (results : List StepResult) (r : StepResult) :
    checkpointSteps n (results ++ [r]) = checkpointSteps n results ++
      (if r.landed && landedCount (results ++ [r]) % n == 0 then [results.length] else []) := by
  unfold checkpointSteps
  rw [List.length_append, List.length_singleton, List.range_succ, List.filter_append]
  congr 1
  · refine List.filter_congr fun i member => ?_
    have below : i < results.length := List.mem_range.mp member
    rw [List.getElem?_append_left below, List.take_append_of_le_length below]
  · have all : (results ++ [r]).take (results.length + 1) = results ++ [r] :=
      List.take_of_length_le (by simp)
    rw [List.filter_singleton, all]
    simp

theorem lt_of_mem_checkpointSteps {n i : Nat} {results : List StepResult}
    (member : i ∈ checkpointSteps n results) : i < results.length :=
  List.mem_range.mp (List.mem_of_mem_filter member)

/-- One more mark behind all others keeps the marks right exactly if it is due. -/
theorem append_mark_iff {marks steps : List Nat} {k : Nat} (below : ∀ i ∈ marks, i < k)
    (below' : ∀ i ∈ steps, i < k) (marked due : Bool) :
    marks ++ (if marked then [k] else []) = steps ++ (if due then [k] else []) ↔
      marks = steps ∧ marked = due := by
  cases marked with
  | false =>
    cases due with
    | false => simp
    | true =>
      refine iff_of_false (fun same => ?_) fun both => Bool.noConfusion both.2
      have member : k ∈ marks ++ [] := same ▸ List.mem_append_right _ (List.mem_singleton_self k)
      rw [List.append_nil] at member
      exact Nat.lt_irrefl k (below k member)
  | true =>
    cases due with
    | false =>
      refine iff_of_false (fun same => ?_) fun both => Bool.noConfusion both.2
      have member : k ∈ steps ++ [] := same ▸ List.mem_append_right _ (List.mem_singleton_self k)
      rw [List.append_nil] at member
      exact Nat.lt_irrefl k (below' k member)
    | true => simp

theorem length_checkpointSteps (n : Nat) (results : List StepResult) :
    (checkpointSteps n results).length = landedCount results / n := by
  induction results using List.reverseRecOn with
  | nil => exact (Nat.zero_div n).symm
  | append_singleton results r ih =>
    rw [checkpointSteps_snoc, List.length_append, ih, landedCount_snoc]
    cases r.landed with
    | false => simp
    | true =>
      simp only [Bool.true_and, if_true, beq_iff_eq]
      rw [Nat.succ_div]
      by_cases multiple : n ∣ landedCount results + 1
      · rw [if_pos multiple, if_pos (Nat.mod_eq_zero_of_dvd multiple), List.length_singleton]
      · rw [if_neg multiple, if_neg fun h => multiple (Nat.dvd_of_mod_eq_zero h), List.length_nil]

/-- Neither the landed count nor the checkpoints depend on the other events. -/
def PlanEvent.isTally : PlanEvent → Bool
  | completed _ _ | checkpoint _ _ => true
  | _ => false

theorem emitted_append {trace more : List PlanEvent} (idle : ∀ event ∈ more, event.isTally = false) :
    emitted (trace ++ more) = emitted trace := by
  refine Trace.filterMap_append_of_none fun event member => ?_
  have quiet := idle event member
  cases event with
  | checkpoint i obs => contradiction
  | _ => rfl

theorem landedIn_append {trace more : List PlanEvent} (idle : ∀ event ∈ more, event.isTally = false) :
    landedIn (trace ++ more) = landedIn trace := by
  have none : landedIn more = 0 := by
    refine List.countP_eq_zero.mpr fun event member => ?_
    have quiet := idle event member
    cases event with
    | completed i landed => contradiction
    | _ => exact Bool.false_ne_true
  unfold landedIn at none ⊢
  rw [List.countP_append, none, Nat.add_zero]

section Counting
variable {η : Type} {n : Nat}

structure Counted (n : Nat) (s : PlanRun η) : Prop where
  landed : s.counters.landed = UInt32.ofNat (landedCount s.stepsOut)
  traced : landedCount s.stepsOut = landedIn s.trace
  checkpoints : s.counters.checkpoints = UInt32.ofNat (emitted s.trace).length
  below : ∀ i ∈ emitted s.trace, i < s.stepsOut.length
  exactly : emitted s.trace = checkpointSteps n s.stepsOut ↔ NoIdleMultiple n s.trace

theorem noIdleMultiple_append {trace more : List PlanEvent}
    (idle : ∀ event ∈ more, event.isTally = false) :
    NoIdleMultiple n (trace ++ more) ↔ NoIdleMultiple n trace := by
  refine Trace.upheld_append_iff ?_
  rintro before event member i landed rfl
  exact absurd (idle _ member) (by simp [PlanEvent.isTally])

theorem Counted.quiet {s t : PlanRun η} (h : Counted n s) (more : List PlanEvent)
    (idle : ∀ event ∈ more, event.isTally = false) (stepsOut : t.stepsOut = s.stepsOut)
    (counters : t.counters = s.counters) (trace : t.trace = s.trace ++ more) : Counted n t := by
  obtain ⟨landed, traced, checkpoints, below, exactly⟩ := h
  constructor
  · rw [counters, stepsOut, landed]
  · rw [stepsOut, trace, landedIn_append idle, traced]
  · rw [counters, trace, emitted_append idle, checkpoints]
  · rw [trace, emitted_append idle, stepsOut]
    exact below
  · rw [trace, emitted_append idle, stepsOut, noIdleMultiple_append idle]
    exact exactly

theorem Counted.refused {s : PlanRun η} (h : Counted n s) (i : Nat) (step : PlanStep)
    (reason : String) : Counted n (s.refused i step reason) := by
  obtain ⟨landed, traced, checkpoints, below, exactly⟩ := h
  constructor
  case landed =>
    change _ = UInt32.ofNat (landedCount (s.stepsOut ++ [_]))
    rw [landedCount_snoc]
    exact landed
  case traced =>
    change landedCount (s.stepsOut ++ [_]) = _
    rw [landedCount_snoc]
    exact traced
  case checkpoints => exact checkpoints
  case below =>
    intro i member
    change i < (s.stepsOut ++ [_]).length
    rw [List.length_append]
    exact Nat.lt_add_right _ (below i member)
  case exactly =>
    change _ = checkpointSteps n (s.stepsOut ++ [_]) ↔ _
    rw [checkpointSteps_snoc, Bool.false_and, if_neg Bool.false_ne_true, List.append_nil]
    exact exactly

theorem noIdleMultiple_completed {trace : List PlanEvent} {i : Nat} {landed : Bool} :
    NoIdleMultiple n (trace ++ [.completed i landed]) ↔
      NoIdleMultiple n trace ∧ OnCount n (landedIn trace) landed := by
  unfold NoIdleMultiple
  rw [Trace.upheld_snoc]
  refine and_congr_right fun _ => ⟨fun h => h i landed rfl, fun h j lands same => ?_⟩
  cases same
  exact h

theorem noIdleMultiple_checkpoint {trace : List PlanEvent} {i : Nat} {obs : Observation} :
    NoIdleMultiple n (trace ++ [.checkpoint i obs]) ↔ NoIdleMultiple n trace := by
  unfold NoIdleMultiple
  rw [Trace.upheld_snoc]
  exact and_iff_left fun j landed same => by cases same

theorem emitted_completed (trace : List PlanEvent) (i : Nat) (landed : Bool) :
    emitted (trace ++ [.completed i landed]) = emitted trace := by
  unfold emitted
  rw [List.filterMap_append]
  exact List.append_nil _

theorem emitted_checkpoint (trace : List PlanEvent) (i : Nat) (obs : Observation) :
    emitted (trace ++ [.checkpoint i obs]) = emitted trace ++ [i] := by
  unfold emitted
  rw [List.filterMap_append]
  rfl

theorem landedIn_completed (trace : List PlanEvent) (i : Nat) (landed : Bool) :
    landedIn (trace ++ [.completed i landed]) = landedIn trace + (if landed then 1 else 0) := by
  unfold landedIn
  rw [List.countP_append, List.countP_singleton]

theorem landedIn_checkpoint (trace : List PlanEvent) (i : Nat) (obs : Observation) :
    landedIn (trace ++ [.checkpoint i obs]) = landedIn trace := by
  unfold landedIn
  rw [List.countP_append, List.countP_singleton]
  rfl

/-- The checkpoint test agrees with what should follow the step exactly where the step is on count. -/
theorem marked_eq_due_iff {results : List StepResult} {r : StepResult} {marked : Bool}
    (test : marked = true ↔ landedCount (results ++ [r]) % 2 ^ 32 % n = 0) :
    marked = (r.landed && landedCount (results ++ [r]) % n == 0) ↔
      OnCount n (landedCount results) r.landed := by
  rw [landedCount_snoc] at test ⊢
  cases lands : r.landed with
  | true =>
    rw [lands, if_pos rfl] at test
    rw [Bool.true_and, if_pos rfl, Bool.eq_iff_iff, test, beq_iff_eq]
    rfl
  | false =>
    rw [lands, if_neg Bool.false_ne_true, Nat.add_zero] at test
    rw [Bool.false_and, ← Bool.not_eq_true, test]
    rfl

/-- A step that is recorded, with a checkpoint behind it if the test finds the 32-bit count at a
multiple. -/
theorem Counted.step {w t : PlanRun η} (h : Counted n w) (r : StepResult) (obs : Observation)
    (marked : Bool) (steps : t.stepsOut = w.stepsOut ++ [r])
    (count : t.counters.landed = w.counters.landed + (if r.landed then 1 else 0))
    (marks : t.counters.checkpoints = w.counters.checkpoints + (if marked then 1 else 0))
    (trace : t.trace = w.trace ++ [.completed w.stepsOut.length r.landed] ++
      (if marked then [.checkpoint w.stepsOut.length obs] else []))
    (due : marked = true ↔ t.counters.landed.toNat % n = 0) : Counted n t := by
  obtain ⟨landed, traced, checkpoints, below, exactly⟩ := h
  have total : t.counters.landed = UInt32.ofNat (landedCount (w.stepsOut ++ [r])) := by
    rw [count, landed, landedCount_snoc]
    cases r.landed <;> simp
  have emits : emitted t.trace =
      emitted w.trace ++ (if marked then [w.stepsOut.length] else []) := by
    rw [trace]
    cases marked with
    | false => simp [emitted_completed]
    | true => simp only [if_true, emitted_checkpoint, emitted_completed]
  constructor
  case landed => rw [steps, total]
  case traced =>
    rw [steps, landedCount_snoc, trace, traced]
    cases marked with
    | false => simp [landedIn_completed]
    | true => simp only [if_true, landedIn_checkpoint, landedIn_completed]
  case checkpoints =>
    rw [marks, emits, List.length_append, checkpoints]
    cases marked <;> simp
  case below =>
    rw [emits, steps, List.length_append, List.length_singleton]
    intro i member
    rcases List.mem_append.mp member with earlier | last
    · exact Nat.lt_succ_of_lt (below i earlier)
    · cases marked with
      | false => contradiction
      | true => exact Nat.lt_succ_of_le (Nat.le_of_eq (List.mem_singleton.mp last))
  case exactly =>
    have onCount : NoIdleMultiple n t.trace ↔
        NoIdleMultiple n w.trace ∧ OnCount n (landedIn w.trace) r.landed := by
      rw [trace]
      cases marked with
      | false =>
        rw [if_neg Bool.false_ne_true, List.append_nil]
        exact noIdleMultiple_completed
      | true =>
        rw [if_pos rfl, noIdleMultiple_checkpoint]
        exact noIdleMultiple_completed
    rw [total, UInt32.toNat_ofNat'] at due
    rw [emits, steps, onCount, ← exactly, ← traced, checkpointSteps_snoc, ← marked_eq_due_iff due]
    exact append_mark_iff below (fun i => lt_of_mem_checkpointSteps) marked _

theorem Counted.recorded {w : PlanRun η} (h : Counted n w) {plan : Plan}
    (every : plan.checkpointEvery.toNat = n) (positive : 0 < n) (planId : PlanId)
    (step : PlanStep) (result : ActionResult) :
    Counted n ((w.recorded w.stepsOut.length step result).checkpointed plan planId
      w.stepsOut.length) := by
  have count : (w.recorded w.stepsOut.length step result).counters.landed =
      w.counters.landed + (if result.landed then 1 else 0) := by
    unfold PlanRun.recorded
    cases result.landed <;> simp
  have emits : (w.recorded w.stepsOut.length step result).counters.checkpoints =
      w.counters.checkpoints := by
    unfold PlanRun.recorded
    cases result.landed <;> rfl
  refine h.step ⟨step.id, w.stepsOut.length.toUInt32, result, result.landed, none⟩
    (checkpointCopy planId w.finalObs)
    (decide ((w.recorded w.stepsOut.length step result).checkpointDue plan)) ?_ ?_ ?_ ?_ ?_
  case refine_1 => exact stepsOut_checkpointed ..
  case refine_2 => rw [landed_checkpointed, count]
  case refine_3 =>
    unfold PlanRun.checkpointed
    split
    case isTrue due => simp [due, emits]
    case isFalse idle => simp [idle, emits]
  case refine_4 =>
    rw [trace_checkpointed]
    unfold PlanRun.marks
    split
    case isTrue due =>
      rw [if_pos (decide_eq_true due)]
      rfl
    case isFalse idle =>
      rw [if_neg fun h => idle (of_decide_eq_true h)]
      rfl
  case refine_5 =>
    have enabled : 0 < plan.checkpointEvery := UInt32.lt_iff_toNat_lt.mpr (every ▸ positive)
    rw [decide_eq_true_iff, landed_checkpointed]
    unfold PlanRun.checkpointDue
    rw [and_iff_right enabled, ← UInt32.toNat_inj, UInt32.toNat_mod, every]
    rfl

section Steps
variable {host : Host η} {plan : Plan} {planId : PlanId} {turns i : Nat} {step : PlanStep}
  {s w : PlanRun η}

theorem Counted.waited (h : Counted n s) {ending : WaitEnd}
    (wait : Waited host turns i step s ending w) : Counted n w := by
  obtain ⟨more, trace, waits⟩ := wait.trace
  refine h.quiet more (fun event member => ?_) wait.stepsOut wait.counters trace
  have := waits event member
  cases event <;> first | rfl | contradiction

theorem Counted.performed (h : Counted n w) (action : Action) :
    Counted n (w.performed host i action) := by
  refine h.quiet [.executed i (host.executeStep action w.host).1] ?_ rfl rfl rfl
  rintro event (_ | ⟨_, ⟨⟩⟩)
  rfl

theorem Counted.verified (h : Counted n w) : Counted n (w.verified host i step) := by
  refine h.quiet ([.executed i (host.executeStep step.action w.host).1] ++
    ([.observed (host.drainObservation (w.performed host i step.action).host).1] ++
      verdict i ((w.performed host i step.action).latest host) step.verifyAfter)) ?_
    (stepsOut_verified ..) (counters_verified ..) ?_
  · intro event member
    simp only [List.mem_append, List.mem_singleton] at member
    rcases member with rfl | rfl | member
    · rfl
    · rfl
    · obtain ⟨p, -, rfl⟩ := mem_verdict member
      rfl
  · rw [trace_verified]
    simp only [List.append_assoc]

theorem Counted.done (h : Counted n w) (every : plan.checkpointEvery.toNat = n) (positive : 0 < n)
    (here : w.stepsOut.length = i) (result : ActionResult) :
    Counted n (w.done host plan planId i step result) := by
  have verified : Counted n (w.verified host i step) := h.verified
  have counted := verified.recorded every positive planId step result
  rw [stepsOut_verified, here] at counted
  exact counted

theorem counted_turn {r : Outcome PlanStop Unit × PlanRun η}
    (every : plan.checkpointEvery.toNat = n) (positive : 0 < n)
    (turn : Turn host plan planId turns i step s r) (h : Counted n s) (here : s.stepsOut.length = i) :
    Method.Ends (fun _ t => Counted n t ∧ t.stepsOut.length = i + 1) (fun _ t => Counted n t) r := by
  cases turn with
  | waiting wait => exact h.waited wait
  | closed wait => exact h.waited wait
  | aborted wait said abort => exact (h.waited wait).performed _
  | refused wait said abort =>
    refine ⟨((h.waited wait).performed _).refused .., ?_⟩
    change (_ ++ [_]).length = i + 1
    rw [List.length_append, ← here, ← wait.stepsOut]
    rfl
  | mismatched wait said verify rejected => exact (h.waited wait).verified
  | @done w result wait said accepted =>
    have counted : Counted n (w.done host plan planId i step result) :=
      (h.waited wait).done every positive (wait.stepsOut ▸ here) result
    have length : (w.done host plan planId i step result).stepsOut.length = i + 1 := by
      rw [stepsOut_done, List.length_append, wait.stepsOut, here]
      rfl
    split
    · exact counted
    · exact ⟨counted, length⟩

end Steps

end Counting

section Checkpoints
variable {η : Type} (host : Host η) (plan : Plan) (planId : PlanId) (turns : Nat)
  (predicateEngine : PredicateEngine) (streamEngine : StreamEngine) (state : η)

theorem execute_counted (positive : 0 < plan.checkpointEvery.toNat) :
    Counted plan.checkpointEvery.toNat
      (execute host plan planId turns predicateEngine streamEngine state).2 := by
  have initial : Counted plan.checkpointEvery.toNat
      (PlanRun.start predicateEngine streamEngine state) :=
    ⟨rfl, rfl, rfl, fun _ none => absurd none List.not_mem_nil, iff_of_true rfl Trace.upheld_nil⟩
  have ends : Method.Ends _ _ (execute host plan planId turns predicateEngine streamEngine state) :=
    execute_ends host (fun i s => Counted plan.checkpointEvery.toNat s ∧ s.stepsOut.length = i)
      ⟨initial, rfl⟩ fun i step s r _ inv turn => counted_turn rfl positive turn inv.1 inv.2
  refine (ends.mono ?_ fun e t counted => counted).state
  rintro answer t ⟨w, ⟨counted, -⟩, rfl, -⟩
  refine counted.quiet [_] ?_ rfl rfl rfl
  rintro event (_ | ⟨_, ⟨⟩⟩)
  rfl

end Checkpoints

/-- The stream carries the checkpoints along with what the host shows. They are exactly those after the
steps that land and bring the landed count to a multiple of the interval if and only if no step that did
not land finds the landed count at a multiple, and the count does not lose a multiple when it wraps. -/
theorem checkpoints_exact_iff {η : Type} (host : Host η) (plan : Plan) (planId : PlanId) (turns : Nat)
    (predicateEngine : PredicateEngine) (streamEngine : StreamEngine) (state : η)
    (positive : 0 < plan.checkpointEvery.toNat) :
    let t := (execute host plan planId turns predicateEngine streamEngine state).2
    t.streamEngine = publishAll streamEngine (t.trace.filterMap published) ∧
      (CheckpointsExact plan.checkpointEvery.toNat t ↔
        NoIdleMultiple plan.checkpointEvery.toNat t.trace) := by
  intro t
  have counted : Counted plan.checkpointEvery.toNat t :=
    execute_counted host plan planId turns predicateEngine streamEngine state positive
  refine ⟨execute_carries host plan planId turns predicateEngine streamEngine state, ?_⟩
  rw [← counted.exactly]
  refine and_iff_left_of_imp fun same => ?_
  rw [counted.checkpoints, same, length_checkpointSteps]

def idleHost : Host Unit where
  executeStep _ s := (.ok .blank, s)
  drainObservation s := (none, s)

def tap : Action := .tap 0 0 0

def idlePlan : Plan where
  steps := [{ id := 0, action := tap, waitBefore := none, verifyAfter := none, label := none }]
  abortOnError := false
  checkpointEvery := 2

/-- The tap does not land, and is followed by a checkpoint. -/
theorem idle_step_is_checkpointed :
    (execute idleHost idlePlan 1 0 .new .new ()).2.stepsOut.map StepResult.landed = [false] ∧
      emitted (execute idleHost idlePlan 1 0 .new .new ()).2.trace = [0] ∧
      ¬CheckpointsExact 2 (execute idleHost idlePlan 1 0 .new .new ()).2 := by
  refine ⟨rfl, rfl, fun exact => ?_⟩
  have none : checkpointSteps 2 (execute idleHost idlePlan 1 0 .new .new ()).2.stepsOut = [] := rfl
  exact List.cons_ne_nil 0 [] (exact.1.trans none)

theorem idle_step_finds_multiple :
    ¬NoIdleMultiple 2 (execute idleHost idlePlan 1 0 .new .new ()).2.trace := by
  intro h
  have exact := (checkpoints_exact_iff idleHost idlePlan 1 0 .new .new () (by decide)).2.mpr h
  exact absurd exact.2 (by decide)

end HidConnect.Kernel

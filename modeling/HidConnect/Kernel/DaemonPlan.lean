import HidConnect.Kernel.ActionLog
import HidConnect.Library.Trace

/-! The waits of a plan in the daemon: when a step is executed behind a poll that found what it waits
for. -/
namespace HidConnect.Kernel
open Fallible

namespace Phone
variable {η : Type} (phone : Phone η)

/-- One of the polls that are made before the time is up finds the predicate to hold. -/
inductive Appears (p : Predicate) (pause t0 cap : Nat) : η → Prop where
  | now {e : η} (early : (phone.now e).1 - t0 < cap)
      (holds : holdsOn p (phone.dumpsys (phone.now e).2).1 = true) : Appears p pause t0 cap e
  | later {e : η} (early : (phone.now e).1 - t0 < cap)
      (rest : Appears p pause t0 cap (phone.sleep pause (phone.dumpsys (phone.now e).2).2)) :
      Appears p pause t0 cap e

theorem appears_iff (p : Predicate) (pause t0 cap : Nat) (e : η) :
    phone.Appears p pause t0 cap e ↔ (phone.now e).1 - t0 < cap ∧
      (holdsOn p (phone.dumpsys (phone.now e).2).1 = true ∨
        phone.Appears p pause t0 cap (phone.sleep pause (phone.dumpsys (phone.now e).2).2)) := by
  constructor
  · rintro (⟨early, holds⟩ | ⟨early, rest⟩)
    · exact ⟨early, .inl holds⟩
    · exact ⟨early, .inr rest⟩
  · rintro ⟨early, holds | rest⟩
    · exact .now early holds
    · exact .later early rest

/-- The loop ends at the first poll on which the predicate holds, or with the time. -/
theorem pollUntil_spec (p : Predicate) {pause : Nat} (positive : 0 < pause) (t0 cap : Nat) (e : η) :
    ((phone.pollUntil p positive t0 cap e).1.1 = true ↔ phone.Appears p pause t0 cap e) ∧
      ((phone.pollUntil p positive t0 cap e).1.1 = true → ∃ out,
        (phone.pollUntil p positive t0 cap e).1.2.getLast? = some out ∧ holdsOn p out = true) := by
  fun_induction phone.pollUntil p positive t0 cap e with
  | case1 e early out holds =>
    rw [appears_iff]
    exact ⟨iff_of_true rfl ⟨early, .inl holds⟩, fun _ => ⟨_, rfl, holds⟩⟩
  | case2 e early out fails rest ih =>
    rw [appears_iff]
    refine ⟨ih.1.trans ⟨fun appears => ⟨early, .inr appears⟩, fun h => ?_⟩, fun held => ?_⟩
    · exact h.2.resolve_left fails
    · obtain ⟨last, found, holds⟩ := ih.2 held
      refine ⟨last, ?_, holds⟩
      rw [List.getLast?_cons, found]
      rfl
  | case3 e late =>
    rw [appears_iff]
    exact ⟨iff_of_false Bool.false_ne_true fun h => late h.1, fun held => absurd held Bool.false_ne_true⟩

end Phone

/-- A step is only started right behind a poll on which its `wait_before` held. -/
def Guarded (plan : Plan) (before : List DaemonEvent) (event : DaemonEvent) : Prop :=
  ∀ index, event = .started index → ∀ step, plan.steps[index]? = some step →
    ∀ p, step.waitBefore = some p →
      ∃ out, before.getLast? = some (.polled out) ∧ holdsOn p out = true

/-- What a plan is promised of its waits, as a trace shows it. -/
structure HonoursWaits (plan : Plan) (trace : List DaemonEvent) : Prop where
  guarded : Trace.Upheld (Guarded plan) trace
  refused : ∀ index, .timedOut index ∈ trace → .started index ∉ trace
  reported : ∀ index, .timedOut index ∈ trace → ∀ result isCheckpoint,
    .sent { reply := .plan result, isCheckpoint } ∈ trace →
      ∀ stepResult, result.steps[index]? = some stepResult → stepResult.landed = false
  aborted : plan.abortOnError = true → ∀ index, .timedOut index ∈ trace →
    ∀ later, index < later → .started later ∉ trace

namespace Daemon
variable {η : Type} (phone : Phone η) (plan : Plan)

/-- The loop's work for one step: the results so far, whether all have landed, and whether the loop goes
on. -/
def planTurn (index : Nat) (step : PlanStep) (results : List StepResult) (allLanded : Bool) :
    Handling η ((List StepResult × Bool) × Bool) := do
  waitBeforeStep phone index step
  log (.started index)
  let result ← executeAction phone step.action
  let verified ← verifyStep phone step
  let stepResult := stepRecord index step result verified
  if !stepResult.landed && plan.abortOnError then pure ((results ++ [stepResult], false), false)
  else do
    checkpointAfter phone plan (results ++ [stepResult])
    pure ((results ++ [stepResult], allLanded && stepResult.landed), true)

theorem planLoop_cons (index : Nat) (step : PlanStep) (rest : List PlanStep)
    (results : List StepResult) (allLanded : Bool) :
    planLoop phone plan index (step :: rest) results allLanded =
      planTurn phone plan index step results allLanded >>= fun turn =>
        if turn.2 then planLoop phone plan (index + 1) rest turn.1.1 turn.1.2 else pure turn.1 := by
  rw [planLoop, planTurn]
  simp only [Method.bind_assoc]
  congr 1
  funext _
  congr 1
  funext _
  congr 1
  funext result
  congr 1
  funext verified
  split
  · rfl
  · simp only [Method.bind_assoc]
    rfl

/-- The predicate of a step appears in time, if it waits for one. -/
def WaitMet (step : PlanStep) (s : Daemon η) : Prop :=
  ∀ p, step.waitBefore = some p → phone.Appears p 80 (phone.now s.phone).1
    (min (predicateTimeoutMs p) 3000) (phone.now s.phone).2

/-- Every wait that the loop comes to finds what it waits for, in the state in which it comes to it. -/
def WaitsMet : Nat → List PlanStep → List StepResult → Bool → Daemon η → Prop
  | _, [], _, _, _ => True
  | index, step :: rest, results, allLanded, s =>
    WaitMet phone step s ∧ ∀ turn s',
      (planTurn phone plan index step results allLanded).run s = (.ok turn, s') → turn.2 = true →
        WaitsMet (index + 1) rest turn.1.1 turn.1.2 s'

def Calm : DaemonEvent → Prop
  | .started _ | .timedOut _ => False
  | _ => True

def Calmly (s s' : Daemon η) : Prop := ∃ more, s'.trace = s.trace ++ more ∧ ∀ event ∈ more, Calm event

instance : IsPreorder (Daemon η) Calmly where
  refl s := ⟨[], (List.append_nil _).symm, fun _ member => absurd member List.not_mem_nil⟩
  trans s s' s'' := by
    rintro ⟨xs, first, calm⟩ ⟨ys, second, calm'⟩
    refine ⟨xs ++ ys, by rw [second, first, List.append_assoc], fun event member => ?_⟩
    exact (List.mem_append.mp member).elim (calm event) (calm' event)

theorem calmly_of_same {s s' : Daemon η} (same : s'.trace = s.trace) : Calmly s s' :=
  ⟨[], by rw [same, List.append_nil], fun _ member => absurd member List.not_mem_nil⟩

theorem calmly_ask {α : Type} (f : η → α × η) : Method.Keeps Calmly (ask f) :=
  fun _ => calmly_of_same rfl

theorem calmly_buildObservation : Method.Keeps Calmly (buildObservation phone) := by
  intro s
  obtain ⟨obs, e, ran⟩ := run_buildObservation phone s
  rw [ran]
  exact calmly_of_same rfl

theorem calmly_writeReply (reply : Reply) (isCheckpoint : Bool) :
    Method.Keeps Calmly (writeReply phone reply isCheckpoint) := by
  intro s
  obtain ⟨r, e, sent, ran, ends⟩ := run_writeReply phone reply isCheckpoint s
  rw [ran]
  refine ⟨sent, rfl, ?_⟩
  rcases ends with ⟨-, rfl⟩ | ⟨-, rfl⟩ <;> simp [Calm]

theorem calmly_executeAction (action : Action) : Method.Keeps Calmly (executeAction phone action) := by
  intro s
  obtain ⟨result, s', ran, executed⟩ := run_executeAction phone action s
  rw [ran]
  cases executed <;> exact ⟨_, rfl, by simp [Calm]⟩

theorem calmly_verifyStep (step : PlanStep) : Method.Keeps Calmly (verifyStep phone step) := by
  unfold verifyStep
  split
  case h_1 => exact Method.keeps_pure _
  case h_2 => exact (calmly_ask _).bind fun _ => Method.keeps_pure _

theorem calmly_checkpointAfter (results : List StepResult) :
    Method.Keeps Calmly (checkpointAfter phone plan results) := by
  unfold checkpointAfter
  split
  case isTrue => exact (calmly_buildObservation phone).bind fun _ => calmly_writeReply phone _ _
  case isFalse => exact Method.keeps_pure _

theorem guarded_of_calm {event : DaemonEvent} (calm : Calm event) (before : List DaemonEvent) :
    Guarded plan before event := by
  rintro index rfl
  exact calm.elim

theorem run_waitBeforeStep (index : Nat) (step : PlanStep) (s : Daemon η) :
    ∃ s' wait, (waitBeforeStep phone index step).run s = (.ok (), s') ∧ s'.trace = s.trace ++ wait ∧
      (WaitMet phone step s → (∀ event ∈ wait, Calm event) ∧ ∀ p, step.waitBefore = some p →
        ∃ out, wait.getLast? = some (.polled out) ∧ holdsOn p out = true) ∧
      (¬WaitMet phone step s → ∃ earlier, wait = earlier ++ [.timedOut index]) := by
  unfold waitBeforeStep WaitMet
  cases step.waitBefore with
  | none =>
    refine ⟨s, [], rfl, (List.append_nil _).symm, fun _ => ⟨?_, ?_⟩, fun unmet => ?_⟩
    · exact fun _ member => absurd member List.not_mem_nil
    · exact fun _ none => absurd none (by simp)
    · exact absurd (fun _ none => absurd none (by simp)) unmet
  | some p =>
    have spec := phone.pollUntil_spec p (by decide : 0 < 80) (phone.now s.phone).1
      (min (predicateTimeoutMs p) 3000) (phone.now s.phone).2
    have one : (∀ q, some p = some q → phone.Appears q 80 (phone.now s.phone).1
        (min (predicateTimeoutMs q) 3000) (phone.now s.phone).2) ↔
        phone.Appears p 80 (phone.now s.phone).1 (min (predicateTimeoutMs p) 3000)
          (phone.now s.phone).2 := by
      refine ⟨fun all => all p rfl, fun appears q same => ?_⟩
      obtain rfl := Option.some.inj same
      exact appears
    rw [one]
    dsimp only
    rw [run_ask_bind, run_ask_bind]
    dsimp only
    generalize phone.pollUntil p _ _ _ _ = answer at spec
    obtain ⟨⟨held, polls⟩, e⟩ := answer
    dsimp only at spec ⊢
    have calm : ∀ event ∈ polls.map DaemonEvent.polled, Calm event :=
      List.forall_mem_map.mpr fun _ _ => trivial
    cases held with
    | true =>
      refine ⟨_, polls.map DaemonEvent.polled, rfl, rfl, fun _ => ⟨calm, fun q same => ?_⟩,
        fun unmet => absurd (spec.1.mp rfl) unmet⟩
      obtain rfl := Option.some.inj same
      obtain ⟨out, last, holds⟩ := spec.2 rfl
      exact ⟨out, by rw [List.getLast?_map, last]; rfl, holds⟩
    | false =>
      refine ⟨_, polls.map DaemonEvent.polled ++ [.timedOut index], rfl, List.append_assoc .., ?_, ?_⟩
      · exact fun met => absurd (spec.1.mpr met) Bool.false_ne_true
      · exact fun _ => ⟨_, rfl⟩

theorem run_planTurn (index : Nat) (step : PlanStep) (results : List StepResult) (allLanded : Bool)
    (s : Daemon η) :
    ∃ wait more, ((planTurn phone plan index step results allLanded).run s).2.trace =
        s.trace ++ wait ++ .started index :: more ∧ (∀ event ∈ more, Calm event) ∧
      (WaitMet phone step s → (∀ event ∈ wait, Calm event) ∧ ∀ p, step.waitBefore = some p →
        ∃ out, wait.getLast? = some (.polled out) ∧ holdsOn p out = true) ∧
      (¬WaitMet phone step s → ∃ earlier, wait = earlier ++ [.timedOut index]) := by
  obtain ⟨s', wait, ran, trace, spec⟩ := run_waitBeforeStep phone index step s
  have rest : Method.Keeps Calmly (do
      let result ← executeAction phone step.action
      let verified ← verifyStep phone step
      let stepResult := stepRecord index step result verified
      if !stepResult.landed && plan.abortOnError then pure ((results ++ [stepResult], false), false)
      else do
        checkpointAfter phone plan (results ++ [stepResult])
        pure ((results ++ [stepResult], allLanded && stepResult.landed), true)) := by
    refine (calmly_executeAction phone step.action).bind fun result =>
      (calmly_verifyStep phone step).bind fun verified => ?_
    dsimp only
    split
    case isTrue => exact Method.keeps_pure _
    case isFalse => exact (calmly_checkpointAfter phone plan _).bind fun _ => Method.keeps_pure _
  obtain ⟨more, grown, calm⟩ := rest { s' with trace := s'.trace ++ [.started index] }
  refine ⟨wait, more, ?_, calm, spec⟩
  rw [planTurn, Method.run_bind_ok ran, run_log_bind, grown, trace, List.append_assoc (s.trace ++ wait)]
  rfl

section Loop
variable {phone plan} {s : Daemon η} {index : Nat} {step : PlanStep}

theorem upheld_turn (met : WaitMet phone step s) (here : plan.steps[index]? = some step)
    (upheld : Trace.Upheld (Guarded plan) s.trace) (results : List StepResult) (allLanded : Bool) :
    Trace.Upheld (Guarded plan) ((planTurn phone plan index step results allLanded).run s).2.trace := by
  obtain ⟨wait, more, trace, calm, spec, -⟩ := run_planTurn phone plan index step results allLanded s
  obtain ⟨quiet, found⟩ := spec met
  rw [trace, List.append_cons]
  refine Trace.upheld_append (Trace.upheld_snoc.mpr ⟨?_, ?_⟩)
    fun before event member => guarded_of_calm plan (calm event member) before
  · exact Trace.upheld_append upheld
      fun before event member => guarded_of_calm plan (quiet event member) before
  · intro index' same step' here' p waits
    obtain rfl := DaemonEvent.started.inj same
    obtain rfl := Option.some.inj (here.symm.trans here')
    obtain ⟨out, last, holds⟩ := found p waits
    exact ⟨out, by rw [List.getLast?_append, last]; rfl, holds⟩

theorem not_upheld_turn (unmet : ¬WaitMet phone step s) (here : plan.steps[index]? = some step)
    (results : List StepResult) (allLanded : Bool) :
    ¬Trace.Upheld (Guarded plan) ((planTurn phone plan index step results allLanded).run s).2.trace := by
  obtain ⟨wait, more, trace, -, -, spec⟩ := run_planTurn phone plan index step results allLanded s
  obtain ⟨earlier, rfl⟩ := spec unmet
  intro upheld
  obtain ⟨p, waits⟩ : ∃ p, step.waitBefore = some p := by
    by_contra none
    exact unmet fun p waits => absurd ⟨p, waits⟩ none
  obtain ⟨out, last, -⟩ := upheld _ _ _ trace index rfl step here p waits
  rw [← List.append_assoc, List.getLast?_concat] at last
  cases last

def NoneTimedOut (trace : List DaemonEvent) : Prop := ∀ index, .timedOut index ∉ trace

theorem noneTimedOut_turn (plan : Plan) (index : Nat) (met : WaitMet phone step s)
    (none : NoneTimedOut s.trace) (results : List StepResult) (allLanded : Bool) :
    NoneTimedOut ((planTurn phone plan index step results allLanded).run s).2.trace := by
  obtain ⟨wait, more, trace, calm, spec, -⟩ := run_planTurn phone plan index step results allLanded s
  intro index' member
  rw [trace, List.mem_append, List.mem_append, List.mem_cons] at member
  rcases member with (before | waited) | start | after
  · exact none index' before
  · exact (spec met).1 _ waited
  · cases start
  · exact calm _ after

theorem planLoop_met {steps : List PlanStep} (here : plan.steps.drop index = steps)
    {results : List StepResult} {allLanded : Bool}
    (met : WaitsMet phone plan index steps results allLanded s)
    (upheld : Trace.Upheld (Guarded plan) s.trace) (none : NoneTimedOut s.trace) :
    Trace.Upheld (Guarded plan) ((planLoop phone plan index steps results allLanded).run s).2.trace ∧
      NoneTimedOut ((planLoop phone plan index steps results allLanded).run s).2.trace := by
  induction steps generalizing index results allLanded s with
  | nil => exact ⟨upheld, none⟩
  | cons step rest ih =>
    obtain ⟨first, later⟩ := met
    have found : plan.steps[index]? = some step := by
      rw [← List.head?_drop, here, List.head?_cons]
    have next : plan.steps.drop (index + 1) = rest := by
      rw [← List.tail_drop, here, List.tail_cons]
    have turned := upheld_turn first found upheld results allLanded
    have quiet := noneTimedOut_turn plan index first none results allLanded
    rw [planLoop_cons, Method.run_bind]
    rcases ran : (planTurn phone plan index step results allLanded).run s with ⟨outcome, t⟩
    rw [ran] at turned quiet
    cases outcome with
    | ok turn =>
      dsimp only
      split
      case isTrue goesOn => exact ih next (later turn t ran goesOn) turned quiet
      case isFalse => exact ⟨turned, quiet⟩
    | err e => exact ⟨turned, quiet⟩
    | panic => exact ⟨turned, quiet⟩

theorem planLoop_unmet {steps : List PlanStep} (here : plan.steps.drop index = steps)
    {results : List StepResult} {allLanded : Bool}
    (unmet : ¬WaitsMet phone plan index steps results allLanded s) :
    ¬Trace.Upheld (Guarded plan)
      ((planLoop phone plan index steps results allLanded).run s).2.trace := by
  induction steps generalizing index results allLanded s with
  | nil => exact absurd trivial unmet
  | cons step rest ih =>
    have found : plan.steps[index]? = some step := by
      rw [← List.head?_drop, here, List.head?_cons]
    have next : plan.steps.drop (index + 1) = rest := by
      rw [← List.tail_drop, here, List.tail_cons]
    rw [planLoop_cons]
    by_cases first : WaitMet phone step s
    · have some : ∃ turn t, (planTurn phone plan index step results allLanded).run s = (.ok turn, t) ∧
          turn.2 = true ∧ ¬WaitsMet phone plan (index + 1) rest turn.1.1 turn.1.2 t := by
        by_contra none
        refine unmet ⟨first, fun turn t ran goesOn => ?_⟩
        by_contra other
        exact none ⟨turn, t, ran, goesOn, other⟩
      obtain ⟨turn, t, ran, goesOn, later⟩ := some
      rw [Method.run_bind_ok ran, if_pos goesOn]
      exact ih next later
    · have broken := not_upheld_turn first found results allLanded
      rw [Method.run_bind]
      rcases ran : (planTurn phone plan index step results allLanded).run s with ⟨outcome, t⟩
      rw [ran] at broken
      cases outcome with
      | ok turn =>
        dsimp only
        split
        case isTrue =>
          -- what follows is behind the start of the step
          obtain ⟨more, trace, -⟩ := (keeps_planLoop plan rest (index + 1) turn.1.1 turn.1.2 t).events
          rw [trace]
          exact fun upheld => broken upheld.left
        case isFalse => exact broken
      | err e => exact broken
      | panic => exact broken

end Loop

theorem handle_plan (s : Daemon η) (id : PlanId) :
    ∃ more, (s.handle phone (.plan id plan)).trace =
        ((planLoop phone plan 0 plan.steps [] true).run
          { s with phone := (phone.now s.phone).2 }).2.trace ++ more ∧ ∀ event ∈ more, Calm event := by
  unfold handle handleConnection handlePlan
  rw [run_ask_bind, Method.run_bind]
  rcases (planLoop phone plan 0 plan.steps [] true).run { s with phone := (phone.now s.phone).2 }
    with ⟨outcome, t⟩
  have still : ∃ more, t.trace = t.trace ++ more ∧ ∀ event ∈ more, Calm event :=
    ⟨[], (List.append_nil _).symm, fun _ member => absurd member List.not_mem_nil⟩
  cases outcome with
  | ok results =>
    exact ((calmly_ask _).bind fun stop => (calmly_buildObservation phone).bind fun obs =>
      calmly_writeReply phone _ _ : Method.Keeps Calmly _) t
  | err e => exact still
  | panic => exact still

end Daemon

theorem Daemon.not_honoured {η : Type} (phone : Phone η) (s : Daemon η) (id : PlanId) (plan : Plan)
    (unmet : ¬Daemon.WaitsMet phone plan 0 plan.steps [] true { s with phone := (phone.now s.phone).2 }) :
    ¬HonoursWaits plan (s.handle phone (.plan id plan)).trace := by
  intro honours
  obtain ⟨more, trace, -⟩ := Daemon.handle_plan phone plan s id
  have guarded := honours.guarded
  rw [trace] at guarded
  exact Daemon.planLoop_unmet rfl unmet guarded.left

/-- The daemon honours the waits of a plan if and only if each of those it comes to finds, on a poll
within its time, what it waits for. -/
theorem plan_waits_honoured_iff {η : Type} (phone : Phone η) (s : Daemon η) (id : PlanId) (plan : Plan) :
    HonoursWaits plan (Daemon.handle phone { s with trace := [] } (.plan id plan)).trace ↔
      Daemon.WaitsMet phone plan 0 plan.steps [] true
        { s with phone := (phone.now s.phone).2, trace := [] } := by
  constructor
  · intro honours
    by_contra unmet
    exact Daemon.not_honoured phone { s with trace := [] } id plan unmet honours
  · intro met
    obtain ⟨more, trace, calm⟩ := Daemon.handle_plan phone plan { s with trace := [] } id
    obtain ⟨upheld, none⟩ := Daemon.planLoop_met rfl met Trace.upheld_nil
      fun index member => absurd member List.not_mem_nil
    have never : ∀ index, .timedOut index ∉
        (Daemon.handle phone { s with trace := [] } (.plan id plan)).trace := by
      intro index member
      rw [trace, List.mem_append] at member
      exact member.elim (none index) (calm _)
    refine ⟨?_, ?_, ?_, ?_⟩
    · rw [trace]
      exact Trace.upheld_append upheld
        fun before event member => Daemon.guarded_of_calm plan (calm event member) before
    · exact fun index member => absurd member (never index)
    · exact fun index member => absurd member (never index)
    · exact fun _ index member => absurd member (never index)

theorem silentPhone_never_appears (component : String) (timeoutMs : UInt32) (pause t0 cap : Nat)
    (e : Nat) : ¬silentPhone.Appears (.activity component timeoutMs) pause t0 cap e := by
  intro appears
  induction appears with
  | now early holds => exact Bool.false_ne_true holds
  | later early rest ih => exact ih

def launchThenRead : Plan where
  steps := [{
    id := 0, action := .getUiRepr none 1000, verifyAfter := none, label := none
    waitBefore := some (.activity "com.example/.Main" 1000) }]
  abortOnError := true
  checkpointEvery := 0

/-- The app never comes, and the step is executed. -/
theorem unmet_wait_is_not_honoured :
    ¬HonoursWaits launchThenRead
      (Daemon.handle silentPhone (.new 0 { memory := .new, sqlite := none })
        (.plan 1 launchThenRead)).trace := by
  refine Daemon.not_honoured silentPhone _ 1 launchThenRead fun met => ?_
  exact silentPhone_never_appears _ _ _ _ _ _ (met.1 _ rfl)

end HidConnect.Kernel

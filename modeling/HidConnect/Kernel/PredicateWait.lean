import HidConnect.Kernel.PlanAbort

/-! Waiting for a predicate with a deadline, beside the wait of a plan, which has none. -/
namespace HidConnect.Kernel
open Fallible

/-- The readings of the clock in the order in which they are taken, in nanoseconds, and the last instant
that it can represent. -/
structure Clock where
  reading : Nat → Nat
  last : Nat

/-- `Instant + Duration`, which panics where the sum is past the last instant. -/
def Clock.add (clock : Clock) (instant duration : Nat) : Option Nat :=
  if instant + duration ≤ clock.last then some (instant + duration) else none

inductive WaitOutcome where
  | matched (elapsed : Nat)
  | timeout (elapsed : Nat)
  | streamClosed (elapsed : Nat)
  deriving DecidableEq

/-- What `wait_for` has in its hands, and how often it has read the clock. -/
structure Waiter (η : Type) where
  host : η
  predicateEngine : PredicateEngine
  streamEngine : StreamEngine
  readings : Nat

section Wait
variable {η : Type} (produceOne : η → Option Observation × η) (clock : Clock)

/-- Every exit cancels the predicate and then reads the clock. -/
def Waiter.leave (w : Waiter η) (handle : PredicateHandle) (start : Nat)
    (outcome : Nat → WaitOutcome) : Outcome PlanStop WaitOutcome × Waiter η :=
  (.ok (outcome (clock.reading w.readings - start)), { w with
    predicateEngine := (w.predicateEngine.cancel handle).2
    readings := w.readings + 1 })

/-- The loop, for as many turns as are given. -/
def waitTurns (handle : PredicateHandle) (start deadline : Nat) :
    Nat → Waiter η → Outcome PlanStop WaitOutcome × Waiter η
  | 0, w => (.err .waiting, w)
  | turns + 1, w =>
    match produceOne w.host with
    | (none, host) => ({ w with host } : Waiter η).leave clock handle start .streamClosed
    | (some obs, host) =>
      let w := { w with host, streamEngine := (w.streamEngine.produce fun _ => obs).2 }
      if reports (w.predicateEngine.onObservation obs) handle then w.leave clock handle start .matched
      else
        let now := clock.reading w.readings
        let w := { w with readings := w.readings + 1 }
        if deadline ≤ now then w.leave clock handle start .timeout
        else waitTurns handle start deadline turns w

def waitFor (turns : Nat) (predicate : Predicate) (timeout : Nat) (w : Waiter η) :
    Outcome PlanStop WaitOutcome × Waiter η :=
  let start := clock.reading w.readings
  let (handle, predicateEngine) := w.predicateEngine.register predicate
  let w := { w with predicateEngine, readings := w.readings + 1 }
  match clock.add start timeout with
  | none => (.panic, w)
  | some deadline => waitTurns produceOne clock handle start deadline turns w

/-- How a plan would call it. A plan does not know timeouts. -/
def WaitOutcome.status : WaitOutcome → Option WaitStatus
  | matched _ => some .matched
  | streamClosed _ => some .closed
  | timeout _ => none

end Wait

section Agreement
variable {η : Type} {host : Host η} {clock : Clock} {e : PredicateEngine} {p : Predicate}
  {start deadline : Nat}

structure Alike (w : Waiter η) (s : PlanRun η) : Prop where
  host : w.host = s.host
  predicateEngine : w.predicateEngine = s.predicateEngine
  streamEngine : w.streamEngine = s.streamEngine

theorem waitTurns_none {w : Waiter η} (turns : Nat)
    (answer : (host.drainObservation w.host).1 = none) :
    waitTurns host.drainObservation clock e.nextHandle start deadline (turns + 1) w =
      ({ w with host := (host.drainObservation w.host).2 } : Waiter η).leave clock e.nextHandle start
        .streamClosed := by
  have pair : host.drainObservation w.host = (none, (host.drainObservation w.host).2) :=
    Prod.ext answer rfl
  rw [waitTurns, pair]

/-- The state of a waiter that goes on with an observation. -/
def Waiter.given (w : Waiter η) (host : η) (o : Observation) : Waiter η :=
  { w with host, streamEngine := (w.streamEngine.produce fun _ => o).2 }

theorem waitTurns_some {w : Waiter η} (turns : Nat) (registered : w.predicateEngine = (e.register p).2)
    {o : Observation} (answer : (host.drainObservation w.host).1 = some o) :
    let w' := w.given (host.drainObservation w.host).2 o
    let w'' := { w' with readings := w.readings + 1 }
    waitTurns host.drainObservation clock e.nextHandle start deadline (turns + 1) w =
      if p.matched o then w'.leave clock e.nextHandle start .matched
      else if deadline ≤ clock.reading w.readings then w''.leave clock e.nextHandle start .timeout
      else waitTurns host.drainObservation clock e.nextHandle start deadline turns w'' := by
  have pair : host.drainObservation w.host = (some o, (host.drainObservation w.host).2) :=
    Prod.ext answer rfl
  have judged : reports (w.predicateEngine.onObservation o) e.nextHandle = p.matched o := by
    rw [registered]
    exact e.reports_register p o
  rw [waitTurns, pair]
  simp only [judged]
  rfl

variable (host start) in
/-- Below the deadline a turn of one loop is a turn of the other. -/
theorem waitTurns_agrees (below : ∀ k, clock.reading k < deadline) (turns : Nat) {w : Waiter η}
    {s : PlanRun η} (alike : Alike w s) (registered : s.predicateEngine = (e.register p).2) :
    let r := waitTurns host.drainObservation clock e.nextHandle start deadline turns w
    let q := (waitLoop host e.nextHandle turns).run s
    r.1.map WaitOutcome.status = q.1.map some ∧ Alike r.2 q.2 := by
  have used : ∀ {engine : PredicateEngine}, engine = (e.register p).2 →
      (engine.cancel e.nextHandle).2 = e.used := by
    rintro _ rfl
    exact e.cancel_register p
  induction turns generalizing w s with
  | zero => exact ⟨rfl, alike⟩
  | succ turns ih =>
    have mine := alike.predicateEngine.trans registered
    cases answer : (host.drainObservation s.host).1 with
    | none =>
      rw [waitTurns_none turns (alike.host ▸ answer), run_waitLoop_none host turns registered answer]
      refine ⟨rfl, ?_, used mine, ?_⟩
      · exact congrArg (fun h => (host.drainObservation h).2) alike.host
      · exact alike.streamEngine
    | some o =>
      rw [waitTurns_some turns mine (alike.host ▸ answer), run_waitLoop_some host turns registered answer]
      have drained : (host.drainObservation w.host).2 = (host.drainObservation s.host).2 :=
        congrArg (fun h => (host.drainObservation h).2) alike.host
      have shown : (w.streamEngine.produce fun _ => o).2 = (s.streamEngine.produce fun _ => o).2 := by
        rw [alike.streamEngine]
      cases met : p.matched o with
      | true => exact ⟨rfl, drained, used mine, shown⟩
      | false =>
        simp only [Bool.false_eq_true, if_false, Nat.not_le_of_lt (below _)]
        exact ih ⟨drained, alike.predicateEngine, shown⟩ registered

/-- Whatever the clock says, a deadline is looked at only after an observation that did not match. -/
theorem waitTurns_timeout {turns elapsed : Nat} {w w' : Waiter η}
    (registered : w.predicateEngine = (e.register p).2)
    (late : waitTurns host.drainObservation clock e.nextHandle start deadline turns w =
      (.ok (.timeout elapsed), w')) :
    ∃ os, Drains host w.host os w'.host ∧ ∀ o ∈ os, p.matched o = false := by
  induction turns generalizing w with
  | zero => cases congrArg Prod.fst late
  | succ turns ih =>
    cases answer : (host.drainObservation w.host).1 with
    | none =>
      rw [waitTurns_none turns answer] at late
      cases congrArg Prod.fst late
    | some o =>
      rw [waitTurns_some turns registered answer] at late
      cases met : p.matched o with
      | true =>
        rw [met] at late
        cases congrArg Prod.fst late
      | false =>
        simp only [met, Bool.false_eq_true, if_false] at late
        split at late
        · obtain ⟨-, rfl⟩ := Prod.mk.inj late
          exact ⟨[o], .cons answer (.nil _), by simpa using met⟩
        · obtain ⟨os, drains, unmatched⟩ := ih (w := { (w.given _ o) with
            readings := w.readings + 1 }) registered late
          exact ⟨o :: os, .cons answer drains, List.forall_mem_cons.mpr ⟨met, unmatched⟩⟩

theorem Drains.length_le {h h' h'' : η} {os os' : List Observation} (drains : Drains host h os h')
    (eof : (host.drainObservation h').1 = none) (others : Drains host h os' h'') :
    os'.length ≤ os.length := by
  induction drains generalizing os' with
  | nil h =>
    cases others with
    | nil => exact Nat.le_refl 0
    | cons answer rest =>
      rw [eof] at answer
      cases answer
  | cons answer rest ih =>
    cases others with
    | nil => exact Nat.zero_le _
    | cons answer' rest' => exact Nat.succ_le_succ (ih eof rest')

theorem PredicateEngine.predicates_used_iff (e : PredicateEngine) :
    e.used.predicates = e.predicates ↔ e.nextHandle ∉ e.predicates := by
  constructor
  · intro same member
    rw [← same] at member
    exact (AList.mem_erase.mp member).1 rfl
  · exact PredicateEngine.predicates_used

/-- There is a deadline, and no reading comes up to it. -/
def Clock.StaysBelow (clock : Clock) (start timeout : Nat) : Prop :=
  ∃ deadline, clock.add start timeout = some deadline ∧ ∀ k, clock.reading k < deadline

structure Agree (e : PredicateEngine) (r : Outcome PlanStop WaitOutcome × Waiter η)
    (q : Outcome PlanStop WaitStatus × PlanRun η) : Prop where
  matched : (∃ elapsed, r.1 = .ok (.matched elapsed)) ↔ q.1 = .ok .matched
  closed : (∃ elapsed, r.1 = .ok (.streamClosed elapsed)) ↔ q.1 = .ok .closed
  returned : q.1 = .ok .matched ∨ q.1 = .ok .closed
  alike : Alike r.2 q.2
  restored : r.2.predicateEngine.predicates = e.predicates ↔ e.nextHandle ∉ e.predicates

theorem waitForPredicate_returns {turns : Nat} {s : PlanRun η} {os : List Observation} {h : η}
    (drains : Drains host s.host os h) (eof : (host.drainObservation h).1 = none)
    (long : os.length < turns) :
    ∃ status, ((waitForPredicate host turns p).run s).1 = .ok status ∧
      ((waitForPredicate host turns p).run s).2.predicateEngine = s.predicateEngine.used := by
  have registered : (register p).run s = (.ok s.predicateEngine.nextHandle,
      { s with predicateEngine := (s.predicateEngine.register p).2 }) := rfl
  unfold waitForPredicate
  rw [Method.run_bind_ok registered]
  obtain ⟨os', h', drains', -, ends⟩ := run_waitLoop host turns
    ({ s with predicateEngine := (s.predicateEngine.register p).2 } : PlanRun η) rfl
  rcases ends with ⟨full, -⟩ | ⟨-, loop⟩ | ⟨o, -, -, loop⟩
  · have := drains.length_le eof drains'
    omega
  · rw [loop]
    exact ⟨.closed, rfl, rfl⟩
  · rw [loop]
    exact ⟨.matched, rfl, rfl⟩

theorem ends_ok {r : Outcome PlanStop WaitOutcome} {status : WaitStatus}
    (ends : r.map WaitOutcome.status = (Outcome.ok status).map some) :
    ∃ outcome, r = .ok outcome ∧ outcome.status = some status := by
  cases r with
  | ok outcome => exact ⟨outcome, rfl, Outcome.ok.inj ends⟩
  | err stop => cases ends
  | panic => cases ends

/-- While the clock stays below the deadline the two waits are the same but for the time that one of them
measures, and a timeout says that nothing has matched. -/
theorem waits_agree {η : Type} (host : Host η) (p : Predicate) :
    (∀ (clock : Clock) (timeout turns readings : Nat) (s : PlanRun η) (os : List Observation) (h : η),
      Drains host s.host os h → (host.drainObservation h).1 = none → os.length < turns →
      clock.StaysBelow (clock.reading readings) timeout →
      Agree s.predicateEngine
        (waitFor host.drainObservation clock turns p timeout
          ⟨s.host, s.predicateEngine, s.streamEngine, readings⟩)
        ((waitForPredicate host turns p).run s)) ∧
    ∀ (clock : Clock) (timeout turns elapsed : Nat) (w w' : Waiter η),
      waitFor host.drainObservation clock turns p timeout w = (.ok (.timeout elapsed), w') →
      ∃ os, Drains host w.host os w'.host ∧ ∀ o ∈ os, p.matched o = false := by
  constructor
  · intro clock timeout turns readings s os h drains eof long below
    obtain ⟨deadline, reached, below⟩ := below
    obtain ⟨status, returned, used⟩ := waitForPredicate_returns (p := p) drains eof long
    have mine : waitFor host.drainObservation clock turns p timeout
        ⟨s.host, s.predicateEngine, s.streamEngine, readings⟩ = waitTurns host.drainObservation clock
          s.predicateEngine.nextHandle (clock.reading readings) deadline turns
          ⟨s.host, (s.predicateEngine.register p).2, s.streamEngine, readings + 1⟩ := by
      unfold waitFor
      simp only [reached]
      rfl
    have theirs : (waitForPredicate host turns p).run s =
        (waitLoop host s.predicateEngine.nextHandle turns).run
          { s with predicateEngine := (s.predicateEngine.register p).2 } :=
      Method.run_bind_ok rfl
    obtain ⟨ends, alike⟩ := waitTurns_agrees host (clock.reading readings) below turns
      (w := ⟨s.host, (s.predicateEngine.register p).2, s.streamEngine, readings + 1⟩)
      (s := { s with predicateEngine := (s.predicateEngine.register p).2 }) ⟨rfl, rfl, rfl⟩ rfl
    rw [← mine, ← theirs] at ends alike
    have restored : _ ↔ _ := s.predicateEngine.predicates_used_iff
    rw [← used, ← alike.predicateEngine] at restored
    rw [returned] at ends
    generalize (waitForPredicate host turns p).run s = q at *
    generalize waitFor host.drainObservation clock turns p timeout _ = r at *
    obtain ⟨outcome, same, kind⟩ := ends_ok ends
    cases status <;> cases outcome <;> cases kind
    · exact ⟨by simp [same, returned], by simp [same, returned], .inl returned, alike, restored⟩
    · exact ⟨by simp [same, returned], by simp [same, returned], .inr returned, alike, restored⟩
  · intro clock timeout turns elapsed w w' late
    unfold waitFor at late
    dsimp only at late
    split at late
    · cases congrArg Prod.fst late
    · exact waitTurns_timeout (w := { w with
        predicateEngine := (w.predicateEngine.register p).2, readings := w.readings + 1 }) rfl late

end Agreement

def sourceOf : Host (List Observation) where
  executeStep _ os := (.error "refused", os)
  drainObservation os := (os.head?, os.tail)

def stopped : Clock where
  reading _ := 0
  last := 10

theorem home_is_awaited_twice :
    Agree .new
      (waitFor sourceOf.drainObservation stopped 2 homeOnTop 5 ⟨[.initial], .new, .new, 0⟩)
      ((waitForPredicate sourceOf 2 homeOnTop).run (.start .new .new [.initial])) :=
  (waits_agree sourceOf homeOnTop).1 stopped 5 2 0 (.start .new .new [.initial]) [.initial] []
    (.cons rfl (.nil _)) rfl (by decide) ⟨5, rfl, fun _ => Nat.zero_lt_succ 4⟩

/-- When the handles start again from the first one, the wait cancels the predicate that holds it. -/
theorem wait_cancels_wrapped :
    let e := Run.after PredicateEngine.step .new (passing (2 ^ 64 - 1))
    let r := waitFor sourceOf.drainObservation stopped 1 homeOnTop 5 ⟨[], e, .new, 0⟩
    r.1 = .ok (.streamClosed 0) ∧ r.2.predicateEngine.predicates ≠ e.predicates := by
  intro e r
  have wrapped : e = holding 0 := after_passing (by decide)
  have lost : (waitFor sourceOf.drainObservation stopped 1 homeOnTop 5
      ⟨[], holding 0, .new, 0⟩).2.predicateEngine.predicates = ∅ := rfl
  constructor
  · unfold r
    rw [wrapped]
    rfl
  · unfold r
    rw [wrapped, lost]
    intro same
    have member : (0 : PredicateHandle) ∈ (holding 0).predicates := (AList.mem_insert _).mpr (.inl rfl)
    rw [← same] at member
    exact AList.notMem_empty _ member

end HidConnect.Kernel

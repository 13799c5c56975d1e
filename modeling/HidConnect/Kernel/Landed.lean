import HidConnect.Kernel.Injector
import HidConnect.Session.Panics
import HidConnect.Session.Staged

/-! Whether an outcome that says `landed` stands for bytes that have been flushed. -/
namespace HidConnect
open Fallible
open Kernel (Action)

namespace ActionInjector
variable (showChar : Char → String)

/- Every call of the bridge is a call of the queue. -/

def Drains (i i' : ActionInjector) : Prop := HidSession.Drains i.session i'.session

instance : IsPreorder ActionInjector Drains where
  refl i := refl_of HidSession.Drains i.session
  trans _ _ _ first second := trans_of HidSession.Drains first second

theorem drains_rejecting {α : Type} (id : ActionId) {m : Session α}
    (h : Method.Keeps HidSession.Drains m) : Method.Keeps HidSession.Drains (rejecting id m) := by
  intro s
  have kept := h s
  unfold rejecting
  rcases hr : m.run s with ⟨r, t⟩
  rw [hr] at kept
  cases r with
  | ok a => simpa [hr] using kept
  | err e => simpa [hr] using kept
  | panic => simpa [hr] using kept

theorem drains_maybeFlush (batchDepth : UInt32) :
    Method.Keeps HidSession.Drains (maybeFlush batchDepth) := by
  unfold maybeFlush
  split
  · exact Method.keeps_discard HidSession.drains_flushNow
  · exact Method.keeps_pure _

theorem drains_typeChar (id : ActionId) (ch : Char) :
    Method.Keeps HidSession.Drains (typeChar showChar id ch) := by
  unfold typeChar
  split
  · exact Method.keeps_fail _
  · exact (drains_rejecting id (HidSession.drains_key _ _ _)).bind fun _ =>
      drains_rejecting id (HidSession.drains_key _ _ _)

theorem drains_mapped (id : ActionId) (batchDepth : UInt32) (action : Action) :
    Method.Keeps HidSession.Drains (mapped showChar id batchDepth action) := by
  have flush := drains_maybeFlush batchDepth
  have reports : ∀ bytes, Method.Keeps HidSession.Drains (injectRaw id batchDepth bytes) := fun _ =>
    drains_rejecting id ((HidSession.drains_injectRawGamepadReport _).bind fun _ => flush)
  cases action with
  | tap x y deadlineMs =>
    exact drains_rejecting id ((HidSession.drains_injectTouch _ _ _ _ _).bind fun _ =>
      (HidSession.drains_injectTouch _ _ _ _ _).bind fun _ => flush)
  | swipe x1 y1 x2 y2 durMs deadlineMs =>
    exact drains_rejecting id ((HidSession.drains_swipe _ _ _).bind fun _ => flush)
  | typeText text deadlineMs =>
    exact (Method.keeps_forEach _ fun ch _ => drains_typeChar showChar id ch).bind fun _ =>
      drains_rejecting id flush
  | key code deadlineMs =>
    exact drains_rejecting id ((HidSession.drains_send _).bind fun _ =>
      (HidSession.drains_send _).bind fun _ => flush)
  | gamepadFrame report deadlineMs => exact reports _
  | launch target launchBy deadlineMs =>
    exact drains_rejecting id ((HidSession.drains_send _).bind fun _ => flush)
  | setClipboard text paste deadlineMs =>
    exact drains_rejecting id ((HidSession.drains_send _).bind fun _ => flush)
  | injectRaw bytes deadlineMs => exact reports _
  | _ => exact Method.keeps_fail _

theorem drains_apply (action : Action) : Method.Keeps Drains (apply showChar action) :=
  fun i => drains_mapped showChar i.nextId i.batchDepth action i.session

theorem drains_applyEach (actions : List Action) (outcomes : List BridgeOutcome) :
    Method.Keeps Drains (applyEach showChar actions outcomes) := by
  induction actions generalizing outcomes with
  | nil => exact Method.keeps_pure _
  | cons action rest ih =>
    refine (drains_apply showChar action).bind fun outcome => ?_
    split
    · exact ih _
    · exact Method.keeps_pure _

/- What an outcome says. -/

def Rejects {α : Type} (m : Bridging α) : Prop :=
  ∀ s rejection t, m.run s = (.err rejection, t) → rejection.landed = false

theorem Rejects.bind {α β : Type} {m : Bridging α} {f : α → Bridging β} (first : Rejects m)
    (rest : ∀ a, Rejects (f a)) : Rejects (m >>= f) := by
  intro s rejection t run
  rcases hr : m.run s with ⟨r, u⟩
  rw [Method.run_bind, hr] at run
  cases r with
  | ok a => exact rest a u rejection t run
  | err e =>
    cases run
    exact first s _ _ hr
  | panic => cases run

theorem rejects_rejecting {α : Type} (id : ActionId) (m : Session α) : Rejects (rejecting id m) := by
  intro s rejection t run
  unfold rejecting at run
  dsimp only at run
  split at run
  case h_1 => cases run
  case h_2 =>
    cases run
    rfl
  case h_3 => cases run

theorem rejects_typeText (id : ActionId) (batchDepth : UInt32) (text : String) :
    Rejects (typeText showChar id batchDepth text) := by
  have chars : ∀ typed : List Char, Rejects (Method.forEach typed (typeChar showChar id)) := by
    intro typed
    induction typed with
    | nil =>
      intro s rejection t run
      cases run
    | cons ch rest ih =>
      refine Rejects.bind ?_ fun _ => ih
      unfold typeChar
      split
      · intro s rejection t run
        cases run
        rfl
      · exact (rejects_rejecting id _).bind fun _ => rejects_rejecting id _
  exact (chars _).bind fun _ => rejects_rejecting id _

theorem rejects_mapped (id : ActionId) (batchDepth : UInt32) (action : Action) :
    Rejects (mapped showChar id batchDepth action) := by
  cases action with
  | typeText text => exact rejects_typeText showChar id batchDepth text
  | tap | swipe | key | gamepadFrame | launch | setClipboard | injectRaw => exact rejects_rejecting id _
  | _ =>
    intro s rejection t run
    cases run
    rfl

def Empties {ε : Type} (m : Method ε HidSession Unit) : Prop :=
  ∀ s t, m.run s = (.ok (), t) → t.transport.pending = []

theorem Empties.behind {ε α : Type} {f : α → Method ε HidSession Unit} (last : ∀ a, Empties (f a))
    (m : Method ε HidSession α) : Empties (m >>= f) := by
  intro s t run
  obtain ⟨a, u, -, rest⟩ := Method.of_run_bind_ok run
  exact last a u t rest

theorem Empties.rejecting {m : Session Unit} (h : Empties m) (id : ActionId) :
    Empties (HidConnect.rejecting id m) := by
  intro s t run
  unfold HidConnect.rejecting at run
  dsimp only at run
  split at run
  case h_1 u same =>
    cases run
    exact h s _ same
  case h_2 => cases run
  case h_3 => cases run

theorem empties_maybeFlush : Empties (maybeFlush 0) := by
  intro s t run
  have flushed : (CoalescingWriter.flushNow.run s.transport).1.isOk = true ∧
      t.transport = (CoalescingWriter.flushNow.run s.transport).2 := by
    rw [maybeFlush, if_pos rfl, Method.run_discard, HidSession.flushNow, HidSession.onWriter,
      Method.run_zoom] at run
    obtain ⟨ok, rfl⟩ := Prod.mk.inj run
    rw [← Outcome.isOk_map, ok]
    exact ⟨rfl, rfl⟩
  rcases s.transport.flushNow_cases with ⟨-, empty, -⟩ | ⟨fails, -⟩
  · rw [flushed.2, empty]
  · rw [fails] at flushed
    cases flushed.1

theorem empties_mapped (id : ActionId) (action : Action) : Empties (mapped showChar id 0 action) := by
  have flush := empties_maybeFlush
  cases action with
  | tap => exact ((Empties.behind fun _ => .behind (fun _ => flush) _) _).rejecting id
  | key => exact ((Empties.behind fun _ => .behind (fun _ => flush) _) _).rejecting id
  | typeText => exact .behind (fun _ => flush.rejecting id) _
  | swipe | gamepadFrame | launch | setClipboard | injectRaw =>
    exact ((Empties.behind fun _ => flush) _).rejecting id
  | _ =>
    intro s t run
    cases run

/- What the claims of a call are about. -/

def writer (i : ActionInjector) : CoalescingWriter := i.session.transport

def applied (i : ActionInjector) (action : Action) : ActionInjector := ((apply showChar action).run i).2

/-- The injector of a batch before its action `k`, those in front having landed. -/
def midBatch (i : ActionInjector) (actions : List Action) (k : Nat) : ActionInjector :=
  Run.after (applied showChar) { i with batchDepth := deeper i.batchDepth } (actions.take k)

/-- What the actions staged that are said to have landed has been flushed. -/
def LandedIn (i : ActionInjector) (actions : List Action) (outcomes : List BridgeOutcome)
    (w : CoalescingWriter) : Prop :=
  ∀ k outcome, outcomes[k]? = some outcome → outcome.landed = true →
    w.Flushed (midBatch showChar i actions k).writer.staged
      (midBatch showChar i actions (k + 1)).writer.staged

end ActionInjector

inductive BridgeCall where
  | apply (action : Action)
  | applyMany (actions : List Action)

namespace BridgeCall
open ActionInjector
variable (showChar : Char → String)

/-- `landed` means flushed, for every outcome that the call returns, and a batch without a failure has
flushed everything. -/
def LandedMeansFlushed (i : ActionInjector) : BridgeCall → Prop
  | .apply action => ∀ outcome i', (ActionInjector.apply showChar action).run i = (.ok outcome, i') →
      outcome.landed = true → i'.writer.Flushed i.writer.staged i'.writer.staged
  | .applyMany actions => ∀ outcomes firstFailure i',
      (ActionInjector.applyMany showChar actions).run i = (.ok (outcomes, firstFailure), i') →
        LandedIn showChar i actions outcomes i'.writer ∧
        (firstFailure = none → i'.writer.Flushed 0 i'.writer.staged)

def NoneMeansFlushed (i : ActionInjector) : BridgeCall → Prop
  | .apply _ => True
  | .applyMany actions => ∀ outcomes i',
      (ActionInjector.applyMany showChar actions).run i = (.ok (outcomes, none), i') →
        i'.writer.Flushed 0 i'.writer.staged

/-- The transport takes the flush at the end of the batch. -/
def FlushTaken (i : ActionInjector) : BridgeCall → Prop
  | .apply _ => True
  | .applyMany actions => ∀ answer i', (stageMany showChar actions).run i = (.ok answer, i') →
      i'.writer.transport.Accepts i'.writer.due

/-- A call that panics is the last one. -/
def step (injector : Option ActionInjector) (call : BridgeCall) : Option ActionInjector := do
  let i ← injector
  match call with
  | .apply action =>
    match (ActionInjector.apply showChar action).run i with
    | (.ok _, i') => some i'
    | _ => none
  | .applyMany actions =>
    match (ActionInjector.applyMany showChar actions).run i with
    | (.ok _, i') => some i'
    | _ => none

end BridgeCall

namespace ActionInjector
variable (showChar : Char → String)

theorem drains_after (i : ActionInjector) (actions : List Action) :
    Drains i (Run.after (applied showChar) i actions) :=
  Run.preserved (Drains i) (fun _ action h => trans_of Drains h (drains_apply showChar action _))
    (refl_of Drains i) actions

theorem applyEach_mid {actions : List Action} {outcomes outcomes' : List BridgeOutcome}
    {firstFailure : Option Nat} {i i' : ActionInjector}
    (run : (applyEach showChar actions outcomes).run i = (.ok (outcomes', firstFailure), i')) :
    ∃ own, outcomes' = outcomes ++ own ∧ i'.batchDepth = i.batchDepth ∧
      ∀ k, k < own.length → Drains (Run.after (applied showChar) i (actions.take (k + 1))) i' := by
  induction actions generalizing outcomes i with
  | nil =>
    cases run
    exact ⟨[], (List.append_nil _).symm, rfl, fun k less => absurd less (Nat.not_lt_zero k)⟩
  | cons action rest ih =>
    obtain ⟨outcome, i₁, one, more⟩ := Method.of_run_bind_ok run
    have next : applied showChar i action = i₁ := congrArg Prod.snd one
    have depth : i₁.batchDepth = i.batchDepth := by
      rw [← next]
      rfl
    split at more
    · obtain ⟨own, joined, same, mid⟩ := ih more
      have whole := drains_applyEach showChar rest (outcomes ++ [outcome]) i₁
      rw [more] at whole
      refine ⟨outcome :: own, ?_, same.trans depth, fun k less => ?_⟩
      · rw [joined, List.append_assoc, List.singleton_append]
      · rw [List.take_succ_cons, Run.after, next]
        cases k with
        | zero => exact whole
        | succ k => exact mid k (Nat.lt_of_succ_lt_succ less)
    · cases more
      refine ⟨[outcome], rfl, depth, fun k less => ?_⟩
      obtain rfl : k = 0 := Nat.lt_one_iff.mp less
      rw [List.take_succ_cons, List.take_zero, Run.after, next]
      exact refl_of Drains i'

/-- Before its flush a batch holds all that its outcomes are about. -/
theorem stageMany_mid {actions : List Action} {outcomes : List BridgeOutcome} {firstFailure : Option Nat}
    {i i' : ActionInjector} (single : i.batchDepth = 0) (tidy : i.writer.Tidy)
    (run : (stageMany showChar actions).run i = (.ok (outcomes, firstFailure), i')) :
    i'.batchDepth = 0 ∧ i'.writer.Tidy ∧ ∀ k, k < outcomes.length →
      (midBatch showChar i actions (k + 1)).writer.staged ≤ i'.writer.staged := by
  rw [stageMany, Method.run_update_bind] at run
  obtain ⟨staged, i₁, each, rest⟩ := Method.of_run_bind_ok run
  cases rest
  obtain ⟨own, joined, depth, mid⟩ := applyEach_mid showChar each
  have whole := drains_applyEach showChar actions [] { i with batchDepth := deeper i.batchDepth }
  rw [each] at whole
  refine ⟨?_, CoalescingWriter.Drains.tidy whole tidy, fun k less => ?_⟩
  · change shallower i₁.batchDepth = 0
    rw [depth]
    change shallower (deeper i.batchDepth) = 0
    rw [single]
    decide
  · rw [joined, List.nil_append] at less
    exact CoalescingWriter.Drains.staged_le (mid k less)
      (CoalescingWriter.Drains.tidy (drains_after showChar _ _) tidy)

theorem terminalFlush_cases (i : ActionInjector) :
    ∃ i', i'.batchDepth = i.batchDepth ∧ (i.writer.transport.Accepts i.writer.due ∧
        terminalFlush.run i = (.ok none, i') ∧
        i'.writer.pending = [] ∧ i'.writer.written = i.writer.staged ∨
      ¬i.writer.transport.Accepts i.writer.due ∧ i'.writer.written = i.writer.written ∧
        ∃ e, terminalFlush.run i = (.ok (some e), i')) := by
  have isOk := CoalescingWriter.flushNow_isOk (w := i.writer)
  have calm := CoalescingWriter.neverPanics_flushNow i.writer
  have fate := i.writer.flushNow_cases
  rcases hr : CoalescingWriter.flushNow.run i.writer with ⟨r, w⟩
  rw [hr] at isOk calm fate
  refine ⟨{ i with session := { i.session with transport := w } }, rfl, ?_⟩
  have flushed : HidSession.flushNow.run i.session = (r, { i.session with transport := w }) := by
    rw [HidSession.flushNow, HidSession.onWriter, Method.run_zoom]
    exact congrArg (fun ran => (ran.1, { i.session with transport := ran.2 })) hr
  cases r with
  | ok n =>
    rcases fate with ⟨-, empty, written⟩ | ⟨fails, -⟩
    · exact .inl ⟨isOk.mp rfl, by simp [terminalFlush, flushed], empty, written⟩
    · cases fails
  | err e =>
    rcases fate with ⟨ok, -⟩ | ⟨-, -, written⟩
    · cases ok
    · refine .inr ⟨fun accepts => Bool.false_ne_true (isOk.mpr accepts), written, e, ?_⟩
      simp [terminalFlush, flushed]
  | panic => cases calm

/-- The end of a batch: a flush that is refused is one more outcome, or none. -/
theorem applyMany_ends {actions : List Action} {outcomes : List BridgeOutcome}
    {firstFailure : Option Nat} {i i₁ : ActionInjector}
    (staged : (stageMany showChar actions).run i = (.ok (outcomes, firstFailure), i₁))
    (single : i₁.batchDepth = 0) :
    ∃ i', i'.batchDepth = 0 ∧ (i₁.writer.transport.Accepts i₁.writer.due ∧
        (applyMany showChar actions).run i = (.ok (outcomes, firstFailure), i') ∧
        i'.writer.pending = [] ∧ i'.writer.written = i₁.writer.staged ∨
      ¬i₁.writer.transport.Accepts i₁.writer.due ∧ i'.writer.written = i₁.writer.written ∧
        ∃ rejected index, (∀ rejection ∈ rejected, rejection.landed = false) ∧
          (applyMany showChar actions).run i = (.ok (outcomes ++ rejected, some index), i')) := by
  obtain ⟨i', depth, flush⟩ := i₁.terminalFlush_cases
  refine ⟨i', depth.trans single, ?_⟩
  rw [applyMany, Method.run_bind_ok staged]
  dsimp only
  rw [Method.run_read_bind, if_pos single]
  rcases flush with ⟨accepts, ended, empty, written⟩ | ⟨refused, written, e, ended⟩
  · refine .inl ⟨accepts, ?_, empty, written⟩
    rw [Method.run_bind_ok ended]
    rfl
  · refine .inr ⟨refused, written, ?_⟩
    rw [Method.run_bind_ok ended]
    cases firstFailure with
    | none =>
      refine ⟨[rejectSession (UInt64.ofNat (2 ^ 64 - 1)) e], outcomes.length, ?_, rfl⟩
      simp [rejectSession, BridgeOutcome.rejected]
    | some index => exact ⟨[], index, List.forall_mem_nil _, by rw [List.append_nil]; rfl⟩

theorem drains_applyMany (actions : List Action) : Method.Keeps Drains (applyMany showChar actions) := by
  have staged : Method.Keeps Drains (stageMany showChar actions) :=
    Method.Keeps.bind (fun i => HidSession.drains_same rfl) fun _ =>
      (drains_applyEach showChar actions []).bind fun _ =>
        Method.Keeps.bind (fun i => HidSession.drains_same rfl) fun _ => Method.keeps_pure _
  have flush : Method.Keeps Drains terminalFlush := by
    intro i
    have kept := HidSession.drains_flushNow i.session
    unfold terminalFlush
    dsimp only
    split <;> rename_i run <;> rwa [run] at kept
  refine staged.bind fun ended => Method.keeps_read.bind fun i => ?_
  split
  · refine flush.bind fun error => ?_
    split <;> exact Method.keeps_pure _
  · exact Method.keeps_pure _

theorem apply_lands {action : Action} {i i' : ActionInjector} {outcome : BridgeOutcome}
    (single : i.batchDepth = 0) (run : (apply showChar action).run i = (.ok outcome, i'))
    (landed : outcome.landed = true) : i'.writer.pending = [] := by
  rcases hr : (mapped showChar i.nextId 0 action).run i.session with ⟨r, t⟩
  simp only [apply, single, hr] at run
  cases r with
  | ok u =>
    cases run
    exact empties_mapped showChar i.nextId action i.session t hr
  | err rejection =>
    cases run
    have refused := rejects_mapped showChar i.nextId 0 action i.session _ t hr
    exact absurd landed (Bool.eq_false_iff.mp refused)
  | panic => cases run

end ActionInjector

namespace BridgeCall
open ActionInjector
variable (showChar : Char → String)

def Ready (injector : Option ActionInjector) : Prop :=
  ∀ i, injector = some i → i.batchDepth = 0 ∧ i.writer.Tidy

theorem step_cases {injector : Option ActionInjector} {call : BridgeCall} {i' : ActionInjector}
    (next : step showChar injector call = some i') :
    ∃ i, injector = some i ∧
      ((∃ action outcome, call = .apply action ∧
          (ActionInjector.apply showChar action).run i = (.ok outcome, i')) ∨
        ∃ actions answer, call = .applyMany actions ∧
          (ActionInjector.applyMany showChar actions).run i = (.ok answer, i')) := by
  cases injector with
  | none => cases next
  | some i =>
    refine ⟨i, rfl, ?_⟩
    cases call with
    | apply action =>
      simp only [step, Option.bind_eq_bind, Option.bind_some] at next
      split at next
      case h_1 outcome i₁ run =>
        cases next
        exact .inl ⟨action, outcome, rfl, run⟩
      case h_2 => cases next
    | applyMany actions =>
      simp only [step, Option.bind_eq_bind, Option.bind_some] at next
      split at next
      case h_1 answer i₁ run =>
        cases next
        exact .inr ⟨actions, answer, rfl, run⟩
      case h_2 => cases next

theorem drains_step {injector : Option ActionInjector} {call : BridgeCall} {i' : ActionInjector}
    (next : step showChar injector call = some i') : ∃ i, injector = some i ∧ Drains i i' := by
  obtain ⟨i, same, ⟨action, outcome, -, run⟩ | ⟨actions, answer, -, run⟩⟩ := step_cases showChar next
  · have kept := drains_apply showChar action i
    rw [run] at kept
    exact ⟨i, same, kept⟩
  · have kept := drains_applyMany showChar actions i
    rw [run] at kept
    exact ⟨i, same, kept⟩

theorem ready_step (injector : Option ActionInjector) (call : BridgeCall) (ready : Ready injector) :
    Ready (step showChar injector call) := by
  intro i' next
  obtain ⟨i, same, kept⟩ := drains_step showChar next
  obtain ⟨single, tidy⟩ := ready i same
  refine ⟨?_, CoalescingWriter.Drains.tidy kept tidy⟩
  obtain ⟨i₀, same', ⟨action, outcome, -, run⟩ | ⟨actions, answer, -, run⟩⟩ := step_cases showChar next
  · cases same.symm.trans same'
    have depth : ((ActionInjector.apply showChar action).run i).2.batchDepth = i.batchDepth := rfl
    rw [run] at depth
    exact depth.trans single
  · cases same.symm.trans same'
    obtain ⟨staged, i₁, first, -⟩ := Method.of_run_bind_ok run
    obtain ⟨single', -, -⟩ := stageMany_mid showChar single tidy first
    obtain ⟨i₂, depth, ⟨-, run', -⟩ | ⟨-, -, _, _, -, run'⟩⟩ := applyMany_ends showChar first single'
    · cases run.symm.trans run'
      exact depth
    · cases run.symm.trans run'
      exact depth

theorem flushed_of_empty {w : CoalescingWriter} (empty : w.pending = []) (start : Nat) :
    w.Flushed start w.staged := by
  apply CoalescingWriter.flushed_of_le
  rw [CoalescingWriter.staged, empty]
  exact Nat.le_refl _

section Ready
variable {i : ActionInjector} (single : i.batchDepth = 0) (tidy : i.writer.Tidy)

include single tidy in
theorem noneMeansFlushed (call : BridgeCall) : call.NoneMeansFlushed showChar i := by
  cases call with
  | apply action => trivial
  | applyMany actions =>
    intro outcomes i' run
    obtain ⟨⟨staged, failure⟩, i₁, first, -⟩ := Method.of_run_bind_ok run
    obtain ⟨single', -, -⟩ := stageMany_mid showChar single tidy first
    obtain ⟨i₂, -, ⟨-, run', empty, -⟩ | ⟨-, -, _, _, -, run'⟩⟩ :=
      applyMany_ends showChar first single'
    · cases run.symm.trans run'
      exact flushed_of_empty empty 0
    · cases run.symm.trans run'

include single tidy in
theorem landedMeansFlushed (call : BridgeCall) (taken : call.FlushTaken showChar i) :
    call.LandedMeansFlushed showChar i := by
  cases call with
  | apply action =>
    intro outcome i' run landed
    exact flushed_of_empty (apply_lands showChar single run landed) _
  | applyMany actions =>
    intro outcomes firstFailure i' run
    obtain ⟨staged, i₁, first, -⟩ := Method.of_run_bind_ok run
    obtain ⟨single', -, mid⟩ := stageMany_mid showChar single tidy first
    obtain ⟨i₂, -, ⟨-, run', empty, written⟩ | ⟨refused, -⟩⟩ := applyMany_ends showChar first single'
    · cases run.symm.trans run'
      refine ⟨fun k outcome known _ => ?_, fun _ => flushed_of_empty empty 0⟩
      apply CoalescingWriter.flushed_of_le
      rw [written]
      exact mid k (List.getElem?_eq_some_iff.mp known).1
    · exact absurd (taken _ _ first) refused

end Ready

end BridgeCall

/-- Whatever is called, the writer stays a queue: what has been flushed are the bytes staged first, and
they are on the wire in that order. -/
theorem calls_queue (showChar : Char → String) (t : Transport) (clock : Nat → Nat) (req : OpenRequest)
    (calls : List BridgeCall) {i : ActionInjector}
    (ends : Run.after (BridgeCall.step showChar)
      (some (ActionInjector.new (HidSession.afterOpen t clock req))) calls = some i) :
    ∃ came gone,
      CoalescingWriter.Queued (HidSession.afterOpen t clock req).transport i.writer came gone := by
  let start := ActionInjector.new (HidSession.afterOpen t clock req)
  have drains : ∀ i', Run.after (BridgeCall.step showChar) (some start) calls = some i' →
      ActionInjector.Drains start i' := by
    refine Run.preserved (fun s => ∀ i', s = some i' → ActionInjector.Drains start i') ?_ ?_ calls
    · intro s call before i' next
      obtain ⟨i₁, same, kept⟩ := BridgeCall.drains_step showChar next
      exact trans_of ActionInjector.Drains (before i₁ same) kept
    · intro i' same
      cases Option.some.inj same
      exact refl_of ActionInjector.Drains start
  exact drains i ends (HidSession.tidy_afterOpen t clock req)

/-- The batch says that its key has landed, and the flush behind it is refused. -/
theorem landed_batch_is_not_flushed :
    let i := ActionInjector.new (HidSession.afterOpen (.refuses 0) id .none)
    let ends := (ActionInjector.applyMany (fun _ => "") [.key 3 0]).run i
    ends.1 = .ok ([.ok 0, rejectSession (UInt64.ofNat (2 ^ 64 - 1)) (.transport "gone")], some 1) ∧
      ends.2.writer.transport.wire = [] ∧
      ¬Run.Along (BridgeCall.step fun _ => "")
        (fun s call => ∀ i, s = some i → call.LandedMeansFlushed (fun _ => "") i) (some i)
        [.applyMany [.key 3 0]] := by
  intro i ends
  have answer : ends.1 =
      .ok ([.ok 0, rejectSession (UInt64.ofNat (2 ^ 64 - 1)) (.transport "gone")], some 1) := by
    decide +kernel
  refine ⟨answer, by decide +kernel, fun along => ?_⟩
  have truth := (along.1 i rfl _ _ ends.2 (Prod.ext answer rfl)).1 0 (.ok 0) rfl rfl
  have flushed := truth 0 (by decide +kernel) (by decide +kernel)
  have none : ends.2.writer.written = 0 := by decide +kernel
  rw [none] at flushed
  exact Nat.lt_irrefl 0 flushed

/-- In every run of calls, whatever the calls before it met with, a batch without a failure has flushed
everything, and the outcomes of a call that say `landed` stand for bytes that have been flushed if the
transport takes the flush at the end of the batch. -/
theorem landed_means_flushed (showChar : Char → String) (t : Transport) (clock : Nat → Nat)
    (req : OpenRequest) (calls : List BridgeCall) :
    Run.Along (BridgeCall.step showChar)
      (fun s call => ∀ i, s = some i → call.NoneMeansFlushed showChar i ∧
        (call.FlushTaken showChar i → call.LandedMeansFlushed showChar i))
      (some (ActionInjector.new (HidSession.afterOpen t clock req))) calls := by
  refine Run.along_of_inv BridgeCall.Ready (BridgeCall.ready_step showChar) ?_ ?_ calls
  · intro s call ready i same
    obtain ⟨single, tidy⟩ := ready i same
    exact ⟨BridgeCall.noneMeansFlushed showChar single tidy call,
      BridgeCall.landedMeansFlushed showChar single tidy call⟩
  · intro i same
    cases Option.some.inj same
    exact ⟨rfl, HidSession.tidy_afterOpen t clock req⟩

/-- The same batch over a transport that takes it. -/
theorem landed_batch_is_flushed :
    (BridgeCall.applyMany [.key 3 0]).LandedMeansFlushed (fun _ => "")
      (ActionInjector.new (HidSession.afterOpen .steady id .none)) := by
  have flushed := landed_means_flushed (fun _ => "") .steady id .none [.applyMany [.key 3 0]]
  refine (flushed.1 _ rfl).2 fun answer i' run => ?_
  cases run
  exact fun _ _ => ⟨rfl, rfl⟩

end HidConnect

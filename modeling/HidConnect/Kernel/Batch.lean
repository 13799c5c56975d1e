import HidConnect.Kernel.Landed
import HidConnect.Session.Even

/-! A batch, flushed once behind its last action, beside the same actions one at a time, each with a
flush of its own. -/
namespace HidConnect
open Fallible Method
open Kernel (Action)

namespace ActionInjector
open HidSession (evenly_flushNow evenly_injectTouch evenly_key evenly_sendPlain)

variable (showChar : Char → String)

abbrev Beside {ε α : Type} (m m' : Method ε HidSession α) : Prop :=
  Tracks True (HidSession.Even True) m m'

theorem Beside.rejecting {α : Type} {m m' : Session α} (h : Beside m m') (id : ActionId) :
    Beside (HidConnect.rejecting id m) (HidConnect.rejecting id m') := by
  intro s t even
  obtain ⟨ok, err, panic⟩ := h s t even
  unfold HidConnect.rejecting
  rcases run : m.run s with ⟨r, s'⟩
  cases r with
  | ok a =>
    obtain ⟨t', run', after⟩ := ok a s' run
    simpa [run, run'] using tracked_ok after
  | err e =>
    obtain ⟨t', run', after⟩ := err trivial e s' run
    simpa [run, run'] using tracked_err after
  | panic =>
    have panics := panic trivial (by rw [run])
    rcases run' : m'.run t with ⟨r', t'⟩
    rw [run'] at panics
    obtain rfl : r' = .panic := panics
    simpa [run, run'] using tracked_panic fun _ => rfl

theorem beside_maybeFlush (depth : UInt32) : Beside (maybeFlush 0) (maybeFlush depth) := by
  by_cases single : depth = 0
  · rw [single]
    exact evenly_flushNow
  · rw [maybeFlush, maybeFlush, if_pos rfl, if_neg single]
    rintro s t ⟨v, rfl, level⟩
    obtain ⟨n, w, run, -, after⟩ := CoalescingWriter.level_flush level
    have flushed : (Method.discard HidSession.flushNow).run s = (.ok (), { s with transport := w }) := by
      rw [run_discard, HidSession.flushNow, HidSession.onWriter, run_zoom, run]
      rfl
    rw [flushed]
    exact tracked_ok ⟨v, rfl, after⟩

theorem beside_typeChar (id : ActionId) (ch : Char) :
    Beside (typeChar showChar id ch) (typeChar showChar id ch) := by
  unfold typeChar
  split
  · exact tracks_fail _
  · apply (Beside.rejecting (evenly_key _ _ _) id).bind
    exact fun _ => Beside.rejecting (evenly_key _ _ _) id

theorem beside_mapped (id : ActionId) (depth : UInt32) (action : Action) :
    Beside (mapped showChar id 0 action) (mapped showChar id depth action) := by
  have flush := beside_maybeFlush depth
  have reports (bytes : List UInt8) : Beside (injectRaw id 0 bytes) (injectRaw id depth bytes) := by
    apply Beside.rejecting
    exact (HidSession.evenly_injectRawGamepadReport bytes).bind fun _ => flush
  have sends {msg : ControlMessage} (plain : ∀ i, msg ≠ .uhidInput i) (droppable : msg.isCritical = false) :
      Beside (do HidSession.send msg; maybeFlush 0) (do HidSession.send msg; maybeFlush depth) :=
    (evenly_sendPlain plain droppable).bind fun _ => flush
  cases action with
  | tap x y deadlineMs =>
    apply Beside.rejecting
    apply (evenly_injectTouch _ _ _ _ _).bind
    intro _
    exact (evenly_injectTouch _ _ _ _ _).bind fun _ => flush
  | swipe x1 y1 x2 y2 durMs deadlineMs =>
    apply Beside.rejecting
    exact (HidSession.evenly_swipePointer 0 _ _ _).bind fun _ => flush
  | typeText text deadlineMs =>
    apply Tracks.bind
    · exact tracks_forEach (beside_typeChar showChar id) _
    · exact fun _ => flush.rejecting id
  | key code deadlineMs =>
    apply Beside.rejecting
    apply Tracks.bind
    · exact evenly_sendPlain nofun rfl
    · intro _
      apply sends
      · exact nofun
      · rfl
  | gamepadFrame report deadlineMs => exact reports _
  | launch target launchBy deadlineMs =>
    apply Beside.rejecting
    apply sends
    · exact nofun
    · rfl
  | setClipboard text paste deadlineMs =>
    apply Beside.rejecting
    apply sends
    · exact nofun
    · rfl
  | injectRaw bytes deadlineMs => exact reports _
  | _ => exact tracks_fail _

/-- An injector with no batch open, beside one that may have one open. -/
structure Even (i j : ActionInjector) : Prop where
  session : HidSession.Even True i.session j.session
  nextId : j.nextId = i.nextId
  single : i.batchDepth = 0

theorem tracks_apply (action : Action) :
    Tracks True Even (apply showChar action) (apply showChar action) := by
  rintro ⟨s, id, depth⟩ ⟨t, id', depth'⟩ ⟨even, same, single⟩
  obtain rfl : id' = id := same
  obtain rfl : depth = 0 := single
  obtain ⟨ok, err, panic⟩ := beside_mapped showChar id' depth' action s t even
  unfold apply
  rcases run : (mapped showChar id' 0 action).run s with ⟨r, s'⟩
  cases r with
  | ok a =>
    obtain ⟨t', run', after⟩ := ok a s' run
    simpa [run, run'] using tracked_ok ⟨after, rfl, rfl⟩
  | err e =>
    obtain ⟨t', run', after⟩ := err trivial e s' run
    simpa [run, run'] using tracked_ok ⟨after, rfl, rfl⟩
  | panic =>
    have panics := panic trivial (by rw [run])
    rcases run' : (mapped showChar id' depth' action).run t with ⟨r', t'⟩
    rw [run'] at panics
    obtain rfl : r' = .panic := panics
    simpa [run, run'] using tracked_panic fun _ => rfl

theorem tracks_applyEach (actions : List Action) (outcomes : List BridgeOutcome) :
    Tracks True Even (applyEach showChar actions outcomes) (applyEach showChar actions outcomes) := by
  induction actions generalizing outcomes with
  | nil => exact tracks_pure _
  | cons action rest ih =>
    apply (tracks_apply showChar action).bind
    intro outcome
    split
    · exact ih _
    · exact tracks_pure _

theorem terminalFlush_beside {i j : ActionInjector} (even : Even i j) :
    ∃ j', terminalFlush.run j = (.ok none, j') ∧ Even i j' ∧ j'.batchDepth = j.batchDepth ∧
      j'.writer.pending = [] := by
  obtain ⟨⟨v, state, level⟩, nextId, single⟩ := even
  obtain ⟨n, v', run, empty, after⟩ := CoalescingWriter.level_flush level.symm
  have flushed : HidSession.flushNow.run j.session = (.ok n, { i.session with transport := v' }) := by
    rw [state, HidSession.flushNow, HidSession.onWriter, run_zoom, run]
  refine ⟨{ j with session := { i.session with transport := v' } }, ?_, ?_, rfl, empty⟩
  · simp [terminalFlush, flushed]
  · exact ⟨⟨v', rfl, after.symm⟩, nextId, single⟩

structure Settled (i j : ActionInjector) : Prop extends Even i j where
  closed : j.batchDepth = 0
  empty : j.writer.pending = []

theorem applyMany_beside (actions : List Action) {i j : ActionInjector} (even : Even i j)
    (idle : j.batchDepth = 0) : Tracked True Settled ((applyEach showChar actions []).run i)
      ((applyMany showChar actions).run j) := by
  let deep : ActionInjector := { j with batchDepth := deeper j.batchDepth }
  have opened : Even i deep := ⟨even.session, even.nextId, even.single⟩
  obtain ⟨ok, -, panic⟩ := tracks_applyEach showChar actions [] i deep opened
  have staged : (stageMany showChar actions).run j = (do
      let staged ← applyEach showChar actions []
      .update fun injector => { injector with batchDepth := shallower injector.batchDepth }
      pure staged : Method Empty ActionInjector _).run deep := rfl
  rcases run : (applyEach showChar actions []).run i with ⟨r, i'⟩
  cases r with
  | err e => exact e.elim
  | panic =>
    have panics := panic trivial (by rw [run])
    apply tracked_panic
    intro _
    apply run_bind_panics
    rw [staged]
    exact run_bind_panics panics
  | ok answer =>
    obtain ⟨outcomes, firstFailure⟩ := answer
    obtain ⟨j', each, after⟩ := ok _ i' run
    obtain ⟨own, -, depth, -⟩ := applyEach_mid showChar each
    have closed : shallower j'.batchDepth = 0 := by
      rw [depth]
      change shallower (deeper j.batchDepth) = 0
      rw [idle]
      decide
    let back : ActionInjector := { j' with batchDepth := shallower j'.batchDepth }
    have even' : Even i' back := ⟨after.session, after.nextId, after.single⟩
    rw [run_bind_ok each] at staged
    obtain ⟨j'', flush, even'', same, empty⟩ := terminalFlush_beside even'
    have ends : (applyMany showChar actions).run j = (.ok (outcomes, firstFailure), j'') := by
      rw [applyMany, run_bind_ok staged]
      dsimp only
      rw [run_read_bind, if_pos closed, run_bind_ok flush]
      rfl
    rw [ends]
    exact tracked_ok ⟨even'', same.trans closed, empty⟩

end ActionInjector

namespace BridgeCall
variable (showChar : Char → String)

def Steady (s : Option ActionInjector) : Prop :=
  ∀ i, s = some i → ActionInjector.Even i i ∧ i.batchDepth = 0

theorem steady_step (s : Option ActionInjector) (call : BridgeCall) (steady : Steady s) :
    Steady (step showChar s call) := by
  intro i' next
  obtain ⟨i, rfl, ⟨action, outcome, -, run⟩ | ⟨actions, answer, -, run⟩⟩ := step_cases showChar next
  · obtain ⟨even, -⟩ := steady i rfl
    obtain ⟨j, run', after⟩ := (ActionInjector.tracks_apply showChar action i i even).ok outcome i' run
    cases run.symm.trans run'
    exact ⟨after, after.single⟩
  · obtain ⟨even, idle⟩ := steady i rfl
    have tracked := ActionInjector.applyMany_beside showChar actions even idle
    rcases each : (ActionInjector.applyEach showChar actions []).run i with ⟨r, i₁⟩
    rw [each] at tracked
    cases r with
    | ok answer' =>
      obtain ⟨j, run', settled⟩ := tracked.ok answer' i₁ rfl
      cases run.symm.trans run'
      exact ⟨⟨settled.session.right, rfl, settled.closed⟩, settled.closed⟩
    | err e => exact e.elim
    | panic =>
      have panics := tracked.panic trivial rfl
      rw [run] at panics
      contradiction

theorem steady_new {t : Transport} (clock : Nat → Nat) (req : OpenRequest) (fresh : t.wire = [])
    (never : t.NeverFails) :
    Steady (some (ActionInjector.new (HidSession.afterOpen t clock req))) := by
  rintro i same
  cases same
  obtain ⟨-, working, -⟩ := HidSession.opened_working clock req fresh never
  obtain ⟨d, sent, held, carries⟩ := HidSession.wholeMessages_opened fresh never.allOrNothing never.2
  exact ⟨⟨HidSession.even_self carries working, rfl, rfl⟩, rfl⟩

end BridgeCall

/-- Over a transport that works and after any calls: a batch comes back with the outcomes that its actions
have one at a time, up to the first that fails, and leaves the devices alike. It has flushed all of what
they put in the stream. -/
theorem batch_agrees (showChar : Char → String) (t : Transport) (clock : Nat → Nat) (req : OpenRequest)
    (fresh : t.wire = []) (never : t.NeverFails) (calls : List BridgeCall) (actions : List Action)
    {i : ActionInjector} (reached : Run.after (BridgeCall.step showChar)
      (some (ActionInjector.new (HidSession.afterOpen t clock req))) calls = some i) :
    let single := (ActionInjector.applyEach showChar actions []).run i
    let batch := (ActionInjector.applyMany showChar actions).run i
    batch.1 = single.1 ∧ (batch.1.isOk = true →
      batch.2 = { single.2 with session := { single.2.session with transport := batch.2.writer } } ∧
      batch.2.writer.pending = [] ∧
      batch.2.writer.transport.wire = single.2.writer.transport.wire ++ single.2.writer.pending) := by
  intro single batch
  obtain ⟨even, idle⟩ := Run.preserved BridgeCall.Steady (BridgeCall.steady_step showChar)
    (BridgeCall.steady_new clock req fresh never) calls i reached
  obtain ⟨ok, -, panic⟩ := ActionInjector.applyMany_beside showChar actions even idle
  rcases run : single with ⟨r, i'⟩
  cases r with
  | ok answer =>
    obtain ⟨j, run', ⟨⟨⟨v, state, level⟩, nextId, alone⟩, closed, empty⟩⟩ := ok answer i' run
    rw [show batch = (.ok answer, j) from run']
    obtain ⟨s, id, depth⟩ := j
    obtain rfl : s = { i'.session with transport := v } := state
    obtain rfl : id = i'.nextId := nextId
    obtain rfl : depth = i'.batchDepth := Eq.trans closed alone.symm
    have bytes := level.bytes
    rw [show v.pending = [] from empty, List.append_nil] at bytes
    exact ⟨rfl, fun _ => ⟨rfl, empty, bytes.symm⟩⟩
  | err e => exact e.elim
  | panic =>
    have panics : batch.1 = .panic := panic trivial (congrArg Prod.fst run)
    rw [panics]
    exact ⟨rfl, nofun⟩

/-- A key and a text on their own, then a batch that stops at a report of the wrong length. -/
theorem batch_agrees_key :
    let i := Run.after (ActionInjector.applied fun _ => "")
      (ActionInjector.new (HidSession.afterOpen .steady id .all)) [.key 3 0, .typeText "a" 0]
    let actions : List Action := [.tap 10 20 0, .launch "home" (.package "home") 0, .injectRaw [] 0, .key 4 0]
    let single := (ActionInjector.applyEach (fun _ => "") actions []).run i
    let batch := (ActionInjector.applyMany (fun _ => "") actions).run i
    batch.1 = single.1 ∧ (batch.1.isOk = true →
      batch.2 = { single.2 with session := { single.2.session with transport := batch.2.writer } } ∧
      batch.2.writer.pending = [] ∧
      batch.2.writer.transport.wire = single.2.writer.transport.wire ++ single.2.writer.pending) :=
  batch_agrees (fun _ => "") .steady id .all rfl Transport.steady_neverFails
    [.apply (.key 3 0), .apply (.typeText "a" 0)]
    [.tap 10 20 0, .launch "home" (.package "home") 0, .injectRaw [] 0, .key 4 0] rfl

end HidConnect

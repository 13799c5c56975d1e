import HidConnect.Client.Dispatch

/-! The two threads that own a session, and whether they hand its transport back. -/
namespace HidConnect
open Fallible

def HidCommand.isClose : HidCommand → Bool
  | .close => true
  | _ => false

namespace Dispatcher

/-- `Ok(session.into_inner())` -/
def intoInner : Dispatch Transport := do
  match (← .read).session.intoInner with
  | .ok transport => pure transport
  | _ => .crash

/-- `dispatcher_loop` over the commands it receives, in channel order. They end when every sender
is gone. -/
def dispatcherLoop : List HidCommand → Dispatch Transport
  | [] => do
    let _ ← call HidSession.close
    intoInner
  | cmd :: rest => do
    let stop ← dispatchToSession cmd
    if stop then intoInner else dispatcherLoop rest

end Dispatcher

/-- `gamepad_consumer_loop` over the frames it pops until it finds the ring empty and the close
flag set. It leaves early at the first error. -/
def gamepadConsumerLoop (frames : List GamepadFrameRaw) : Session Transport := do
  .ignore (.forEach frames HidSession.setFrameRaw)
  .ignore HidSession.close
  let s ← .read
  .lift s.intoInner

namespace HidSession

/-- The writes a teardown has to make: what is pending, and a destroy for each device of a session
that is not closed. -/
def writesDue (s : HidSession) : Nat :=
  (if s.closed then 0 else s.farewells.length) + s.transport.due

def TeardownAccepted (s : HidSession) : Prop := s.transport.transport.Accepts s.writesDue

theorem intoInner_isOk {s : HidSession} (closed : s.closed = true) :
    s.intoInner.isOk = (flushNow.run s).1.isOk := by
  rw [HidSession.intoInner, closed, if_pos rfl, CoalescingWriter.intoInner, Method.run_bind, flushNow,
    onWriter, Method.run_zoom]
  rcases CoalescingWriter.flushNow.run s.transport with ⟨r, w⟩
  cases r <;> rfl

theorem teardown_isOk (s : HidSession) :
    (close.run s).2.intoInner.isOk = true ↔ s.TeardownAccepted := by
  cases live : s.closed with
  | true =>
    have same : (close.run s).2 = s := by
      rw [close, tryCloseAll, Method.run_read_bind, live]
      rfl
    rw [same, intoInner_isOk live, TeardownAccepted, writesDue, live, if_pos rfl, Nat.zero_add]
    exact CoalescingWriter.flushNow_isOk
  | false =>
    obtain ⟨result, transport, closed⟩ := tryCloseAll_outcome live
    rw [TeardownAccepted, writesDue, live, if_neg Bool.false_ne_true,
      ← CoalescingWriter.pushAll_flush_isOk (allCritical_farewells s), Method.run_bind, close]
    rw [result] at closed
    rcases hp : (CoalescingWriter.pushAll s.farewells).run s.transport with ⟨r, w⟩
    rw [hp] at closed transport
    cases r with
    | ok u =>
      rw [intoInner_isOk closed, flushNow, onWriter, Method.run_zoom, transport]
    | err e =>
      rw [HidSession.intoInner, closed]
      simp
    | panic =>
      rw [HidSession.intoInner, closed]
      simp

end HidSession

namespace Dispatcher

/-- The dispatcher when its loop ends: it has performed every command before the first `Close`. -/
def untilClose : List HidCommand → Dispatcher → Dispatcher
  | [], d => d
  | cmd :: rest, d => if cmd.isClose then d else untilClose rest ((perform cmd).run d).2

def performed (cmds : List HidCommand) : List HidCommand := cmds.takeWhile (!·.isClose)

theorem dispatch_eq (cmd : HidCommand) :
    dispatchToSession cmd = perform cmd >>= fun _ => pure cmd.isClose := by
  cases cmd <;> rfl

theorem intoInner_run (d : Dispatcher) :
    (intoInner.run d).1.isOk = d.session.intoInner.isOk := by
  rw [intoInner, Method.run_read_bind]
  cases d.session.intoInner <;> rfl

theorem dispatcherLoop_isOk {cmds : List HidCommand} {d : Dispatcher}
    (calm : ∀ cmd ∈ performed cmds, ∀ d, ((perform cmd).run d).1.isPanic = false) :
    ((dispatcherLoop cmds).run d).1.isOk =
      (HidSession.close.run (untilClose cmds d).session).2.intoInner.isOk := by
  induction cmds generalizing d with
  | nil =>
    rw [dispatcherLoop, Method.run_bind_ok (call_run (HidSession.neverPanics_close _))]
    exact intoInner_run _
  | cons cmd rest ih =>
    rw [dispatcherLoop, Method.run_bind, dispatch_eq, Method.run_bind_pure, untilClose]
    cases hc : cmd.isClose with
    | true =>
      have isClose : cmd = .close := by cases cmd <;> first | rfl | contradiction
      subst isClose
      have same : (perform .close).run d = (((call HidSession.close).run d).1.map fun _ => (),
        ((call HidSession.close).run d).2) := rfl
      rw [same, if_pos rfl, call_run (HidSession.neverPanics_close _)]
      exact intoInner_run _
    | false =>
      have first : performed (cmd :: rest) = cmd :: performed rest := by simp [performed, hc]
      rw [first] at calm
      have here := calm cmd (List.mem_cons_self ..) d
      rw [if_neg Bool.false_ne_true]
      rcases hp : (perform cmd).run d with ⟨r, t⟩
      rw [hp] at here
      cases r with
      | ok a => exact ih fun cmd hm => calm cmd (List.mem_cons_of_mem _ hm)
      | err e => exact e.elim
      | panic => contradiction

end Dispatcher

theorem gamepadConsumerLoop_isOk (frames : List GamepadFrameRaw) (s : HidSession) :
    ((gamepadConsumerLoop frames).run s).1.isOk =
      (HidSession.close.run ((Method.forEach frames HidSession.setFrameRaw).run s).2).2.intoInner.isOk
      := by
  have drained : Method.NeverPanics (Method.forEach frames HidSession.setFrameRaw) :=
    Method.neverPanics_forEach (fun _ => (HidSession.neverPanics_checkedUpdate _).discard) frames
  rw [gamepadConsumerLoop, Method.run_bind_ok (Method.run_ignore (drained s)),
    Method.run_bind_ok (Method.run_ignore (HidSession.neverPanics_close _))]
  rfl

open Dispatcher in
/-- A loop hands the transport back exactly if the teardown of the session it ends with has its
writes accepted: the dispatcher's, over commands that do not panic, and the gamepad consumer's. -/
theorem teardown_returns_transport (d : Dispatcher) (cmds : List HidCommand) (s : HidSession)
    (frames : List GamepadFrameRaw) :
    ((∀ cmd ∈ performed cmds, ∀ d, ((perform cmd).run d).1.isPanic = false) →
      (((dispatcherLoop cmds).run d).1.isOk = true ↔
        (untilClose cmds d).session.TeardownAccepted)) ∧
    (((gamepadConsumerLoop frames).run s).1.isOk = true ↔
      ((Method.forEach frames HidSession.setFrameRaw).run s).2.TeardownAccepted) := by
  refine ⟨fun calm => ?_, ?_⟩
  · rw [dispatcherLoop_isOk calm]
    exact HidSession.teardown_isOk _
  · rw [gamepadConsumerLoop_isOk]
    exact HidSession.teardown_isOk _

def openedKeyboard (t : Transport) : HidSession :=
  (HidSession.open t id (OpenRequest.kbdOnly.withCoalesce false)).2

open Dispatcher in
theorem teardown_returns_transport_key :
    ((dispatcherLoop [.key 4 true .empty, .close]).run
      (idleDispatcher (openedKeyboard .steady))).1.isOk = true := by
  obtain ⟨loop, _⟩ := teardown_returns_transport (idleDispatcher (openedKeyboard .steady))
    [.key 4 true .empty, .close] (openedKeyboard .steady) []
  refine (loop fun cmd hm d => ?_).mpr fun i _ => ⟨rfl, rfl⟩
  obtain rfl : cmd = .key 4 true .empty := by simpa [performed, HidCommand.isClose] using hm
  exact (perform_iff _ d).mpr trivial

/-- The write of the keyboard's destroy is refused: the loop panics in its `Close`. -/
theorem refused_destroy_panics :
    ((Dispatcher.dispatcherLoop [.close]).run
      (idleDispatcher (openedKeyboard (.refuses 1)))).1.isPanic = true := by
  decide +kernel

end HidConnect

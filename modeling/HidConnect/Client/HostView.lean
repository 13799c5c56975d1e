import HidConnect.Client.Linear
import HidConnect.Session.HostView

/-! What the host shows of the keyboard while several clients send commands. -/
namespace HidConnect
open Fallible

/-- The operations of the session that a command comes to. A flush of a waiter comes to one too. -/
def HidCommand.ops : HidCommand → List SessionOp
  | .typeText s => [.typeText s]
  | .typeTextStrict s => [.typeTextStrict s]
  | .key scancode pressed mods => [.key scancode pressed mods]
  | .keyTap scancode mods => [.key scancode true mods, .key scancode false .empty]
  | .keyBatchFixed len frames => (fixedFrames frames len).map fun frame =>
    .key frame.scancode frame.pressed frame.mods
  | .mouseMotion dx dy buttons => [.mouseMotion dx dy buttons]
  | .mouseButtons buttons => [.mouseButtons buttons]
  | .mouseScroll hscroll vscroll => [.mouseScroll hscroll vscroll]
  | .mouseBatchFixed len frames => (fixedFrames frames len).map fun frame =>
    .mouseMotion frame.dx frame.dy frame.buttons
  | .injectKeycode action keycode repeats metastate =>
    [.send (.injectKeycode { action, keycode, repeats, metastate })]
  | .androidKeyTap keycode metastate => [.tapAndroidKeycode keycode metastate]
  | .androidKeyBatchFixed len frames => (fixedFrames frames len).map fun frame =>
    .send (.injectKeycode {
      action := frame.action, keycode := frame.keycode, repeats := frame.repeats
      metastate := frame.metastate })
  | .backOrScreenOn action => [.send (.backOrScreenOn ⟨action⟩)]
  | .multitouchDown id x y pressure => [.injectTouch TouchAction.down id x y pressure]
  | .multitouchMove id x y pressure => [.injectTouch TouchAction.move id x y pressure]
  | .multitouchUp id => [.injectTouch TouchAction.up id 0 0 0]
  | .multitouchCancel id => [.injectTouch TouchAction.cancel id 0 0 0]
  | .touchBatchFixed len frames => (fixedFrames frames len).map fun frame =>
    .injectTouch frame.action frame.pointerId frame.x frame.y frame.pressure
  | .injectScroll x y hscroll vscroll buttons => [.injectScroll x y hscroll vscroll buttons]
  | .injectScrollBatchFixed len frames => (fixedFrames frames len).map fun frame =>
    .injectScroll frame.x frame.y frame.hscroll frame.vscroll frame.buttons
  | .gamepadButton btn pressed => [.gamepad (.update (.setButton btn pressed))]
  | .gamepadButtons buttons => [.gamepad (.update (.setButtons buttons))]
  | .gamepadStick axis value => [.gamepad (.update (.setStick axis value))]
  | .gamepadStickRaw axis value => [.gamepad (.update (.setStickRaw axis value))]
  | .gamepadLeftStickRaw x y => [.gamepad (.update (.setLeftStickRaw x y))]
  | .gamepadRightStickRaw x y => [.gamepad (.update (.setRightStickRaw x y))]
  | .gamepadTriggersRaw left right => [.gamepad (.update (.setTriggersRaw left right))]
  | .gamepadSticksRaw leftX leftY rightX rightY leftTrigger rightTrigger =>
    [.gamepad (.update (.setSticksRaw leftX leftY rightX rightY leftTrigger rightTrigger))]
  | .gamepadFrameRaw frame => [.gamepad (.update (.setFrameRaw frame))]
  | .gamepadFrameRawUnchecked frame => [.gamepad (.setFrameRawUncheckedFrame frame)]
  | .gamepadFrameRawBatch frames => [.gamepad (.setFrameRawBatch frames)]
  | .gamepadFrameRawBatchFixed len frames =>
    [.gamepad (.setFrameRawBatch (fixedFrames frames len))]
  | .gamepadFrameRawBatchFixedUnchecked len frames =>
    [.gamepad (.setFrameRawBatchUnchecked (fixedFrames frames len))]
  | .gamepadFrameRawBatchUnchecked frames => [.gamepad (.setFrameRawBatchUnchecked frames)]
  | .gamepadPackedFrame frame => [.gamepad (.setFrameRawPacked frame)]
  | .gamepadPackedFrameBatch frames => [.gamepad (.setFrameRawPackedBatch frames)]
  | .gamepadPackedFrameBatchFixed len frames =>
    [.gamepad (.setFrameRawPackedBatch (fixedFrames frames len))]
  | .setScreenSize width height => [.setScreenSize width height]
  | .setScreenPower on => [.send (.setDisplayPower ⟨on⟩)]
  | .showNotifications => [.send .expandNotificationPanel]
  | .showQuickSettings => [.send .expandSettingsPanel]
  | .collapsePanels => [.send .collapsePanels]
  | .rotateDevice => [.send .rotateDevice]
  | .resizeDisplay width height => [.send (.resizeDisplay ⟨width, height⟩)]
  | .setTorch on => [.send (.cameraSetTorch ⟨on⟩)]
  | .cameraZoomIn => [.send .cameraZoomIn]
  | .cameraZoomOut => [.send .cameraZoomOut]
  | .openHardKeyboardSettings => [.send .openHardKeyboardSettings]
  | .resetVideo => [.send .resetVideo]
  | .aiConfig flags sampleIntervalMs featureDim =>
    [.send (.aiConfig { flags, sampleIntervalMs, featureDim })]
  | .aiQuery sinceTimestampMs => [.send (.aiQuery ⟨sinceTimestampMs⟩)]
  | .aiPause => [.send .aiPause]
  | .launchApp name => [.send (.startApp ⟨name⟩)]
  | .setClipboard text paste => [.send (.setClipboard { sequence := 0, paste, text })]
  | .setClipboardSequenced sequence text paste => [.send (.setClipboard { sequence, paste, text })]
  | .getClipboard copyKey => [.send (.getClipboard ⟨copyKey⟩)]
  | .flushAck _ _ => [.flushNow]
  | .flush => [.flushNow]
  | .close => [.close]

theorem Dispatcher.flushAck_session (slot : FlushSlot) (d : Dispatcher) :
    ((flushAck slot).run d).2.session = (HidSession.flushNow.run d.session).2 := by
  -- whatever is pending, there is a fault to carry it
  have pending : d.pendingError =
      ((d.pendingError.map (Fault.mk 0)).toList ++ []).head?.map Fault.error := by
    cases d.pendingError <;> rfl
  rcases flushed : HidSession.flushNow.run d.session with ⟨r, s⟩
  rw [flushAck_run 0 slot pending flushed]

namespace HidSession

theorem faultsOf_map {α : Type} {call : α → Session Unit} {op : α → SessionOp}
    (same : ∀ a, (op a).run = call a) (xs : List α) (n : Nat) (s : HidSession) :
    (faultsOf (xs.map call) n s).2 = Run.after step s (xs.map op) := by
  induction xs generalizing n s with
  | nil => rfl
  | cons x rest ih =>
    rw [List.map_cons, List.map_cons, faultsOf, Run.after, step, same x]
    exact ih _ _

theorem faultsOf_single {call : Session Unit} {op : SessionOp} (n : Nat) (s : HidSession)
    (same : ((op.run).run s).2 = (call.run s).2) :
    (faultsOf [call] n s).2 = Run.after step s [op] := same.symm

theorem faultsOf_calls {cmd : HidCommand} (silent : cmd.slots = []) (stays : cmd.isClose = false)
    (many : ∀ scancode mods, cmd ≠ .keyTap scancode mods) (n : Nat) (s : HidSession) :
    (faultsOf cmd.calls n s).2 = Run.after step s cmd.ops := by
  cases cmd with
  | keyTap scancode mods => exact absurd rfl (many scancode mods)
  | flushAck seq slot => contradiction
  | close => contradiction
  | keyBatchFixed len frames =>
    apply faultsOf_map
    exact fun _ => rfl
  | mouseBatchFixed len frames =>
    apply faultsOf_map
    exact fun _ => rfl
  | androidKeyBatchFixed len frames =>
    apply faultsOf_map
    exact fun _ => rfl
  | touchBatchFixed len frames =>
    apply faultsOf_map
    exact fun _ => rfl
  | injectScrollBatchFixed len frames =>
    apply faultsOf_map
    exact fun _ => rfl
  | _ => exact faultsOf_single n s rfl

theorem within_ops (cmd : HidCommand) (stays : cmd.isClose = false) :
    ∀ op ∈ cmd.ops, Within ownReports op ∧ ∀ edit, op ≠ .editKeyboard edit := by
  intro op hm
  cases cmd with
  | close => contradiction
  | keyBatchFixed len frames =>
    obtain ⟨frame, -, rfl⟩ := List.mem_map.mp hm
    exact ⟨fun _ => trivial, nofun⟩
  | mouseBatchFixed len frames =>
    obtain ⟨frame, -, rfl⟩ := List.mem_map.mp hm
    exact ⟨trivial, nofun⟩
  | androidKeyBatchFixed len frames =>
    obtain ⟨frame, -, rfl⟩ := List.mem_map.mp hm
    exact ⟨trivial, nofun⟩
  | touchBatchFixed len frames =>
    obtain ⟨frame, -, rfl⟩ := List.mem_map.mp hm
    exact ⟨trivial, nofun⟩
  | injectScrollBatchFixed len frames =>
    obtain ⟨frame, -, rfl⟩ := List.mem_map.mp hm
    exact ⟨trivial, nofun⟩
  | typeText s | typeTextStrict s =>
    obtain rfl := List.mem_singleton.mp hm
    exact ⟨fun _ => trivial, nofun⟩
  | key scancode pressed mods =>
    obtain rfl := List.mem_singleton.mp hm
    exact ⟨fun _ => trivial, nofun⟩
  | keyTap scancode mods =>
    rcases List.mem_pair.mp hm with rfl | rfl
    · exact ⟨fun _ => trivial, nofun⟩
    · exact ⟨fun _ => trivial, nofun⟩
  | _ =>
    obtain rfl := List.mem_singleton.mp hm
    exact ⟨trivial, nofun⟩

namespace Showing
variable {presses : List KeyPress} {s : HidSession}

/-- A tap of one call: the key comes up without the modifiers. -/
theorem keyTap (h : Showing presses s) (scancode : UInt8) (mods : Modifiers) :
    Showing (presses ++ (HidCommand.keyTap scancode mods).ops.flatMap SessionOp.presses)
      ((do
        HidSession.key scancode true mods
        HidSession.key scancode false .empty : Session Unit).run s).2 := by
  cases valid : KeyboardHid.accepts scancode with
  | true =>
    obtain ⟨s', run, after⟩ := h.all [⟨scancode, true, mods⟩, ⟨scancode, false, .empty⟩]
      (by simp [valid])
    rw [Method.forEach_cons, Method.forEach_cons, Method.forEach_nil, Method.bind_pure_unit] at run
    have state := congrArg Prod.snd run
    dsimp only at state
    exact state ▸ after
  | false =>
    obtain ⟨e, first⟩ := keyPress_refused (s := s) (p := ⟨scancode, true, mods⟩) (.inr valid)
    have none : (do
        HidSession.key scancode true mods
        HidSession.key scancode false .empty : Session Unit).run s = (.err e, s) :=
      Method.run_bind_err first
    rw [none]
    have two := (h.refused (p := ⟨scancode, true, mods⟩) valid).refused
      (p := ⟨scancode, false, .empty⟩) valid
    simpa [HidCommand.ops, SessionOp.presses] using two

theorem command {cmd : HidCommand} {d d' : Dispatcher} (h : Showing presses d.session)
    (stays : cmd.isClose = false) (run : (Dispatcher.perform cmd).run d = (.ok (), d')) :
    Showing (presses ++ cmd.ops.flatMap SessionOp.presses) d'.session := by
  rcases Dispatcher.slots_cases cmd with silent | ⟨seq, slot, rfl⟩
  · have sound : cmd.Sound := (Dispatcher.perform_iff cmd d).mp (by rw [run]; rfl)
    rw [Dispatcher.perform_calls sound silent stays] at run
    obtain ⟨-, rfl⟩ := Prod.mk.inj
      (run.symm.trans (Dispatcher.forEach_attempt 0 (by rw [run]; rfl)))
    by_cases tap : ∃ scancode mods, cmd = .keyTap scancode mods
    · obtain ⟨scancode, mods, rfl⟩ := tap
      exact h.keyTap scancode mods
    · have many : ∀ scancode mods, cmd ≠ .keyTap scancode mods :=
        fun scancode mods same => tap ⟨scancode, mods, same⟩
      dsimp only
      rw [faultsOf_calls silent stays many]
      exact h.ops (within_ops cmd stays)
  · have flushed := Dispatcher.flushAck_session slot d
    rw [show (Dispatcher.flushAck slot).run d = _ from run] at flushed
    rw [show d'.session = _ from flushed]
    exact h.ops (within_ops (.flushAck seq slot) stays)

theorem commands {done : List HidCommand} {d d' : Dispatcher} (h : Showing presses d.session)
    (isOpen : ∀ cmd ∈ done, cmd.isClose = false)
    (run : (Method.forEach done Dispatcher.perform).run d = (.ok (), d')) :
    Showing (presses ++ (done.flatMap HidCommand.ops).flatMap SessionOp.presses) d'.session := by
  induction done generalizing presses d with
  | nil =>
    obtain rfl : d = d' := congrArg Prod.snd run
    simpa using h
  | cons cmd rest ih =>
    obtain ⟨_, d₁, first, later⟩ := Method.of_run_bind_ok run
    have next := h.command (isOpen cmd (List.mem_cons_self ..)) first
    have all := ih next (fun cmd hm => isOpen cmd (List.mem_cons_of_mem _ hm)) later
    rw [List.flatMap_cons, List.flatMap_append, ← List.append_assoc]
    exact all

end Showing

end HidSession

open HidSession Clients in
/-- While clones of a client send commands in any order over a channel of any size, the host shows the
keyboard as the commands leave it that the dispatcher has taken so far, in the order in which the
channel accepted them. -/
theorem host_shows_commands (t : Transport) (clock : Nat → Nat) (req : OpenRequest)
    (fresh : t.wire = []) (never : t.NeverFails) (wanted : req.kbd = true) (bound : Nat)
    (events : List ClientEvent) :
    let c := Run.after Clients.step (intoClient (afterOpen t clock req) bound) events
    c.thread = .running → ∃ done, c.accepted = done ++ c.queue ∧
      HostShows (flushNow.run c.dispatcher.session).2.transport.transport.wire
        ((done.flatMap HidCommand.ops).flatMap SessionOp.presses) := by
  intro c running
  have inOrder := inOrder_after (afterOpen t clock req) bound events
  rw [InOrder, running] at inOrder
  obtain ⟨done, whole, isOpen, run⟩ := inOrder
  have opened : Showing [] (idleDispatcher (afterOpen t clock req)).session :=
    Showing.opened clock fresh never wanted
  exact ⟨done, whole, (opened.commands isOpen run).host⟩

open HidSession Clients in
/-- One clone taps a key and another one presses the next, with a command still on the channel. -/
theorem host_shows_two_clones :
    let c := Run.after Clients.step (intoClient (afterOpen .steady id .all) 2)
      [.clone, .send (.keyTap 4 .empty), .send (.key 6 true .lshift), .turn, .turn, .send .flush]
    ∃ done, c.accepted = done ++ c.queue ∧
      HostShows (flushNow.run c.dispatcher.session).2.transport.transport.wire
        ((done.flatMap HidCommand.ops).flatMap SessionOp.presses) :=
  host_shows_commands .steady id .all rfl Transport.steady_neverFails rfl 2
    [.clone, .send (.keyTap 4 .empty), .send (.key 6 true .lshift), .turn, .turn, .send .flush]
    (by decide +kernel)

end HidConnect

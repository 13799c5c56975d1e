import HidConnect.Hid.Gamepad
import HidConnect.Library.Run
import HidConnect.Library.Slots

/-! The slot table of the gamepad driver, under calls that name a gamepad by its id. -/
namespace HidConnect
open Fallible

inductive GamepadEvent where
  | button (button : GamepadButton) (pressed : Bool)
  | buttons (buttons : UInt32)
  | fullState (frame : GamepadFrameRaw)
  | axis (axis : GamepadAxis) (value : Int16)
  | leftStick (x y : Int16)
  | rightStick (x y : Int16)
  | triggers (left right : Int16)
  | sticks (leftX leftY rightX rightY leftTrigger rightTrigger : Int16)

namespace GamepadEvent

/-- What the event makes of a slot, if it changes it. -/
def apply : GamepadEvent → GamepadSlot → Option GamepadSlot
  | button btn pressed => GamepadSlot.buttonEvent btn pressed
  | buttons b => GamepadSlot.buttonsEvent b
  | fullState frame => GamepadSlot.fullStateEvent frame
  | axis a value => GamepadSlot.axisEvent a value
  | leftStick x y => GamepadSlot.leftStick x y
  | rightStick x y => GamepadSlot.rightStick x y
  | triggers left right => GamepadSlot.triggers left right
  | sticks lx ly rx ry lt rt => GamepadSlot.sticks lx ly rx ry lt rt

theorem settles (ev : GamepadEvent) : Settles ev.apply := by
  cases ev with
  | button btn pressed => exact GamepadSlot.settles_buttonEvent btn pressed
  | buttons b => exact GamepadSlot.settles_buttonsEvent b
  | fullState frame => exact GamepadSlot.settles_fullStateEvent frame
  | axis a value => exact GamepadSlot.settles_axisEvent a value
  | leftStick x y => exact GamepadSlot.settles_leftStick x y
  | rightStick x y => exact GamepadSlot.settles_rightStick x y
  | triggers left right => exact GamepadSlot.settles_triggers left right
  | sticks lx ly rx ry lt rt => exact GamepadSlot.settles_sticks lx ly rx ry lt rt

end GamepadEvent

def GamepadSlot.neutral (gamepadId : UInt32) : GamepadSlot :=
  { gamepadId, buttons := 0, axisLeftX := axisRescale 0, axisLeftY := axisRescale 0,
    axisRightX := axisRescale 0, axisRightY := axisRescale 0, axisLeftTrigger := 0,
    axisRightTrigger := 0 }

namespace GamepadHid

def slotToInputMessageFromPayload (hidId : UInt16) (payload : Payload) : ControlMessage :=
  .uhidInput { id := hidId, size := 15, data := payload }

def slotToInputMessage (hidId : UInt16) (slot : GamepadSlot) : ControlMessage :=
  slotToInputMessageFromPayload hidId slot.toPayload

/-- The frame of every event by id: an event that changes nothing reports the slot once more. -/
def eventById (gamepadId : UInt32) (event : GamepadSlot → Option GamepadSlot) :
    Method Error GamepadHid ControlMessage := do
  let slotIdx ← .okOr (.unknownGamepad gamepadId) ((← .read).findSlot gamepadId)
  let (report, g) := (← .read).slotEvent slotIdx event
  .update fun _ => g
  match report with
  | some (hidId, payload) => pure (slotToInputMessageFromPayload hidId payload)
  | none => pure (slotToInputMessage (slotHidId slotIdx) (g.slot slotIdx))

def buttonEvent (gamepadId : UInt32) (button : GamepadButton) (pressed : Bool) :
    Method Error GamepadHid ControlMessage :=
  eventById gamepadId (GamepadSlot.buttonEvent button pressed)

def buttonsEvent (gamepadId buttons : UInt32) : Method Error GamepadHid ControlMessage :=
  eventById gamepadId (GamepadSlot.buttonsEvent buttons)

def fullStateEvent (gamepadId : UInt32) (frame : GamepadFrameRaw) :
    Method Error GamepadHid ControlMessage :=
  eventById gamepadId (GamepadSlot.fullStateEvent frame)

def axisEvent (gamepadId : UInt32) (axis : GamepadAxis) (value : Int16) :
    Method Error GamepadHid ControlMessage :=
  eventById gamepadId (GamepadSlot.axisEvent axis value)

def leftStickRaw (gamepadId : UInt32) (x y : Int16) : Method Error GamepadHid ControlMessage :=
  eventById gamepadId (GamepadSlot.leftStick x y)

def rightStickRaw (gamepadId : UInt32) (x y : Int16) : Method Error GamepadHid ControlMessage :=
  eventById gamepadId (GamepadSlot.rightStick x y)

def triggersRaw (gamepadId : UInt32) (left right : Int16) : Method Error GamepadHid ControlMessage :=
  eventById gamepadId (GamepadSlot.triggers left right)

def setSticksRaw (gamepadId : UInt32) (leftX leftY rightX rightY leftTrigger rightTrigger : Int16) :
    Method Error GamepadHid ControlMessage :=
  eventById gamepadId (GamepadSlot.sticks leftX leftY rightX rightY leftTrigger rightTrigger)

def event (gamepadId : UInt32) : GamepadEvent → Method Error GamepadHid ControlMessage
  | .button btn pressed => buttonEvent gamepadId btn pressed
  | .buttons b => buttonsEvent gamepadId b
  | .fullState frame => fullStateEvent gamepadId frame
  | .axis a value => axisEvent gamepadId a value
  | .leftStick x y => leftStickRaw gamepadId x y
  | .rightStick x y => rightStickRaw gamepadId x y
  | .triggers left right => triggersRaw gamepadId left right
  | .sticks lx ly rx ry lt rt => setSticksRaw gamepadId lx ly rx ry lt rt

theorem event_eq (gamepadId : UInt32) (ev : GamepadEvent) :
    event gamepadId ev = eventById gamepadId ev.apply := by
  cases ev <;> rfl

def activeCount (g : GamepadHid) : Nat := (g.slots.toList.filter fun slot => !slot.isFree).length

/- What the events do, and what the lookups find. -/

def ids (g : GamepadHid) (i : SlotIdx) : UInt32 := (g.slot i).gamepadId

theorem slot_setSlot (g : GamepadHid) (i j : SlotIdx) (next : GamepadSlot) :
    (g.setSlot i next).slot j = if j = i then next else g.slot j := by
  by_cases same : j = i
  · rw [if_pos same, same]
    exact slots_setSlot g i next
  · have apart : i.val ≠ j.val := fun eq => same (Fin.ext eq.symm)
    rw [if_neg same]
    simp [setSlot, slot, apart]

theorem ids_setSlot (g : GamepadHid) (i : SlotIdx) (next : GamepadSlot) :
    (g.setSlot i next).ids = Function.update g.ids i next.gamepadId := by
  funext j
  rw [ids, slot_setSlot, Function.update_apply]
  split <;> rfl

theorem slotHidId_toNat (i : SlotIdx) : (slotHidId i).toNat = 3 + i.val := by
  revert i
  decide

theorem slotHidId_injective {i j : SlotIdx} (same : slotHidId i = slotHidId j) : i = j := by
  have numbers := congrArg UInt16.toNat same
  rw [slotHidId_toNat, slotHidId_toNat] at numbers
  exact Fin.ext (Nat.add_left_cancel numbers)

theorem ids_slotEvent (g : GamepadHid) (i : SlotIdx) (ev : GamepadEvent) :
    (g.slotEvent i ev.apply).2.ids = g.ids := by
  cases changed : ev.apply (g.slot i) with
  | none => rw [slotEvent_none changed]
  | some next =>
    have own : next.gamepadId = g.ids i := (ev.settles _ _ changed).2
    rw [slotEvent_some changed, ids_setSlot, own, Function.update_eq_self]

theorem event_run (g : GamepadHid) (gamepadId : UInt32) (ev : GamepadEvent) :
    (g.findSlot gamepadId = none ∧
        (event gamepadId ev).run g = (.err (.unknownGamepad gamepadId), g)) ∨
      ∃ i payload, g.findSlot gamepadId = some i ∧ (event gamepadId ev).run g =
        (.ok (slotToInputMessageFromPayload (slotHidId i) payload), (g.slotEvent i ev.apply).2) := by
  rw [event_eq]
  cases found : g.findSlot gamepadId with
  | none =>
    refine .inl ⟨rfl, ?_⟩
    simp [eventById, Method.run_bind, found]
  | some i =>
    cases changed : ev.apply (g.slot i) with
    | none =>
      refine .inr ⟨i, (g.slot i).toPayload, rfl, ?_⟩
      simp [eventById, Method.run_bind, found, slotEvent_none changed, slotToInputMessage]
    | some next =>
      refine .inr ⟨i, next.toPayload, rfl, ?_⟩
      simp [eventById, Method.run_bind, found, slotEvent_some changed]

end GamepadHid

/- Calls. -/

inductive GamepadCall where
  | open (gamepadId : UInt32) (name : Option String)
  | close (gamepadId : UInt32)
  | event (gamepadId : UInt32) (ev : GamepadEvent)

inductive GamepadAnswer where
  | opened (hidId : UInt16) (create : ControlMessage)
  | sent (msg : ControlMessage)

namespace GamepadCall
open GamepadHid

def answer : GamepadCall → Method Error GamepadHid GamepadAnswer
  | .open gamepadId name => do
    let (hidId, create) ← GamepadHid.open gamepadId name
    pure (.opened hidId create)
  | .close gamepadId => do
    let msg ← GamepadHid.close gamepadId
    pure (.sent msg)
  | .event gamepadId ev => do
    let msg ← GamepadHid.event gamepadId ev
    pure (.sent msg)

def step (g : GamepadHid) (call : GamepadCall) : GamepadHid := (call.answer.run g).2

def target : GamepadCall → Option UInt32
  | .open .. => none
  | .close gamepadId | .event gamepadId _ => some gamepadId

def IsOpen (g : GamepadHid) (gamepadId : UInt32) : Prop :=
  gamepadId ≠ gamepadIdInvalid ∧ ∃ i, g.ids i = gamepadId

/-- Inputs are for open slots, and what is for a gamepad that is not open is refused. -/
structure Isolated (g : GamepadHid) (call : GamepadCall) : Prop where
  owned : ∀ input, (call.answer.run g).1 = .ok (.sent (.uhidInput input)) →
    ∃ i, slotHidId i = input.id ∧ (call.step g).ids i ≠ gamepadIdInvalid
  unknown : ∀ gamepadId, call.target = some gamepadId → ¬IsOpen g gamepadId →
    call.answer.run g = (.err (.unknownGamepad gamepadId), g)

/-- No event is for the id that marks a slot as free, while one is. -/
def Guarded (g : GamepadHid) : GamepadCall → Prop
  | .event gamepadId _ => gamepadId = gamepadIdInvalid → ∀ i, g.ids i ≠ gamepadIdInvalid
  | _ => True

theorem answer_open (g : GamepadHid) (gamepadId : UInt32) (name : Option String) :
    (gamepadId = gamepadIdInvalid ∧
        (GamepadCall.open gamepadId name).answer.run g = (.err (.unknownGamepad gamepadId), g)) ∨
      (gamepadId ≠ gamepadIdInvalid ∧ ∃ i, g.ids i = gamepadId ∧
        (GamepadCall.open gamepadId name).answer.run g =
          (.ok (.opened (slotHidId i) (buildCreate (slotHidId i) name)), g)) ∨
      (gamepadId ≠ gamepadIdInvalid ∧ (∀ i, g.ids i ≠ gamepadId) ∧ (∀ i, g.ids i ≠ gamepadIdInvalid) ∧
        (GamepadCall.open gamepadId name).answer.run g = (.err .noGamepadSlot, g)) ∨
      (gamepadId ≠ gamepadIdInvalid ∧ (∀ i, g.ids i ≠ gamepadId) ∧ ∃ i, g.freeSlot = some i ∧
        (GamepadCall.open gamepadId name).answer.run g =
          (.ok (.opened (slotHidId i) (buildCreate (slotHidId i) name)),
            g.setSlot i (.neutral gamepadId))) := by
  by_cases marker : gamepadId = gamepadIdInvalid
  · refine .inl ⟨marker, ?_⟩
    simp [answer, GamepadHid.open, marker, Method.run_bind]
  · cases found : g.findSlot gamepadId with
    | some i =>
      refine .inr (.inl ⟨marker, i, Slots.key_of_find found, ?_⟩)
      simp [answer, GamepadHid.open, marker, Method.run_bind, found]
    | none =>
      have new := Slots.find_eq_none.mp found
      cases vacant : g.freeSlot with
      | none =>
        refine .inr (.inr (.inl ⟨marker, new, Slots.find_eq_none.mp vacant, ?_⟩))
        simp [answer, GamepadHid.open, marker, Method.run_bind, found, vacant]
      | some i =>
        refine .inr (.inr (.inr ⟨marker, new, i, rfl, ?_⟩))
        simp [answer, GamepadHid.open, marker, Method.run_bind, found, vacant, GamepadSlot.neutral]

theorem answer_event (g : GamepadHid) (gamepadId : UInt32) (ev : GamepadEvent) :
    (g.findSlot gamepadId = none ∧
        (event gamepadId ev).answer.run g = (.err (.unknownGamepad gamepadId), g)) ∨
      ∃ i payload, g.findSlot gamepadId = some i ∧ (event gamepadId ev).answer.run g =
        (.ok (.sent (slotToInputMessageFromPayload (slotHidId i) payload)),
          (g.slotEvent i ev.apply).2) := by
  rcases event_run g gamepadId ev with ⟨none, run⟩ | ⟨i, payload, found, run⟩
  · exact .inl ⟨none, Method.run_bind_err run⟩
  · exact .inr ⟨i, payload, found, Method.run_bind_ok run⟩

theorem answer_close (g : GamepadHid) (gamepadId : UInt32) :
    (¬IsOpen g gamepadId ∧
        (close gamepadId).answer.run g = (.err (.unknownGamepad gamepadId), g)) ∨
      ∃ i, gamepadId ≠ gamepadIdInvalid ∧ g.ids i = gamepadId ∧ (close gamepadId).answer.run g =
        (.ok (.sent (.uhidDestroy { id := slotHidId i })),
          g.setSlot i { g.slot i with gamepadId := gamepadIdInvalid }) := by
  by_cases marker : gamepadId = gamepadIdInvalid
  · refine .inl ⟨fun opened => opened.1 marker, ?_⟩
    simp [answer, GamepadHid.close, marker, Method.run_bind]
  · cases found : g.findSlot gamepadId with
    | none =>
      refine .inl ⟨?_, ?_⟩
      · rintro ⟨_, i, bound⟩
        exact Slots.find_eq_none.mp found i bound
      · simp [answer, GamepadHid.close, marker, Method.run_bind, found]
    | some i =>
      refine .inr ⟨i, marker, Slots.key_of_find found, ?_⟩
      simp [answer, GamepadHid.close, marker, Method.run_bind, found, release]

theorem isolated_iff (g : GamepadHid) (call : GamepadCall) : Isolated g call ↔ Guarded g call := by
  cases call with
  | «open» gamepadId name =>
    refine iff_of_true ⟨?_, nofun⟩ trivial
    rcases answer_open g gamepadId name with
      ⟨_, run⟩ | ⟨_, _, _, run⟩ | ⟨_, _, _, run⟩ | ⟨_, _, _, _, run⟩ <;> simp [run]
  | close gamepadId =>
    refine iff_of_true ?_ trivial
    rcases answer_close g gamepadId with ⟨_, run⟩ | ⟨i, taken, bound, run⟩
    · exact ⟨by simp [run], fun _ named _ => by rw [run, Option.some.inj named]⟩
    · refine ⟨by simp [run], fun _ named closed => ?_⟩
      obtain rfl := Option.some.inj named
      exact absurd ⟨taken, i, bound⟩ closed
  | event gamepadId ev =>
    rcases answer_event g gamepadId ev with ⟨none, run⟩ | ⟨i, payload, found, run⟩
    · refine iff_of_true ⟨by simp [run], fun _ named _ => by rw [run, Option.some.inj named]⟩ ?_
      rintro rfl
      exact Slots.find_eq_none.mp none
    · have bound : g.ids i = gamepadId := Slots.key_of_find found
      constructor
      · rintro isolated rfl
        have refused := isolated.unknown gamepadIdInvalid rfl fun opened => opened.1 rfl
        rw [run] at refused
        cases congrArg Prod.fst refused
      · intro guarded
        have taken : gamepadId ≠ gamepadIdInvalid := fun marker =>
          guarded marker i (bound.trans marker)
        refine ⟨?_, fun _ named closed => ?_⟩
        · intro input sent
          rw [run] at sent
          cases sent
          refine ⟨i, rfl, ?_⟩
          rw [step, run, ids_slotEvent, bound]
          exact taken
        · obtain rfl := Option.some.inj named
          exact absurd ⟨taken, i, bound⟩ closed

/-- Events look for the id alone, so those for the id of the free slots reach one of them. -/
theorem events_isolated_iff (calls : List GamepadCall) :
    Run.Along step Isolated .new calls ↔ Run.Along step Guarded .new calls :=
  Run.along_congr isolated_iff .new calls

/-- On a driver without a gamepad an event for the id 0 is sent as the first slot's. -/
theorem free_slot_reports :
    ¬Run.Along step Isolated .new [.event gamepadIdInvalid (.button .south true)] := by
  rintro ⟨isolated, _⟩
  have refused := isolated.unknown gamepadIdInvalid rfl fun opened => opened.1 rfl
  cases congrArg Prod.fst refused

end GamepadCall
end HidConnect

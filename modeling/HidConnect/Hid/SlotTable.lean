import HidConnect.Hid.Slots

/-! What a caller knows of the gamepads it opened, and the slots behind it. -/
namespace HidConnect
open Fallible

/-- The calls of a caller, and those that a session makes by slot. -/
inductive SlotCall where
  | byId (call : GamepadCall)
  | closeSlotIdx (slotIdx : SlotIdx)
  | slotEvent (slotIdx : SlotIdx) (ev : GamepadEvent)

/-- The driver, and the HID id that was answered for each gamepad opened since. -/
structure GamepadTable where
  hid : GamepadHid
  opened : AList fun _ : UInt32 => UInt16

namespace SlotCall
open GamepadHid

def answer : SlotCall → Method Error GamepadHid (Option GamepadAnswer)
  | byId call => do
    let out ← call.answer
    pure (some out)
  | closeSlotIdx i => do
    let msg ← GamepadHid.closeSlotIdx i
    pure (some (.sent msg))
  | slotEvent i ev => do
    let (report, g) := (← .read).slotEvent i ev.apply
    .update fun _ => g
    pure (report.map fun (hidId, payload) => .sent (slotToInputMessageFromPayload hidId payload))

def opens : SlotCall → Option UInt32
  | byId (.open gamepadId _) => some gamepadId
  | _ => none

def closes (g : GamepadHid) : SlotCall → Option UInt32
  | byId (.close gamepadId) => some gamepadId
  | closeSlotIdx i => some (g.ids i)
  | _ => none

def note (t : GamepadTable) (call : SlotCall) : AList fun _ : UInt32 => UInt16 :=
  match (call.answer.run t.hid).1, call.opens, call.closes t.hid with
  | .ok (some (.opened hidId _)), some gamepadId, _ => t.opened.insert gamepadId hidId
  | .ok _, _, some gamepadId => t.opened.erase gamepadId
  | _, _, _ => t.opened

def step (t : GamepadTable) (call : SlotCall) : GamepadTable :=
  { hid := (call.answer.run t.hid).2, opened := note t call }

theorem closeSlotIdx_run (g : GamepadHid) (i : SlotIdx) :
    (g.ids i = gamepadIdInvalid ∧ (GamepadHid.closeSlotIdx i).run g = (.err (.unknownGamepad 0), g)) ∨
      (g.ids i ≠ gamepadIdInvalid ∧ (GamepadHid.closeSlotIdx i).run g =
        (.ok (.uhidDestroy { id := slotHidId i }),
          g.setSlot i { g.slot i with gamepadId := gamepadIdInvalid })) := by
  by_cases vacant : g.ids i = gamepadIdInvalid
  · have free : (g.slot i).isFree = true := decide_eq_true vacant
    refine .inl ⟨vacant, ?_⟩
    rw [GamepadHid.closeSlotIdx, Method.run_read_bind, if_pos free, Method.run_fail]
  · have taken : ¬(g.slot i).isFree = true := fun free => vacant (of_decide_eq_true free)
    refine .inr ⟨vacant, ?_⟩
    rw [GamepadHid.closeSlotIdx, Method.run_read_bind, if_neg taken, release, Method.run_update_bind,
      Method.run_pure]

theorem none_closed {call : SlotCall} {g : GamepadHid} (none : call.closes g = none) (gamepadId : UInt32)
    (closed : call.closes g = some gamepadId) :
    gamepadId = gamepadIdInvalid ∨ ∀ i, g.ids i ≠ gamepadId := by
  simp [none] at closed

theorem step_cases (t : GamepadTable) (call : SlotCall) :
    ((call.step t).hid.ids = t.hid.ids ∧ (call.step t).opened = t.opened ∧
        ∀ gamepadId, call.closes t.hid = some gamepadId →
          gamepadId = gamepadIdInvalid ∨ ∀ i, t.hid.ids i ≠ gamepadId) ∨
      (∃ i, t.hid.ids i ≠ gamepadIdInvalid ∧ call.closes t.hid = none ∧
        (call.step t).hid.ids = t.hid.ids ∧
        (call.step t).opened = t.opened.insert (t.hid.ids i) (slotHidId i)) ∨
      (∃ gamepadId i, gamepadId ≠ gamepadIdInvalid ∧ (∀ j, t.hid.ids j ≠ gamepadId) ∧
        t.hid.freeSlot = some i ∧ call.closes t.hid = none ∧
        (call.step t).hid.ids = Function.update t.hid.ids i gamepadId ∧
        (call.step t).opened = t.opened.insert gamepadId (slotHidId i)) ∨
      ∃ i, t.hid.ids i ≠ gamepadIdInvalid ∧ call.closes t.hid = some (t.hid.ids i) ∧
        (call.step t).hid.ids = Function.update t.hid.ids i gamepadIdInvalid ∧
        (call.step t).opened = t.opened.erase (t.hid.ids i) := by
  cases call with
  | byId call =>
    cases call with
    | «open» gamepadId name =>
      rcases GamepadCall.answer_open t.hid gamepadId name with
        ⟨_, run⟩ | ⟨taken, i, bound, run⟩ | ⟨_, _, _, run⟩ | ⟨taken, new, i, vacant, run⟩
      · refine .inl ⟨?_, ?_, none_closed rfl⟩ <;> simp [step, note, answer, Method.run_bind, run]
      · subst bound
        refine .inr (.inl ⟨i, taken, rfl, ?_, ?_⟩) <;>
          simp [step, note, answer, opens, Method.run_bind, run]
      · refine .inl ⟨?_, ?_, none_closed rfl⟩ <;> simp [step, note, answer, Method.run_bind, run]
      · refine .inr (.inr (.inl ⟨gamepadId, i, taken, new, vacant, rfl, ?_, ?_⟩)) <;>
          simp [step, note, answer, opens, Method.run_bind, run, ids_setSlot, GamepadSlot.neutral]
    | close gamepadId =>
      rcases GamepadCall.answer_close t.hid gamepadId with ⟨shut, run⟩ | ⟨i, taken, bound, run⟩
      · refine .inl ⟨?_, ?_, ?_⟩
        · simp [step, answer, Method.run_bind, run]
        · simp [step, note, answer, Method.run_bind, run]
        · rintro _ ⟨rfl⟩
          by_cases marker : gamepadId = gamepadIdInvalid
          · exact .inl marker
          · exact .inr fun i bound => shut ⟨marker, i, bound⟩
      · subst bound
        refine .inr (.inr (.inr ⟨i, taken, rfl, ?_, ?_⟩)) <;>
          simp [step, note, answer, opens, closes, Method.run_bind, run, ids_setSlot]
    | event gamepadId ev =>
      rcases GamepadCall.answer_event t.hid gamepadId ev with ⟨_, run⟩ | ⟨i, payload, _, run⟩
      · refine .inl ⟨?_, ?_, none_closed rfl⟩ <;> simp [step, note, answer, Method.run_bind, run]
      · refine .inl ⟨?_, ?_, none_closed rfl⟩ <;>
          simp [step, note, answer, opens, closes, Method.run_bind, run, ids_slotEvent]
  | closeSlotIdx i =>
    rcases closeSlotIdx_run t.hid i with ⟨vacant, run⟩ | ⟨taken, run⟩
    · refine .inl ⟨?_, ?_, ?_⟩
      · simp [step, answer, Method.run_bind, run]
      · simp [step, note, answer, Method.run_bind, run]
      · rintro _ ⟨rfl⟩
        exact .inl vacant
    · refine .inr (.inr (.inr ⟨i, taken, rfl, ?_, ?_⟩)) <;>
        simp [step, note, answer, opens, closes, Method.run_bind, run, ids_setSlot]
  | slotEvent i ev =>
    have kept := ids_slotEvent t.hid i ev
    refine .inl ⟨?_, ?_, none_closed rfl⟩
    · simpa [step, answer, Method.run_bind] using kept
    · cases reported : (t.hid.slotEvent i ev.apply).1 <;>
        simp [step, note, answer, closes, Method.run_bind, reported]

end SlotCall

namespace GamepadTable
open GamepadHid SlotCall

def start : GamepadTable := { hid := .new, opened := ∅ }

/-- The slots in use are those of the open gamepads, one each. -/
structure Orderly (t : GamepadTable) : Prop where
  distinct : Slots.Apart gamepadIdInvalid t.hid.ids
  listed : ∀ gamepadId hidId, t.opened.lookup gamepadId = some hidId ↔
    gamepadId ≠ gamepadIdInvalid ∧ ∃ i, slotHidId i = hidId ∧ t.hid.ids i = gamepadId
  inRange : ∀ gamepadId hidId, t.opened.lookup gamepadId = some hidId →
    3 ≤ hidId.toNat ∧ hidId.toNat ≤ 10
  unshared : ∀ one other hidId, t.opened.lookup one = some hidId →
    t.opened.lookup other = some hidId → one = other
  counted : t.hid.activeCount = t.opened.keys.length

structure Steady (t : GamepadTable) (call : SlotCall) : Prop where
  kept : ∀ gamepadId hidId, t.opened.lookup gamepadId = some hidId →
    call.closes t.hid ≠ some gamepadId → (call.step t).opened.lookup gamepadId = some hidId
  closed : ∀ gamepadId, call.closes t.hid = some gamepadId → gamepadId ∉ (call.step t).opened
  again : ∀ gamepadId name hidId, call = .byId (.open gamepadId name) →
    t.opened.lookup gamepadId = some hidId →
      call.answer.run t.hid = (.ok (some (.opened hidId (buildCreate hidId name))), t.hid)
  refused : ∀ gamepadId name, call = .byId (.open gamepadId name) →
    gamepadId ≠ gamepadIdInvalid → gamepadId ∉ t.opened → t.opened.keys.length = 8 →
      call.answer.run t.hid = (.err .noGamepadSlot, t.hid)
  fresh : ∀ gamepadId name, call = .byId (.open gamepadId name) →
    gamepadId ≠ gamepadIdInvalid → gamepadId ∉ t.opened → t.opened.keys.length ≠ 8 →
      ∃ i, (call.step t).opened.lookup gamepadId = some (slotHidId i) ∧
        (call.step t).hid.slot i = .neutral gamepadId ∧ call.answer.run t.hid =
          (.ok (some (.opened (slotHidId i) (buildCreate (slotHidId i) name))), (call.step t).hid)

def Right (t : GamepadTable) : Prop := Slots.Holds gamepadIdInvalid slotHidId t.hid.ids t.opened

theorem right_start : Right start := by
  have free : start.hid.ids = fun _ => gamepadIdInvalid := by
    funext i
    revert i
    decide
  rw [Right, free]
  exact Slots.holds_free

theorem Right.step {t : GamepadTable} (h : Right t) (call : SlotCall) : Right (call.step t) := by
  unfold Right at h ⊢
  rcases step_cases t call with ⟨ids, opened, _⟩ | ⟨i, taken, _, ids, opened⟩ |
    ⟨_, i, taken, new, vacant, _, ids, opened⟩ | ⟨i, taken, _, ids, opened⟩
  · rwa [ids, opened]
  · rw [ids, opened]
    exact h.insert taken
  · rw [ids, opened]
    exact h.bind taken new (Slots.key_of_find vacant)
  · rw [ids, opened]
    exact h.release (fun _ _ => slotHidId_injective) taken

theorem activeCount_eq (g : GamepadHid) : g.activeCount = Slots.used gamepadIdInvalid g.ids := by
  have each : g.slots.toList = (List.finRange maxGamepads).map g.slot := by
    apply List.ext_getElem
    · simp
    · intro i _ _
      simp [slot]
  rw [activeCount, each, List.filter_map, List.length_map, Slots.used]
  congr 2
  funext i
  exact (decide_not (p := g.ids i = gamepadIdInvalid)).symm

theorem Right.orderly {t : GamepadTable} (h : Right t) : Orderly t where
  distinct := h.apart fun _ _ => slotHidId_injective
  listed := h
  inRange := by
    intro gamepadId hidId found
    obtain ⟨_, i, rfl, _⟩ := (h gamepadId hidId).mp found
    rw [slotHidId_toNat]
    have := i.isLt
    unfold maxGamepads at this
    omega
  unshared := by
    intro one other hidId found found'
    obtain ⟨_, i, name, bound⟩ := (h one hidId).mp found
    obtain ⟨_, j, name', bound'⟩ := (h other hidId).mp found'
    rw [← bound, ← bound', slotHidId_injective (name.trans name'.symm)]
  counted := (activeCount_eq t.hid).trans
    ((h.apart fun _ _ => slotHidId_injective).used_eq t.opened h.mem)

theorem Right.listed_again {t : GamepadTable} (h : Right t) {call : SlotCall} {gamepadId : UInt32}
    {hidId : UInt16} (found : t.opened.lookup gamepadId = some hidId)
    (stays : call.closes t.hid ≠ some gamepadId) :
    (call.step t).opened.lookup gamepadId = some hidId := by
  obtain ⟨known, i, name, bound⟩ := (h gamepadId hidId).mp found
  rcases step_cases t call with ⟨_, opened, _⟩ | ⟨j, taken, _, _, opened⟩ |
    ⟨other, j, taken, new, _, _, _, opened⟩ | ⟨j, _, closes, _, opened⟩
  · rwa [opened]
  · rw [opened]
    exact ((h.insert taken) gamepadId hidId).mpr ⟨known, i, name, bound⟩
  · have apart : gamepadId ≠ other := fun same => new i (bound.trans same)
    rwa [opened, AList.lookup_insert_ne apart]
  · have apart : gamepadId ≠ t.hid.ids j := fun same => stays (closes.trans (same ▸ rfl))
    rwa [opened, AList.lookup_erase_ne apart]

theorem Right.not_listed {t : GamepadTable} (h : Right t) {gamepadId : UInt32}
    (none : gamepadId = gamepadIdInvalid ∨ ∀ i, t.hid.ids i ≠ gamepadId) : gamepadId ∉ t.opened := by
  rw [h.mem]
  rintro ⟨taken, i, bound⟩
  rcases none with marker | new
  · exact taken marker
  · exact new i bound

theorem Right.closed_unlisted {t : GamepadTable} (h : Right t) {call : SlotCall} {gamepadId : UInt32}
    (named : call.closes t.hid = some gamepadId) : gamepadId ∉ (call.step t).opened := by
  rcases step_cases t call with ⟨_, opened, shut⟩ | ⟨_, _, other, _⟩ |
    ⟨_, _, _, _, _, other, _⟩ | ⟨i, _, closes, _, opened⟩
  · rw [opened]
    exact h.not_listed (shut gamepadId named)
  · rw [named] at other
    cases other
  · rw [named] at other
    cases other
  · rw [closes] at named
    obtain rfl := Option.some.inj named
    rw [opened, AList.mem_erase]
    exact fun still => still.1 rfl

/-- Opening an id that is not the marker, by what the list says of it. -/
theorem Right.opening {t : GamepadTable} (h : Right t) {gamepadId : UInt32} (name : Option String)
    (taken : gamepadId ≠ gamepadIdInvalid) :
    let opening := (SlotCall.byId (.open gamepadId name)).answer.run t.hid
    (∃ i, t.opened.lookup gamepadId = some (slotHidId i) ∧ opening =
        (.ok (some (.opened (slotHidId i) (buildCreate (slotHidId i) name))), t.hid)) ∨
      (gamepadId ∉ t.opened ∧ t.opened.keys.length = 8 ∧ opening = (.err .noGamepadSlot, t.hid)) ∨
      (gamepadId ∉ t.opened ∧ t.opened.keys.length ≠ 8 ∧ ∃ i, opening =
        (.ok (some (.opened (slotHidId i) (buildCreate (slotHidId i) name))),
          t.hid.setSlot i (.neutral gamepadId))) := by
  intro opening
  have used : Slots.used gamepadIdInvalid t.hid.ids = t.opened.keys.length := by
    rw [← activeCount_eq, h.orderly.counted]
  have full_iff : t.opened.keys.length = 8 ↔ ∀ i, t.hid.ids i ≠ gamepadIdInvalid := by
    rw [← used]
    exact Slots.used_eq_iff
  rcases GamepadCall.answer_open t.hid gamepadId name with
    ⟨marker, _⟩ | ⟨_, i, bound, run⟩ | ⟨_, new, full, run⟩ | ⟨_, new, i, vacant, run⟩
  · exact absurd marker taken
  · exact .inl ⟨i, (h gamepadId _).mpr ⟨taken, i, rfl, bound⟩, Method.run_bind_ok run⟩
  · exact .inr (.inl ⟨h.not_listed (.inr new), full_iff.mpr full, Method.run_bind_err run⟩)
  · refine .inr (.inr ⟨h.not_listed (.inr new), fun full => ?_, i, Method.run_bind_ok run⟩)
    exact full_iff.mp full i (Slots.key_of_find vacant)

theorem listed_of_lookup {t : GamepadTable} {gamepadId : UInt32} {hidId : UInt16}
    (found : t.opened.lookup gamepadId = some hidId) : gamepadId ∈ t.opened := by
  rw [← AList.lookup_isSome, found, Option.isSome_some]

theorem Right.steady {t : GamepadTable} (h : Right t) (call : SlotCall) : Steady t call where
  kept _ _ found stays := h.listed_again found stays
  closed _ named := h.closed_unlisted named
  again := by
    rintro gamepadId name hidId rfl found
    have taken := ((h gamepadId hidId).mp found).1
    rcases h.opening name taken with ⟨i, found', run⟩ | ⟨new, _⟩ | ⟨new, _⟩
    · obtain rfl := Option.some.inj (found.symm.trans found')
      exact run
    · exact absurd (listed_of_lookup found) new
    · exact absurd (listed_of_lookup found) new
  refused := by
    rintro gamepadId name rfl taken new full
    rcases h.opening name taken with ⟨_, found, _⟩ | ⟨_, _, run⟩ | ⟨_, room, _⟩
    · exact absurd (listed_of_lookup found) new
    · exact run
    · exact absurd full room
  fresh := by
    rintro gamepadId name rfl taken new room
    rcases h.opening name taken with ⟨_, found, _⟩ | ⟨_, full, _⟩ | ⟨_, _, i, run⟩
    · exact absurd (listed_of_lookup found) new
    · exact absurd full room
    · have next : (SlotCall.step t (.byId (.open gamepadId name))).hid =
          t.hid.setSlot i (.neutral gamepadId) := by
        simp [SlotCall.step, run]
      refine ⟨i, ?_, ?_, ?_⟩
      · simp [SlotCall.step, note, opens, run]
      · rw [next, slot_setSlot, if_pos rfl]
      · rw [next, run]

/-- After any calls the table is in order, and the next call leaves alone what it does not close. -/
theorem table_in_order (calls : List SlotCall) :
    Orderly (Run.after SlotCall.step start calls) ∧
      ∀ call, Steady (Run.after SlotCall.step start calls) call := by
  have right := Run.preserved Right (fun _ call h => h.step call) right_start calls
  exact ⟨right.orderly, right.steady⟩

end GamepadTable
end HidConnect

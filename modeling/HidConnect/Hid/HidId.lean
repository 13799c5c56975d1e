import HidConnect.Hid.SlotTable

/-! The HID id that the gamepad driver gives as its own. -/
namespace HidConnect

theorem maxGamepads_pos : 0 < maxGamepads := by decide

def firstSlot : SlotIdx := ⟨0, maxGamepads_pos⟩

theorem firstSlot_lt {i : SlotIdx} (other : i ≠ firstSlot) : firstSlot < i :=
  Nat.pos_of_ne_zero fun zero => other (Fin.ext zero)

namespace GamepadHid

def hidId (g : GamepadHid) : UInt16 :=
  ((g.slots.toList.find? fun s => !s.isFree).map fun _ => slotHidId firstSlot).getD 0

def Vacant (g : GamepadHid) : Prop := ∀ i, g.ids i = gamepadIdInvalid

instance (g : GamepadHid) : Decidable g.Vacant :=
  inferInstanceAs (Decidable (∀ i, g.ids i = gamepadIdInvalid))

/-- The driver names the lowest slot that is open, and 0 where none is. -/
structure NamesLowest (g : GamepadHid) : Prop where
  lowest : ∀ i, g.ids i ≠ gamepadIdInvalid → (∀ j < i, g.ids j = gamepadIdInvalid) →
    g.hidId = slotHidId i
  none : g.Vacant → g.hidId = 0

/-- The first slot is open if any is. -/
def Anchored (g : GamepadHid) : Prop := g.ids firstSlot ≠ gamepadIdInvalid ∨ g.Vacant

theorem isFree_iff (g : GamepadHid) (i : SlotIdx) :
    (g.slot i).isFree = true ↔ g.ids i = gamepadIdInvalid := decide_eq_true_iff

/-- It is the first slot's as soon as any slot is open. -/
theorem hidId_cases (g : GamepadHid) :
    g.Vacant ∧ g.hidId = 0 ∨ (∃ i, g.ids i ≠ gamepadIdInvalid) ∧ g.hidId = slotHidId firstSlot := by
  unfold hidId
  cases found : g.slots.toList.find? fun s => !s.isFree with
  | none =>
    refine .inl ⟨fun i => (g.isFree_iff i).mp ?_, rfl⟩
    have free := List.find?_eq_none.mp found (g.slot i) (by simp [slot])
    simpa using free
  | some s =>
    refine .inr ⟨?_, rfl⟩
    have taken := List.find?_some found
    obtain ⟨n, bound, rfl⟩ := List.getElem_of_mem (List.mem_of_find?_eq_some found)
    rw [Vector.length_toList] at bound
    refine ⟨⟨n, bound⟩, fun free => ?_⟩
    have isFree := (g.isFree_iff ⟨n, bound⟩).mpr free
    simp [slot] at isFree
    simp [isFree] at taken

theorem namesLowest_iff (g : GamepadHid) : NamesLowest g ↔ g.Anchored := by
  rcases g.hidId_cases with ⟨vacant, same⟩ | ⟨⟨i, taken⟩, same⟩
  · exact iff_of_true ⟨fun i taken => absurd (vacant i) taken, fun _ => same⟩ (.inr vacant)
  · have busy : ¬g.Vacant := fun vacant => taken (vacant i)
    constructor
    · intro names
      obtain ⟨first, bound, least⟩ := Slots.exists_lowest taken
      obtain rfl := slotHidId_injective (same.symm.trans (names.lowest first bound least))
      exact .inl bound
    · rintro (first | vacant)
      · refine ⟨fun j _ below => ?_, fun vacant => absurd vacant busy⟩
        by_cases here : j = firstSlot
        · rw [here, same]
        · exact absurd (below firstSlot (firstSlot_lt here)) first
      · exact absurd vacant busy

end GamepadHid

namespace GamepadTable
open GamepadHid
variable {t : GamepadTable}

/-- The call does not close the gamepad in the first slot while another slot is open. -/
def Keeps (t : GamepadTable) (call : SlotCall) : Prop :=
  t.hid.ids firstSlot ≠ gamepadIdInvalid → call.closes t.hid = some (t.hid.ids firstSlot) →
    ∀ i ≠ firstSlot, t.hid.ids i = gamepadIdInvalid

theorem anchored_step (anchored : t.hid.Anchored) {call : SlotCall}
    (keeps : Keeps t call) : (call.step t).hid.Anchored := by
  unfold Anchored Vacant at anchored ⊢
  rcases SlotCall.step_cases t call with ⟨ids, -⟩ | ⟨i, -, -, ids, -⟩ |
    ⟨gamepadId, i, taken, -, vacant, -, ids, -⟩ | ⟨i, taken, closes, ids, -⟩
  · rwa [ids]
  · rwa [ids]
  · rw [ids]
    left
    by_cases here : i = firstSlot
    · rw [here, Function.update_self]
      exact taken
    · rw [Function.update_of_ne (Ne.symm here)]
      intro free
      -- then the first slot would have been the one to take
      exact Slots.lower_of_find vacant firstSlot (firstSlot_lt here) free
  · rw [ids]
    by_cases here : i = firstSlot
    · subst here
      right
      intro j
      rw [Function.update_apply]
      split
      case isTrue => rfl
      case isFalse other => exact keeps taken closes j other
    · left
      rw [Function.update_of_ne (Ne.symm here)]
      rcases anchored with first | vacant
      · exact first
      · exact absurd (vacant i) taken

theorem not_anchored_step (right : Right t) {call : SlotCall} (drifts : ¬Keeps t call) :
    ¬(call.step t).hid.Anchored := by
  simp only [Keeps, Classical.not_imp, not_forall] at drifts
  obtain ⟨first, closes, i, other, taken⟩ := drifts
  rcases SlotCall.step_cases t call with ⟨-, -, shut⟩ | ⟨-, -, none, -⟩ |
    ⟨-, -, -, -, -, none, -⟩ | ⟨j, -, closes', ids, -⟩
  · rcases shut _ closes with free | new
    · exact absurd free first
    · exact absurd rfl (new firstSlot)
  · rw [closes] at none
    cases none
  · rw [closes] at none
    cases none
  · have same : t.hid.ids firstSlot = t.hid.ids j := Option.some.inj (closes.symm.trans closes')
    obtain rfl := right.orderly.distinct firstSlot j first same
    rintro (still | vacant)
    · rw [ids, Function.update_self] at still
      exact still rfl
    · have free := vacant i
      rw [ids, Function.update_of_ne other] at free
      exact taken free

/-- After any calls the driver names its lowest open slot exactly if that is the first one, and it does
so all along exactly if no call closes the first slot while another one is open. -/
theorem hid_id_lowest_iff (calls : List SlotCall) :
    (NamesLowest (Run.after SlotCall.step start calls).hid ↔
      Anchored (Run.after SlotCall.step start calls).hid) ∧
    ((∀ n, NamesLowest (Run.after SlotCall.step start (calls.take n)).hid) ↔
      Run.Along SlotCall.step Keeps start calls) := by
  refine ⟨namesLowest_iff _, ?_⟩
  refine Run.always_iff (fun t => Right t ∧ t.hid.Anchored) (fun t => NamesLowest t.hid)
    ?_ ?_ ?_ ⟨right_start, ?_⟩ calls
  · exact fun t h => (namesLowest_iff t.hid).mpr h.2
  · exact fun t call h keeps => ⟨h.1.step call, anchored_step h.2 keeps⟩
  · exact fun t call h drifts names =>
      not_anchored_step h.1 drifts ((namesLowest_iff _).mp names)
  · right
    decide

/-- Two gamepads, of which the first one is closed. -/
def secondLeft : List SlotCall := [.byId (.open 7 none), .byId (.open 9 none), .byId (.close 7)]

/-- The second slot is open, and the driver names the first one. -/
theorem closed_slot_is_named :
    let g := (Run.after SlotCall.step start secondLeft).hid
    g.hidId = slotHidId firstSlot ∧ g.ids firstSlot = gamepadIdInvalid ∧ ¬NamesLowest g := by
  intro g
  have free : g.ids firstSlot = gamepadIdInvalid := by decide +kernel
  have taken : g.ids 1 ≠ gamepadIdInvalid := by decide +kernel
  refine ⟨by decide +kernel, free, fun names => ?_⟩
  rcases (namesLowest_iff g).mp names with first | vacant
  · exact first free
  · exact taken (vacant 1)

end GamepadTable
end HidConnect

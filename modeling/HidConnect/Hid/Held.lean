import HidConnect.Hid.Keyboard
import HidConnect.Library.Run
import Mathlib.Data.Finset.Sort

/-! The keyboard as the set of the keys it holds: its reports say what is in the set, and nothing of
how it came there. -/
namespace HidConnect
open Fallible

structure KeyPress where
  scancode : UInt8
  pressed : Bool
  modifiers : Modifiers

/-- The held keys after an event; a modifier is not one of them. -/
def KeyPress.hold (held : Finset Nat) (p : KeyPress) : Finset Nat :=
  if p.scancode.toNat < 0x66 then
    if p.pressed then insert p.scancode.toNat held else held.erase p.scancode.toNat
  else held

/-- The held keys in ascending order, or the roll-over code in every slot if they do not fit. -/
def keySlots (held : Finset Nat) : List UInt8 :=
  if held.card ≤ keyboardMaxKeys then
    held.sort.map Nat.toUInt8 ++ List.replicate (keyboardMaxKeys - held.card) 0
  else List.replicate keyboardMaxKeys scHidErrorRollOver

def heldReport (held : Finset Nat) (modifiers : Modifiers) : HidReport :=
  .new hidIdKeyboard ([modifiers.bits, 0] ++ keySlots held)

namespace KeyboardHid

def held (k : KeyboardHid) : Finset Nat := k.heldScancodes.toFinset

theorem mem_heldScancodes {k : KeyboardHid} {n : Nat} :
    n ∈ k.heldScancodes ↔ n < 0x66 ∧ k.keys.toList.getD n false = true := by
  simp [heldScancodes]

theorem mem_held {k : KeyboardHid} {n : Nat} :
    n ∈ k.held ↔ n < 0x66 ∧ k.keys.toList.getD n false = true := by
  rw [held, List.mem_toFinset, mem_heldScancodes]

theorem sort_held (k : KeyboardHid) : k.held.sort = k.heldScancodes := by
  have ascending : k.heldScancodes.Pairwise (· < ·) := List.pairwise_lt_range.filter _
  have apart : k.heldScancodes.Nodup := ascending.imp Nat.ne_of_lt
  exact (List.toFinset_sort (· ≤ ·) apart).mpr (ascending.imp Nat.le_of_lt)

theorem card_held (k : KeyboardHid) : k.held.card = k.heldScancodes.length := by
  rw [← sort_held, Finset.length_sort]

theorem held_new : new.held = ∅ := by
  ext n
  have off : new.keys.toList.getD n false = false := by
    rw [new, Vector.toList_replicate, List.getD_eq_getElem?_getD, List.getElem?_replicate]
    split <;> rfl
  rw [mem_held, off]
  simp

theorem fillSlots_eq (mods : UInt8) (filled : List UInt8) (rest : List Nat)
    (room : filled.length ≤ keyboardMaxKeys) :
    fillSlots mods filled rest = if filled.length + rest.length ≤ keyboardMaxKeys then
      [mods, 0] ++ (filled ++ rest.map Nat.toUInt8 ++
        List.replicate (keyboardMaxKeys - (filled.length + rest.length)) 0)
      else [mods, 0] ++ List.replicate keyboardMaxKeys scHidErrorRollOver := by
  induction rest generalizing filled with
  | nil =>
    rw [fillSlots]
    simp [room]
  | cons sc rest ih =>
    rw [fillSlots]
    by_cases full : filled.length ≥ keyboardMaxKeys
    · have tooMany : ¬filled.length + (sc :: rest).length ≤ keyboardMaxKeys := by
        rw [List.length_cons]
        omega
      rw [if_pos full, if_neg tooMany]
    · have next : (filled ++ [sc.toUInt8]).length + rest.length =
          filled.length + (sc :: rest).length := by
        simp only [List.length_append, List.length_cons, List.length_nil]
        omega
      have room' : (filled ++ [sc.toUInt8]).length ≤ keyboardMaxKeys := by
        simp only [List.length_append, List.length_cons, List.length_nil]
        omega
      rw [if_neg full, ih (filled ++ [sc.toUInt8]) room', next, List.map_cons, List.append_assoc,
        List.append_assoc, List.append_assoc, List.singleton_append]
      rfl

/-- The bytes of a report: the modifiers, a reserved one, and the slots. -/
theorem fillSlots_held (k : KeyboardHid) (modifiers : Modifiers) :
    fillSlots modifiers.bits [] k.heldScancodes = [modifiers.bits, 0] ++ keySlots k.held := by
  rw [keySlots, sort_held, card_held, fillSlots_eq modifiers.bits [] k.heldScancodes (Nat.zero_le _)]
  simp only [List.length_nil, Nat.zero_add, List.nil_append]
  split <;> rfl

theorem buildReport_eq (k : KeyboardHid) (modifiers : Modifiers) :
    k.buildReport modifiers = heldReport k.held modifiers := by
  rw [buildReport, fillSlots_held, heldReport]

/-- What an accepted event makes of the keyboard. -/
def after (k : KeyboardHid) (p : KeyPress) : KeyboardHid :=
  { (if h : p.scancode.toNat < 0x66 then { k with keys := k.keys.set p.scancode.toNat p.pressed }
      else k) with deviceMod := p.modifiers }

theorem held_after (k : KeyboardHid) (p : KeyPress) : (k.after p).held = p.hold k.held := by
  ext n
  unfold after KeyPress.hold
  by_cases key : p.scancode.toNat < 0x66
  · rw [dif_pos key, if_pos key, mem_held]
    have set : (k.keys.set p.scancode.toNat p.pressed).toList.getD n false =
        if p.scancode.toNat = n then p.pressed else k.keys.toList.getD n false := by
      by_cases same : p.scancode.toNat = n
      · subst same
        simp [key]
      · simp [same]
    rw [set]
    by_cases same : p.scancode.toNat = n
    · subst same
      cases p.pressed <;> simp [key]
    · have other : n ≠ p.scancode.toNat := fun eq => same eq.symm
      cases p.pressed <;> simp [same, other, mem_held]
  · rw [dif_neg key, if_neg key, mem_held, mem_held]

/-- An event reports the held keys and its own modifiers, or fails and changes nothing. -/
theorem injectKey_run (k : KeyboardHid) (p : KeyPress) :
    (injectKey p.scancode p.pressed p.modifiers).run k = if accepts p.scancode then
      (.ok (heldReport (p.hold k.held) p.modifiers), k.after p)
      else (.err (.scancodeOutOfRange p.scancode.toUInt16), k) := by
  cases valid : accepts p.scancode with
  | false => simp [injectKey, setKey, valid, Method.run_bind]
  | true =>
    rw [← held_after, ← buildReport_eq]
    simp [injectKey, setKey, valid, Method.run_bind, after]

def press (k : KeyboardHid) (p : KeyPress) : KeyboardHid :=
  ((injectKey p.scancode p.pressed p.modifiers).run k).2

def heldAfter (presses : List KeyPress) : Finset Nat :=
  presses.foldl (fun held p => if accepts p.scancode then p.hold held else held) ∅

theorem held_run (presses : List KeyPress) : (Run.after press new presses).held = heldAfter presses := by
  have run (k : KeyboardHid) : (Run.after press k presses).held =
      presses.foldl (fun held p => if accepts p.scancode then p.hold held else held) k.held := by
    induction presses generalizing k with
    | nil => rfl
    | cons p rest ih =>
      rw [Run.after, ih, List.foldl_cons, press, injectKey_run]
      split
      · rw [held_after]
      · rfl
  rw [run, held_new, heldAfter]

/-- After any events, a report says which keys are held and nothing else of what came before. -/
theorem report_of_held (presses : List KeyPress) (p : KeyPress) :
    (accepts p.scancode = true → ((injectKey p.scancode p.pressed p.modifiers).run
        (Run.after press new presses)).1 =
          .ok (heldReport (heldAfter (presses ++ [p])) p.modifiers)) ∧
      (accepts p.scancode = false → (injectKey p.scancode p.pressed p.modifiers).run
        (Run.after press new presses) =
          (.err (.scancodeOutOfRange p.scancode.toUInt16), Run.after press new presses)) ∧
      ∀ others, heldAfter others = heldAfter presses →
        ((injectKey p.scancode p.pressed p.modifiers).run (Run.after press new others)).1 =
          ((injectKey p.scancode p.pressed p.modifiers).run (Run.after press new presses)).1 := by
  constructor
  · intro valid
    have next : heldAfter (presses ++ [p]) = p.hold (heldAfter presses) := by
      simp [heldAfter, List.foldl_append, valid]
    rw [injectKey_run, valid, if_pos rfl, held_run, next]
  constructor
  · intro valid
    rw [injectKey_run, valid, if_neg Bool.false_ne_true]
  · intro others same
    rw [injectKey_run, injectKey_run, held_run, held_run, same]
    split <;> rfl

end KeyboardHid

end HidConnect

import HidConnect.Hid.Gamepad

/-! The single-producer single-consumer ring of gamepad frames, and the queue it stands for. -/
namespace HidConnect

def ringCapacity : Nat := 8

/-- The slot that a counter points to. -/
def slotOf (counter : UInt64) (k : Nat) : Fin ringCapacity :=
  ⟨(counter.toNat + k) % ringCapacity, Nat.mod_lt _ (by decide)⟩

/-- `head` and `tail` count pushes and pops and wrap around. A slot is `none` until it was first
written; those between `tail` and `head` have been. -/
structure GamepadFrameRing where
  head : UInt64
  tail : UInt64
  slots : Vector (Option GamepadFrameRaw) ringCapacity
  few : (head - tail).toNat ≤ ringCapacity
  written : ∀ k < (head - tail).toNat, (slots.get (slotOf tail k)).isSome = true

theorem slotOf_ne (tail : UInt64) {j k : Nat} (less : j < k) (near : k < j + ringCapacity) :
    slotOf tail j ≠ slotOf tail k := by
  intro same
  have index := congrArg Fin.val same
  simp only [slotOf, ringCapacity] at index near
  omega

theorem slotOf_zero (counter : UInt64) {tail : UInt64} {n : Nat} (h : (counter - tail).toNat = n) :
    slotOf counter 0 = slotOf tail n := by
  have wrap := UInt64.toNat_sub counter tail
  have small := counter.toNat_lt
  have small' := tail.toNat_lt
  apply Fin.ext
  simp only [slotOf, ringCapacity]
  omega

theorem slotOf_succ (counter : UInt64) (k : Nat) : slotOf (counter + 1) k = slotOf counter (k + 1) := by
  have wrap := UInt64.toNat_add counter 1
  have one : (1 : UInt64).toNat = 1 := rfl
  apply Fin.ext
  simp only [slotOf, ringCapacity]
  omega

theorem used_push {head tail : UInt64} (room : (head - tail).toNat < ringCapacity) :
    (head + 1 - tail).toNat = (head - tail).toNat + 1 := by
  have one : (1 : UInt64).toNat = 1 := rfl
  simp only [UInt64.toNat_sub, UInt64.toNat_add, ringCapacity, one] at room ⊢
  omega

theorem used_pop {head tail : UInt64} (full : head ≠ tail) :
    (head - tail).toNat = (head - (tail + 1)).toNat + 1 := by
  have one : (1 : UInt64).toNat = 1 := rfl
  have apart : head.toNat ≠ tail.toNat := fun same => full (UInt64.toNat_inj.mp same)
  have small := head.toNat_lt
  have small' := tail.toNat_lt
  simp only [UInt64.toNat_sub, UInt64.toNat_add, one]
  omega

namespace GamepadFrameRing

def new : GamepadFrameRing where
  head := 0
  tail := 0
  slots := Vector.replicate ringCapacity none
  few := by decide
  written := by decide

theorem get_write (slots : Vector (Option GamepadFrameRaw) ringCapacity) (i j : Fin ringCapacity)
    (frame : GamepadFrameRaw) :
    (slots.set i.val (some frame)).get j = if i = j then some frame else slots.get j := by
  change (slots.set i.val (some frame))[j.val] = if i = j then some frame else slots[j.val]
  rw [Vector.getElem_set]
  simp only [Fin.ext_iff]

theorem get_pushed (r : GamepadFrameRing) (frame : GamepadFrameRaw)
    (room : (r.head - r.tail).toNat < ringCapacity) {k : Nat} (near : k < (r.head - r.tail).toNat) :
    (r.slots.set (slotOf r.head 0).val (some frame)).get (slotOf r.tail k) =
      r.slots.get (slotOf r.tail k) := by
  rw [get_write, slotOf_zero r.head rfl, if_neg]
  exact fun same => slotOf_ne r.tail near (by omega) same.symm

theorem get_last (r : GamepadFrameRing) (frame : GamepadFrameRaw) :
    (r.slots.set (slotOf r.head 0).val (some frame)).get (slotOf r.tail (r.head - r.tail).toNat) =
      some frame := by
  rw [get_write, slotOf_zero r.head rfl, if_pos rfl]

theorem written_push (r : GamepadFrameRing) (frame : GamepadFrameRaw)
    (room : (r.head - r.tail).toNat < ringCapacity) :
    ∀ k < (r.head + 1 - r.tail).toNat,
      ((r.slots.set (slotOf r.head 0).val (some frame)).get (slotOf r.tail k)).isSome = true := by
  intro k less
  rw [used_push room] at less
  by_cases last : k = (r.head - r.tail).toNat
  · rw [last, get_last]
    rfl
  · have near : k < (r.head - r.tail).toNat := by omega
    rw [get_pushed r frame room near]
    exact r.written k near

/-- `none` is `TryPushError::Full`. -/
def push (r : GamepadFrameRing) (frame : GamepadFrameRaw) : Option GamepadFrameRing :=
  if full : (r.head - r.tail).toNat ≥ ringCapacity then none
  else some {
    head := r.head + 1
    tail := r.tail
    slots := r.slots.set (slotOf r.head 0).val (some frame)
    few := by
      rw [used_push (Nat.lt_of_not_le full)]
      omega
    written := written_push r frame (Nat.lt_of_not_le full) }

theorem written_pop (r : GamepadFrameRing) (full : r.head ≠ r.tail) :
    ∀ k < (r.head - (r.tail + 1)).toNat, (r.slots.get (slotOf (r.tail + 1) k)).isSome = true := by
  intro k less
  have used := used_pop full
  rw [slotOf_succ]
  exact r.written (k + 1) (by omega)

/-- The frame is `none` if the ring is empty. -/
def pop (r : GamepadFrameRing) : Option GamepadFrameRaw × GamepadFrameRing :=
  if full : r.head = r.tail then (none, r)
  else (r.slots.get (slotOf r.tail 0), {
    head := r.head
    tail := r.tail + 1
    slots := r.slots
    few := by
      have used := used_pop full
      have few := r.few
      omega
    written := written_pop r full })

/- The queue that the ring stands for. -/

def contents (r : GamepadFrameRing) : List GamepadFrameRaw :=
  (List.range (r.head - r.tail).toNat).filterMap fun k => r.slots.get (slotOf r.tail k)

theorem length_contents (r : GamepadFrameRing) : r.contents.length = (r.head - r.tail).toNat := by
  have all (n : Nat) (h : n ≤ (r.head - r.tail).toNat) :
      ((List.range n).filterMap fun k => r.slots.get (slotOf r.tail k)).length = n := by
    induction n with
    | zero => rfl
    | succ n ih =>
      obtain ⟨frame, here⟩ := Option.isSome_iff_exists.mp (r.written n h)
      rw [List.range_succ, List.filterMap_append, List.length_append, ih (by omega)]
      simp [here]
  exact all _ (Nat.le_refl _)

theorem contents_new : new.contents = [] := rfl

theorem length_contents_le (r : GamepadFrameRing) : r.contents.length ≤ ringCapacity := by
  rw [length_contents]
  exact r.few

theorem push_full {r : GamepadFrameRing} (full : r.contents.length = ringCapacity)
    (frame : GamepadFrameRaw) : r.push frame = none := by
  rw [length_contents] at full
  rw [push, dif_pos (Nat.le_of_eq full.symm)]

theorem push_room {r : GamepadFrameRing} (room : r.contents.length < ringCapacity)
    (frame : GamepadFrameRaw) :
    ∃ r', r.push frame = some r' ∧ r'.contents = r.contents ++ [frame] := by
  rw [length_contents] at room
  refine ⟨_, by rw [push, dif_neg (Nat.not_le_of_lt room)], ?_⟩
  rw [contents, used_push room, List.range_succ, List.filterMap_append]
  simp only [List.filterMap_cons, List.filterMap_nil, get_last]
  congr 1
  refine List.filterMap_congr fun k hk => ?_
  exact get_pushed r frame room (List.mem_range.mp hk)

theorem pop_empty {r : GamepadFrameRing} (empty : r.contents = []) : r.pop = (none, r) := by
  have none := congrArg List.length empty
  rw [length_contents, List.length_nil] at none
  have same : r.head = r.tail := by
    have small := r.head.toNat_lt
    have small' := r.tail.toNat_lt
    rw [UInt64.toNat_sub] at none
    exact UInt64.toNat_inj.mp (by omega)
  rw [pop, dif_pos same]

theorem pop_cons {r : GamepadFrameRing} {frame : GamepadFrameRaw} {rest : List GamepadFrameRaw}
    (full : r.contents = frame :: rest) : ∃ r', r.pop = (some frame, r') ∧ r'.contents = rest := by
  have apart : r.head ≠ r.tail := by
    intro same
    have none := congrArg List.length full
    rw [length_contents, same, UInt64.sub_self] at none
    contradiction
  rw [contents, used_pop apart, List.range_succ_eq_map, List.filterMap_cons] at full
  obtain ⟨first, here⟩ := Option.isSome_iff_exists.mp
    (r.written 0 (by rw [used_pop apart]; omega))
  rw [here] at full
  obtain ⟨rfl, tail⟩ := List.cons.inj full
  refine ⟨_, by rw [pop, dif_neg apart, here], ?_⟩
  rw [← tail, contents, List.filterMap_map]
  refine List.filterMap_congr fun k _ => ?_
  exact congrArg r.slots.get (slotOf_succ r.tail k)

end GamepadFrameRing

end HidConnect

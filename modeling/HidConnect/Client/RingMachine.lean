import HidConnect.Client.Ring
import HidConnect.Library.Atomic
import HidConnect.Library.Run
import Mathlib.Logic.Relation

/-! The two threads of the gamepad ring, one access to shared memory after the other. Both compare
and compute on what they have loaded, which the other thread may have moved on from. -/
namespace HidConnect

inductive PushPoint where
  | idle
  | headLoaded (frame : GamepadFrameRaw) (head : UInt64)
  | room (frame : GamepadFrameRaw) (head : UInt64)
  | written (frame : GamepadFrameRaw) (head : UInt64)

inductive PopPoint where
  | idle
  | tailLoaded (tail : UInt64)
  | found (tail : UInt64)
  | taken (tail : UInt64) (frame : Option GamepadFrameRaw)

/-- `tailSeen` and `headSeen` number the newest value of the other thread's counter that a thread has
loaded. `pushed`, `refused` and `popped` are what the calls have returned: a frame that is `none` was
read from a slot that was never written. -/
structure RingMachine where
  head : Atomic UInt64
  tail : Atomic UInt64
  slots : Vector (Option GamepadFrameRaw) ringCapacity
  pushing : PushPoint
  tailSeen : Nat
  popping : PopPoint
  headSeen : Nat
  pushed : List GamepadFrameRaw
  refused : List GamepadFrameRaw
  popped : List (Option GamepadFrameRaw)

/-- The next access of one of the threads; for a load of the other thread's counter, the number of
the value it gives. -/
inductive RingAccess where
  | push (frame : GamepadFrameRaw)
  | loadTail (i : Nat)
  | write
  | publish
  | pop
  | loadHead (i : Nat)
  | take
  | release

namespace RingMachine

def new : RingMachine where
  head := .new 0
  tail := .new 0
  slots := Vector.replicate ringCapacity none
  pushing := .idle
  tailSeen := 0
  popping := .idle
  headSeen := 0
  pushed := []
  refused := []
  popped := []

/-- Coherence lets the producer load any value of `tail` from the newest it has seen on. Older ones
would do as well, as long as `head` has not gone once around since. -/
def MayLoadTail (s : RingMachine) (i : Nat) : Prop :=
  s.tail.Loads s.tailSeen i ∨ (i < s.tail.stored.length ∧ s.head.stored.length ≤ i + 2 ^ 64)

instance (s : RingMachine) (i : Nat) : Decidable (s.MayLoadTail i) :=
  inferInstanceAs (Decidable (_ ∨ _))

def checkTail (s : RingMachine) (frame : GamepadFrameRaw) (head tail : UInt64) (i : Nat) :
    RingMachine :=
  if (head - tail).toNat ≥ ringCapacity then
    { s with pushing := .idle, tailSeen := max s.tailSeen i, refused := s.refused ++ [frame] }
  else { s with pushing := .room frame head, tailSeen := max s.tailSeen i }

def loadTail (s : RingMachine) (i : Nat) : RingMachine :=
  match s.pushing, s.tail.stored[i]? with
  | .headLoaded frame head, some tail => if s.MayLoadTail i then s.checkTail frame head tail i else s
  | _, _ => s

def write (s : RingMachine) : RingMachine :=
  match s.pushing with
  | .room frame head =>
    { s with
      pushing := .written frame head
      slots := s.slots.set (slotOf head 0).val (some frame) }
  | _ => s

def publish (s : RingMachine) : RingMachine :=
  match s.pushing with
  | .written frame head =>
    { s with pushing := .idle, head := s.head.store (head + 1), pushed := s.pushed ++ [frame] }
  | _ => s

def checkHead (s : RingMachine) (tail head : UInt64) (i : Nat) : RingMachine :=
  { s with popping := if head = tail then .idle else .found tail, headSeen := i }

def loadHead (s : RingMachine) (i : Nat) : RingMachine :=
  match s.popping, s.head.stored[i]? with
  | .tailLoaded tail, some head => if s.head.Loads s.headSeen i then s.checkHead tail head i else s
  | _, _ => s

def take (s : RingMachine) : RingMachine :=
  match s.popping with
  | .found tail => { s with popping := .taken tail (s.slots.get (slotOf tail 0)) }
  | _ => s

def release (s : RingMachine) : RingMachine :=
  match s.popping with
  | .taken tail frame =>
    { s with popping := .idle, tail := s.tail.store (tail + 1), popped := s.popped ++ [frame] }
  | _ => s

/-- An access that its thread is not at changes nothing. -/
def step (s : RingMachine) : RingAccess → RingMachine
  | .push frame =>
    match s.pushing with
    | .idle => { s with pushing := .headLoaded frame s.head.latest }
    | _ => s
  | .loadTail i => s.loadTail i
  | .write => s.write
  | .publish => s.publish
  | .pop =>
    match s.popping with
    | .idle => { s with popping := .tailLoaded s.tail.latest }
    | _ => s
  | .loadHead i => s.loadHead i
  | .take => s.take
  | .release => s.release

def queued (s : RingMachine) : List GamepadFrameRaw := s.pushed.drop s.popped.length

def slotAt (n : Nat) : Fin ringCapacity := ⟨n % ringCapacity, Nat.mod_lt _ (by decide)⟩

theorem slotOf_ofNat (n : Nat) : slotOf (UInt64.ofNat n) 0 = slotAt n := by
  apply Fin.ext
  simp only [slotOf, slotAt, ringCapacity, UInt64.toNat_ofNat']
  omega

theorem get_written (slots : Vector (Option GamepadFrameRaw) ringCapacity) (n j : Nat)
    (frame : GamepadFrameRaw) :
    (slots.set (slotOf (UInt64.ofNat n) 0).val (some frame)).get (slotAt j) =
      if slotAt n = slotAt j then some frame else slots.get (slotAt j) := by
  rw [GamepadFrameRing.get_write, slotOf_ofNat]

theorem slotAt_ne {j n : Nat} (less : j < n) (near : n < j + ringCapacity) : slotAt n ≠ slotAt j := by
  intro same
  have index := congrArg Fin.val same
  simp only [slotAt, ringCapacity] at index near
  omega

end RingMachine

open RingMachine in
/-- What the producer knows where it is: its copy of `head` is current, and behind the check the slot
it points to is free. -/
def PushPoint.Sound (s : RingMachine) : PushPoint → Prop
  | .idle => True
  | .headLoaded _ head => head = UInt64.ofNat s.pushed.length
  | .room _ head =>
    head = UInt64.ofNat s.pushed.length ∧ s.pushed.length < s.tailSeen + ringCapacity
  | .written frame head =>
    head = UInt64.ofNat s.pushed.length ∧ s.pushed.length < s.tailSeen + ringCapacity ∧
      s.slots.get (slotAt s.pushed.length) = some frame

def PopPoint.Sound (s : RingMachine) : PopPoint → Prop
  | .idle => True
  | .tailLoaded tail => tail = UInt64.ofNat s.popped.length
  | .found tail => tail = UInt64.ofNat s.popped.length ∧ s.popped.length < s.headSeen
  | .taken tail frame =>
    tail = UInt64.ofNat s.popped.length ∧ s.popped.length < s.headSeen ∧
      frame = s.pushed[s.popped.length]?

theorem PopPoint.Sound.pushed {s : RingMachine} {point : PopPoint} (sound : point.Sound s)
    (seen : s.headSeen ≤ s.pushed.length) (frame : GamepadFrameRaw) :
    point.Sound { s with pushed := s.pushed ++ [frame] } := by
  cases point with
  | idle => trivial
  | tailLoaded tail => exact sound
  | found tail => exact sound
  | taken tail taken =>
    obtain ⟨rfl, less, read⟩ := sound
    refine ⟨rfl, less, ?_⟩
    dsimp only
    rw [List.getElem?_append_left (Nat.lt_of_lt_of_le less seen)]
    exact read

namespace RingMachine

/-- The counters count the calls that have succeeded, what a thread has seen bounds how far the other
is ahead, and the slots between the counters hold the frames between them. -/
structure Inv (s : RingMachine) : Prop where
  head : s.head.Counts s.pushed.length
  tail : s.tail.Counts s.popped.length
  seenTail : s.tailSeen ≤ s.popped.length ∧ s.pushed.length ≤ s.tailSeen + ringCapacity
  seenHead : s.popped.length ≤ s.headSeen ∧ s.headSeen ≤ s.pushed.length
  fifo : s.popped = (s.pushed.take s.popped.length).map some
  held : ∀ j, s.popped.length ≤ j → j < s.pushed.length → s.slots.get (slotAt j) = s.pushed[j]?
  pushing : s.pushing.Sound s
  popping : s.popping.Sound s

theorem inv_new : Inv new where
  head := Atomic.counts_new
  tail := Atomic.counts_new
  seenTail := ⟨Nat.le_refl 0, Nat.zero_le _⟩
  seenHead := ⟨Nat.le_refl 0, Nat.le_refl 0⟩
  fifo := rfl
  held j _ less := absurd less (Nat.not_lt_zero j)
  pushing := trivial
  popping := trivial

namespace Inv
variable {s : RingMachine} (h : Inv s)
include h

theorem behind : s.popped.length ≤ s.pushed.length := Nat.le_trans h.seenHead.1 h.seenHead.2

theorem push (frame : GamepadFrameRaw) : Inv (s.step (.push frame)) := by
  rw [step]
  split
  · exact { h with pushing := h.head.latest, popping := h.popping }
  · exact h

/-- A stale value of `tail` is behind, so that a ring that looks to have room has room. -/
theorem checkTail {frame : GamepadFrameRaw} {i : Nat} (loads : s.MayLoadTail i) :
    Inv (s.checkTail frame (UInt64.ofNat s.pushed.length) (UInt64.ofNat i) i) := by
  have length := h.tail.length
  have pushes := h.head.length
  obtain ⟨seen, ahead⟩ := h.seenTail
  have behind := h.behind
  have old : i ≤ s.popped.length := by
    rcases loads with ⟨-, less⟩ | ⟨less, -⟩ <;> omega
  have near : s.pushed.length < i + 2 ^ 64 := by
    have small : ringCapacity = 8 := rfl
    rcases loads with ⟨newer, -⟩ | ⟨-, near⟩ <;> omega
  have apart := Atomic.toNat_distance (Nat.le_trans old behind) near
  unfold RingMachine.checkTail
  rw [apart]
  split
  · exact { h with
      seenTail := ⟨Nat.max_le.mpr ⟨seen, old⟩, by dsimp only; omega⟩
      pushing := trivial
      popping := h.popping }
  · exact { h with
      seenTail := ⟨Nat.max_le.mpr ⟨seen, old⟩, by dsimp only; omega⟩
      pushing := ⟨rfl, by dsimp only; omega⟩
      popping := h.popping }

theorem loadTail (i : Nat) : Inv (s.loadTail i) := by
  unfold RingMachine.loadTail
  split
  · rename_i frame head tail point value
    split_ifs with loads
    · have less : i ≤ s.popped.length := by
        have length := h.tail.length
        rcases loads with ⟨-, less⟩ | ⟨less, -⟩ <;> omega
      have same := h.pushing
      rw [point] at same
      rw [h.tail.get less] at value
      obtain rfl := Option.some.inj value
      obtain rfl : head = _ := same
      exact h.checkTail loads
    · exact h
  · exact h

theorem write : Inv s.write := by
  unfold RingMachine.write
  split
  · rename_i frame head point
    have sound := h.pushing
    rw [point] at sound
    obtain ⟨rfl, room⟩ := sound
    obtain ⟨seen, -⟩ := h.seenTail
    refine { h with held := ?_, pushing := ⟨rfl, room, ?_⟩, popping := h.popping }
    · intro j unpopped less
      dsimp only at unpopped less
      rw [get_written, if_neg (slotAt_ne less (by omega))]
      exact h.held j unpopped less
    · rw [get_written, if_pos rfl]
  · exact h

theorem publish : Inv s.publish := by
  unfold RingMachine.publish
  split
  · rename_i frame head point
    have sound := h.pushing
    rw [point] at sound
    obtain ⟨rfl, room, written⟩ := sound
    have length : (s.pushed ++ [frame]).length = s.pushed.length + 1 := List.length_append
    have behind := h.behind
    refine {
      tail := h.tail
      head := ?_
      seenTail := ⟨h.seenTail.1, by dsimp only; omega⟩
      seenHead := ⟨h.seenHead.1, Nat.le_trans h.seenHead.2 (by dsimp only; omega)⟩
      fifo := ?_
      held := ?_
      pushing := trivial
      popping := h.popping.pushed h.seenHead.2 frame }
    · dsimp only
      rw [length]
      exact h.head.store
    · dsimp only
      rw [List.take_append_of_le_length behind]
      exact h.fifo
    · intro j unpopped less
      dsimp only at unpopped less ⊢
      rcases Nat.lt_or_eq_of_le (Nat.le_of_lt_succ (length ▸ less)) with old | rfl
      · rw [List.getElem?_append_left old]
        exact h.held j unpopped old
      · rw [List.getElem?_concat_length, written]
  · exact h

theorem pop : Inv (s.step .pop) := by
  rw [step]
  split
  · exact { h with pushing := h.pushing, popping := h.tail.latest }
  · exact h

/-- A stale value of `head` is behind, so that a ring that looks to have a frame has one. -/
theorem loadHead (i : Nat) : Inv (s.loadHead i) := by
  unfold RingMachine.loadHead
  split
  · rename_i tail head point value
    split_ifs with loads
    · obtain ⟨newer, less⟩ := loads
      have length := h.head.length
      have old : i ≤ s.pushed.length := by omega
      rw [h.head.get old] at value
      obtain rfl := Option.some.inj value
      have sound := h.popping
      rw [point] at sound
      obtain rfl : tail = _ := sound
      have unpopped := Nat.le_trans h.seenHead.1 newer
      obtain ⟨seen, ahead⟩ := h.seenTail
      have small : ringCapacity = 8 := rfl
      have met := Atomic.ofNat_eq_iff unpopped (show i < s.popped.length + 2 ^ 64 by omega)
      unfold checkHead
      refine { h with
        seenHead := ⟨unpopped, old⟩
        pushing := h.pushing
        popping := ?_ }
      split
      · trivial
      · rename_i more
        exact ⟨rfl, Nat.lt_of_le_of_ne unpopped fun same => more (met.mpr same.symm)⟩
    · exact h
  · exact h

theorem take : Inv s.take := by
  unfold RingMachine.take
  split
  · rename_i tail point
    have sound := h.popping
    rw [point] at sound
    obtain ⟨rfl, seen⟩ := sound
    refine { h with pushing := h.pushing, popping := ⟨rfl, seen, ?_⟩ }
    rw [slotOf_ofNat]
    exact h.held _ (Nat.le_refl _) (Nat.lt_of_lt_of_le seen h.seenHead.2)
  · exact h

theorem release : Inv s.release := by
  unfold RingMachine.release
  split
  · rename_i tail frame point
    have sound := h.popping
    rw [point] at sound
    obtain ⟨rfl, seen, rfl⟩ := sound
    have there := Nat.lt_of_lt_of_le seen h.seenHead.2
    have length : (s.popped ++ [s.pushed[s.popped.length]?]).length = s.popped.length + 1 :=
      List.length_append
    refine {
      head := h.head
      tail := ?_
      seenTail := ⟨Nat.le_trans h.seenTail.1 (by dsimp only; omega), h.seenTail.2⟩
      seenHead := ⟨by dsimp only; omega, h.seenHead.2⟩
      fifo := ?_
      held := fun j unpopped less => h.held j (by dsimp only at unpopped; omega) less
      pushing := h.pushing
      popping := trivial }
    · dsimp only
      rw [length]
      exact h.tail.store
    · dsimp only
      rw [length, List.take_succ_eq_append_getElem there, List.map_append, ← h.fifo,
        List.getElem?_eq_getElem there]
      rfl
  · exact h

theorem step (a : RingAccess) : Inv (s.step a) := by
  cases a with
  | push frame => exact h.push frame
  | loadTail i => exact h.loadTail i
  | write => exact h.write
  | publish => exact h.publish
  | pop => exact h.pop
  | loadHead i => exact h.loadHead i
  | take => exact h.take
  | release => exact h.release

end Inv

theorem inv_after (accesses : List RingAccess) : Inv (Run.after step new accesses) :=
  Run.preserved Inv (fun _ a h => h.step a) inv_new accesses

/-- A bounded queue takes a frame, gives one, or does nothing. -/
inductive FifoStep (bound : Nat) : List GamepadFrameRaw → List GamepadFrameRaw → Prop
  | none (q : List GamepadFrameRaw) : FifoStep bound q q
  | push (q : List GamepadFrameRaw) (frame : GamepadFrameRaw) :
    q.length < bound → FifoStep bound q (q ++ [frame])
  | pop (frame : GamepadFrameRaw) (q : List GamepadFrameRaw) : FifoStep bound (frame :: q) q

theorem length_queued (s : RingMachine) : s.queued.length = s.pushed.length - s.popped.length :=
  List.length_drop

inductive Moves (s s' : RingMachine) : Prop
  | none : s'.pushed = s.pushed → s'.popped = s.popped → Moves s s'
  | push (frame : GamepadFrameRaw) : s.queued.length < ringCapacity →
    s'.pushed = s.pushed ++ [frame] → s'.popped = s.popped → Moves s s'
  | pop (frame : GamepadFrameRaw) (q : List GamepadFrameRaw) : s.queued = frame :: q →
    s'.pushed = s.pushed → s'.popped = s.popped ++ [some frame] → Moves s s'

namespace Inv
variable {s : RingMachine} (h : Inv s)
include h

theorem moves_publish : Moves s s.publish := by
  unfold RingMachine.publish
  split
  · rename_i frame head point
    have sound := h.pushing
    rw [point] at sound
    obtain ⟨-, room, -⟩ := sound
    obtain ⟨seen, -⟩ := h.seenTail
    have some : 0 < ringCapacity := by decide
    exact .push frame (by rw [length_queued]; omega) rfl rfl
  · exact .none rfl rfl

theorem moves_release : Moves s s.release := by
  unfold RingMachine.release
  split
  · rename_i tail frame point
    have sound := h.popping
    rw [point] at sound
    obtain ⟨-, seen, rfl⟩ := sound
    have there := Nat.lt_of_lt_of_le seen h.seenHead.2
    refine .pop s.pushed[s.popped.length] (s.pushed.drop (s.popped.length + 1))
      (List.drop_eq_getElem_cons there) rfl ?_
    dsimp only
    rw [List.getElem?_eq_getElem there]
  · exact .none rfl rfl

theorem moves (a : RingAccess) : Moves s (s.step a) := by
  cases a with
  | push frame =>
    rw [RingMachine.step]
    split <;> exact .none rfl rfl
  | loadTail i =>
    change Moves s (s.loadTail i)
    unfold RingMachine.loadTail RingMachine.checkTail
    split
    · split_ifs <;> exact .none rfl rfl
    · exact .none rfl rfl
  | write =>
    change Moves s s.write
    unfold RingMachine.write
    split <;> exact .none rfl rfl
  | publish => exact h.moves_publish
  | pop =>
    rw [RingMachine.step]
    split <;> exact .none rfl rfl
  | loadHead i =>
    change Moves s (s.loadHead i)
    unfold RingMachine.loadHead checkHead
    split
    · split_ifs <;> exact .none rfl rfl
    · exact .none rfl rfl
  | take =>
    change Moves s s.take
    unfold RingMachine.take
    split <;> exact .none rfl rfl
  | release => exact h.moves_release

end Inv

theorem Inv.fifoStep {s : RingMachine} (h : Inv s) (a : RingAccess) :
    FifoStep ringCapacity s.queued (s.step a).queued := by
  rcases h.moves a with ⟨pushed, popped⟩ | ⟨frame, room, pushed, popped⟩ |
    ⟨frame, q, first, pushed, popped⟩
  · rw [queued, queued, pushed, popped]
    exact .none _
  · have after : (s.step a).queued = s.queued ++ [frame] := by
      rw [queued, queued, pushed, popped, List.drop_append_of_le_length h.behind]
    rw [after]
    exact .push _ frame room
  · have after : (s.step a).queued = q := by
      rw [queued, pushed, popped, List.length_append, List.length_singleton, ← List.drop_drop]
      exact congrArg (List.drop 1) first
    rw [after, first]
    exact .pop frame q

def Called (r r' : GamepadFrameRing) : Prop :=
  (∃ frame, r.push frame = some r') ∨ ∃ frame, r.pop = (some frame, r')

theorem FifoStep.called {q q' : List GamepadFrameRaw} (moves : FifoStep ringCapacity q q')
    {r : GamepadFrameRing} (same : r.contents = q) :
    ∃ r', Relation.ReflTransGen Called r r' ∧ r'.contents = q' := by
  cases moves with
  | none => exact ⟨r, .refl, same⟩
  | push _ frame room =>
    obtain ⟨r', taken, contents⟩ := r.push_room (same ▸ room) frame
    exact ⟨r', .single (.inl ⟨frame, taken⟩), by rw [contents, same]⟩
  | pop frame _ =>
    obtain ⟨r', given, contents⟩ := r.pop_cons same
    exact ⟨r', .single (.inr ⟨frame, given⟩), contents⟩

/-- The ring as a whole, call after call, gets to hold what its two threads have made it hold. -/
theorem threads_simulate_ring (accesses : List RingAccess) :
    ∃ r, Relation.ReflTransGen Called .new r ∧
      r.contents = (Run.after step new accesses).queued := by
  refine (Run.preserved (fun s => Inv s ∧ ∃ r, Relation.ReflTransGen Called .new r ∧
    r.contents = s.queued) ?_ ⟨inv_new, .new, .refl, GamepadFrameRing.contents_new⟩ accesses).2
  rintro s a ⟨h, r, calls, same⟩
  obtain ⟨r', call, contents⟩ := (h.fifoStep a).called same
  exact ⟨h.step a, r', calls.trans call, contents⟩

namespace Inv
variable {s : RingMachine} (h : Inv s)
include h

theorem length_queued_le : s.queued.length ≤ ringCapacity := by
  obtain ⟨seen, ahead⟩ := h.seenTail
  rw [length_queued]
  omega

theorem reads {tail : UInt64} (point : s.popping = .found tail) :
    ∃ next, s.pushed[s.popped.length]? = some next ∧ s.slots.get (slotOf tail 0) = some next := by
  have sound := h.popping
  rw [point] at sound
  obtain ⟨rfl, seen⟩ := sound
  have there := Nat.lt_of_lt_of_le seen h.seenHead.2
  refine ⟨_, List.getElem?_eq_getElem there, ?_⟩
  rw [slotOf_ofNat, h.held _ (Nat.le_refl _) there, List.getElem?_eq_getElem there]

theorem writes {frame : GamepadFrameRaw} {head : UInt64} (point : s.pushing = .room frame head) :
    slotOf head 0 = slotAt s.pushed.length ∧
      ∀ j < s.pushed.length, slotAt j = slotOf head 0 → j < s.popped.length := by
  have sound := h.pushing
  rw [point] at sound
  obtain ⟨rfl, room⟩ := sound
  obtain ⟨seen, -⟩ := h.seenTail
  refine ⟨slotOf_ofNat _, fun j less same => ?_⟩
  by_contra unpopped
  rw [slotOf_ofNat] at same
  exact slotAt_ne less (by omega) same.symm

theorem refuses {frame : GamepadFrameRaw} {head : UInt64} (point : s.pushing = .headLoaded frame head)
    {i : Nat} (current : s.tail.stored.length = i + 1) :
    (s.step (.loadTail i)).refused = s.refused ++ [frame] ↔ s.queued.length = ringCapacity := by
  have sound := h.pushing
  rw [point] at sound
  obtain rfl : head = _ := sound
  obtain rfl : i = s.popped.length := by
    have length := h.tail.length
    omega
  have loads : s.MayLoadTail s.popped.length := .inl ⟨h.seenTail.1, by omega⟩
  have few := h.length_queued_le
  have small : ringCapacity = 8 := rfl
  have behind := h.behind
  rw [length_queued] at few ⊢
  have apart := Atomic.toNat_distance behind (by omega)
  rw [RingMachine.step, RingMachine.loadTail, point, h.tail.get (Nat.le_refl _)]
  dsimp only
  rw [if_pos loads, RingMachine.checkTail, apart]
  split_ifs with full
  · exact iff_of_true rfl (by omega)
  · exact iff_of_false (fun same => by simpa using congrArg List.length same) (by omega)

end Inv

end RingMachine

open RingMachine

end HidConnect

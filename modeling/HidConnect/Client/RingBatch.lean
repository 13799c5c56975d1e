import HidConnect.Client.Send
import Mathlib.Tactic.IntervalCases

/-! A batch pushed into the ring while the consumer pops: which of its frames enter. -/
namespace HidConnect
open Fallible

namespace FastPath

/-- How many frames the consumer is to pop before the next push. -/
def pops (p : FastPath) : Nat := if p.live then (p.moves p.pushes).pops else 0

theorem drain_fate (n : Nat) (p : FastPath) :
    ∃ ring, p.drain n = { p with ring, taken := p.taken ++ p.ring.contents.take n } ∧
      ring.contents = p.ring.contents.drop n := by
  induction n generalizing p with
  | zero => exact ⟨p.ring, by simp [drain], rfl⟩
  | succ n ih =>
    cases hc : p.ring.contents with
    | nil => exact ⟨p.ring, by simp [drain, GamepadFrameRing.pop_empty hc], by simp [hc]⟩
    | cons frame rest =>
      obtain ⟨ring, popped, left⟩ := GamepadFrameRing.pop_cons hc
      obtain ⟨ring', run, left'⟩ := ih { p with ring, taken := p.taken ++ [frame] }
      refine ⟨ring', ?_, ?_⟩
      · simp only [drain, popped, run, left, List.take_succ_cons, List.append_assoc]
        rfl
      · rw [left', left, List.drop_succ_cons]

/-- The consumer's turn moves frames out of the ring and nothing else. -/
theorem consume_fate (p : FastPath) :
    ∃ ring, p.consume = { p with
        ring, taken := p.taken ++ p.ring.contents.take p.pops
        live := p.live && !(p.moves p.pushes).leaves } ∧
      ring.contents = p.ring.contents.drop p.pops := by
  cases live : p.live with
  | false =>
    have same : p = { p with live := false } := by rw [← live]
    refine ⟨p.ring, ?_, by simp [pops, live]⟩
    simpa [consume, pops, live] using same
  | true =>
    obtain ⟨ring, run, left⟩ := drain_fate (p.moves p.pushes).pops p
    exact ⟨ring, by simp [consume, pops, live, run], by simp [pops, live, left]⟩

theorem push_fate (frame : GamepadFrameRaw) (p : FastPath) :
    (p.push frame).2.moves = p.moves ∧ (p.push frame).2.pushes = p.pushes + 1 ∧
    (p.push frame).2.live = (p.live && !(p.moves p.pushes).leaves) ∧
    if p.ring.contents.length - p.pops < ringCapacity then
      (p.push frame).1 = true ∧
        (p.push frame).2.ring.contents.length = p.ring.contents.length - p.pops + 1 ∧
        (p.push frame).2.entered = p.entered ++ [frame] ∧
        (p.push frame).2.admitted = p.admitted ++ [p.pushes]
    else
      (p.push frame).1 = false ∧
        (p.push frame).2.ring.contents.length = p.ring.contents.length - p.pops ∧
        (p.push frame).2.entered = p.entered ∧ (p.push frame).2.admitted = p.admitted := by
  obtain ⟨ring, turn, left⟩ := p.consume_fate
  have size : ring.contents.length = p.ring.contents.length - p.pops := by
    rw [left, List.length_drop]
  have most := ring.length_contents_le
  have whole : p.taken ++ p.ring.contents.take p.pops ++ ring.contents = p.entered := by
    rw [left, List.append_assoc, List.take_append_drop, entered]
  split
  · rename_i room
    obtain ⟨ring', pushed, longer⟩ := GamepadFrameRing.push_room (size ▸ room) frame
    have run : p.push frame = (true, { p.consume with
        ring := ring', admitted := p.admitted ++ [p.pushes], pushes := p.pushes + 1 }) := by
      simp only [push, turn, pushed]
    rw [run, turn]
    refine ⟨rfl, rfl, rfl, rfl, ?_, ?_, rfl⟩
    · simp only [longer, List.length_append, size]
      rfl
    · change p.taken ++ p.ring.contents.take p.pops ++ ring'.contents = p.entered ++ [frame]
      rw [longer, ← whole, List.append_assoc (_ ++ _)]
  · rename_i full
    have refused := GamepadFrameRing.push_full (r := ring) (by omega) frame
    have run : p.push frame = (false, { p.consume with pushes := p.pushes + 1 }) := by
      simp only [push, turn, refused]
    rw [run, turn]
    exact ⟨rfl, rfl, rfl, rfl, size, whole, rfl⟩

/- A run of pushes. -/

def next (p : FastPath) : FastPath :=
  { p with live := p.live && !(p.moves p.pushes).leaves, pushes := p.pushes + 1 }

/-- How many frames the consumer is to pop before each of the next pushes. -/
def popsAhead : Nat → FastPath → List Nat
  | 0, _ => []
  | n + 1, p => p.pops :: popsAhead n p.next

/-- The consumer is still in its loop at the last of the next pushes. -/
def liveAhead : Nat → FastPath → Bool
  | 0, p => p.live
  | n + 1, p => liveAhead n p.next

/-- Which of the next pushes find room, with so many frames in the ring. -/
def rooms : Nat → List Nat → List Bool
  | _, [] => []
  | size, pops :: rest =>
    if size - pops < ringCapacity then true :: rooms (size - pops + 1) rest
    else false :: rooms (size - pops) rest

theorem popsAhead_congr {p q : FastPath} (live : p.live = q.live) (moves : p.moves = q.moves)
    (pushes : p.pushes = q.pushes) (n : Nat) :
    popsAhead n p = popsAhead n q ∧ liveAhead n p = liveAhead n q := by
  induction n generalizing p q with
  | zero => exact ⟨rfl, live⟩
  | succ n ih =>
    obtain ⟨pops', live'⟩ := ih (p := p.next) (q := q.next)
      (by simp only [next, live, moves, pushes]) moves (congrArg (· + 1) pushes)
    refine ⟨?_, live'⟩
    rw [popsAhead, popsAhead, pops', pops, pops, live, moves, pushes]

/-- The numbers of the pushes that find room. -/
def numbered : Nat → List Bool → List Nat
  | _, [] => []
  | n, true :: rest => n :: numbered (n + 1) rest
  | n, false :: rest => numbered (n + 1) rest

/-- The frames whose push finds room, or finds none. -/
def chosen (found : Bool) (frames : List GamepadFrameRaw) (found' : List Bool) :
    List GamepadFrameRaw :=
  ((frames.zip found').filter (·.2 == found)).map (·.1)

/-- Once a push has found the ring full, the consumer pops nothing before the last one. -/
def StaysFull : Nat → List Nat → Prop
  | _, [] => True
  | size, pops :: rest =>
    if size - pops < ringCapacity then StaysFull (size - pops + 1) rest else ∀ n ∈ rest, n = 0

def AllFit : Nat → List Nat → Prop
  | _, [] => True
  | size, pops :: rest => size - pops < ringCapacity ∧ AllFit (size - pops + 1) rest

theorem le_of_numbered {n m : Nat} {found : List Bool} (h : m ∈ numbered n found) : n ≤ m := by
  induction found generalizing n with
  | nil => contradiction
  | cons here rest ih =>
    cases here with
    | false => exact Nat.le_of_succ_le (ih h)
    | true =>
      rcases List.mem_cons.mp h with rfl | later
      · exact Nat.le_refl _
      · exact Nat.le_of_succ_le (ih later)

theorem numbered_full (n : Nat) (pops : List Nat) :
    numbered n (rooms ringCapacity pops) = [] ↔ ∀ k ∈ pops, k = 0 := by
  induction pops generalizing n with
  | nil => exact iff_of_true rfl nofun
  | cons k rest ih =>
    rw [rooms]
    split
    · rename_i room
      refine iff_of_false (List.cons_ne_nil _ _) fun none => ?_
      rw [none k (List.mem_cons_self ..)] at room
      exact Nat.lt_irrefl _ room
    · rename_i full
      have positive : 0 < ringCapacity := by decide
      obtain rfl : k = 0 := by omega
      rw [numbered, Nat.sub_zero, ih]
      simp

theorem numbered_range {size n : Nat} {pops : List Nat} (few : size ≤ ringCapacity) :
    (∃ k, numbered n (rooms size pops) = List.range' n k) ↔ StaysFull size pops := by
  induction pops generalizing size n with
  | nil => exact iff_of_true ⟨0, rfl⟩ trivial
  | cons q rest ih =>
    rw [rooms, StaysFull]
    split
    · rename_i room
      rw [numbered, ← ih (n := n + 1) (Nat.succ_le_of_lt room)]
      constructor
      · rintro ⟨k, eq⟩
        cases k with
        | zero => contradiction
        | succ k => exact ⟨k, (List.cons.inj eq).2⟩
      · rintro ⟨k, eq⟩
        exact ⟨k + 1, by rw [eq]; rfl⟩
    · rename_i full
      have whole : size - q = ringCapacity := by omega
      rw [numbered, whole, ← numbered_full (n + 1) rest]
      constructor
      · rintro ⟨k, eq⟩
        cases k with
        | zero => exact eq
        | succ k =>
          have first : n ∈ numbered (n + 1) (rooms ringCapacity rest) := by
            rw [eq]
            exact List.mem_cons_self ..
          exact absurd (le_of_numbered first) (Nat.not_succ_le_self n)
      · exact fun none => ⟨0, none⟩

/-- Where the pushes that found room are the first ones, so are their frames. -/
theorem chosen_range {n k : Nat} {found : List Bool} {frames : List GamepadFrameRaw}
    (same : found.length = frames.length) (h : numbered n found = List.range' n k) :
    k ≤ frames.length ∧ chosen true frames found = frames.take k ∧
      chosen false frames found = frames.drop k := by
  induction found generalizing n k frames with
  | nil =>
    obtain rfl := List.length_eq_zero_iff.mp same.symm
    cases k with
    | zero => exact ⟨Nat.le_refl _, rfl, rfl⟩
    | succ k => contradiction
  | cons here rest ih =>
    match frames with
    | [] => contradiction
    | frame :: frames =>
      have fewer : rest.length = frames.length := Nat.succ.inj same
      cases here with
      | true =>
        cases k with
        | zero => contradiction
        | succ k =>
          obtain ⟨few, first, last⟩ := ih fewer (List.cons.inj h).2
          exact ⟨Nat.succ_le_succ few, congrArg (frame :: ·) first, last⟩
      | false =>
        cases k with
        | zero =>
          obtain ⟨-, first, last⟩ := ih (k := 0) fewer h
          exact ⟨Nat.zero_le _, first, congrArg (frame :: ·) last⟩
        | succ k =>
          have here : n ∈ numbered (n + 1) rest := by
            rw [show numbered (n + 1) rest = _ from h]
            exact List.mem_cons_self ..
          exact absurd (le_of_numbered here) (Nat.not_succ_le_self n)

theorem length_rooms (size : Nat) (pops : List Nat) : (rooms size pops).length = pops.length := by
  induction pops generalizing size with
  | nil => rfl
  | cons q rest ih =>
    rw [rooms]
    split
    · exact congrArg Nat.succ (ih _)
    · exact congrArg Nat.succ (ih _)

theorem length_popsAhead (n : Nat) (p : FastPath) : (popsAhead n p).length = n := by
  induction n generalizing p with
  | zero => rfl
  | succ n ih => exact congrArg Nat.succ (ih p.next)

theorem allFit_iff {size : Nat} {pops : List Nat} {frames : List GamepadFrameRaw}
    (same : pops.length = frames.length) :
    chosen false frames (rooms size pops) = [] ↔ AllFit size pops := by
  induction pops generalizing size frames with
  | nil =>
    obtain rfl := List.length_eq_zero_iff.mp same.symm
    exact iff_of_true rfl trivial
  | cons q rest ih =>
    match frames with
    | [] => contradiction
    | frame :: frames =>
      rw [rooms, AllFit]
      split
      · rename_i room
        rw [← ih (Nat.succ.inj same)]
        exact (and_iff_right room).symm
      · rename_i full
        exact iff_of_false (List.cons_ne_nil _ _) fun fit => full fit.1

end FastPath

/-- A client on a ring: its channel is a stub without a receiver. -/
def ringClient (p : FastPath) (sends : Nat) : HidClient :=
  { channel := { sent := [], sends, answers := fun _ => .disconnected }, gamepadRing := some p }

namespace HidClient
open FastPath

theorem spill_run (frames : List GamepadFrameRaw) (p : FastPath) (sends : Nat) :
    ∃ p', (spill frames).run (ringClient p sends) = (.ok (chosen false frames
        (rooms p.ring.contents.length (popsAhead frames.length p))), ringClient p' sends) ∧
      p'.live = liveAhead frames.length p ∧
      p'.entered = p.entered ++ chosen true frames
        (rooms p.ring.contents.length (popsAhead frames.length p)) ∧
      p'.admitted = p.admitted ++
        numbered p.pushes (rooms p.ring.contents.length (popsAhead frames.length p)) := by
  induction frames generalizing p with
  | nil => exact ⟨p, rfl, rfl, (List.append_nil _).symm, (List.append_nil _).symm⟩
  | cons frame frames ih =>
    obtain ⟨moves, pushes, live, fate⟩ := p.push_fate frame
    obtain ⟨p', run, live', entered, admitted⟩ := ih (p.push frame).2
    obtain ⟨ahead, lives⟩ := popsAhead_congr (p := (p.push frame).2) (q := p.next) live moves pushes
      frames.length
    have pushed : (ringPush frame).run (ringClient p sends) =
      (.ok (p.push frame).1, ringClient (p.push frame).2 sends) := rfl
    rw [ahead] at run entered admitted
    rw [pushes] at admitted
    rw [spill, Method.run_bind_ok pushed, Method.run_bind_ok run]
    refine ⟨p', ?_, live'.trans lives, ?_, ?_⟩
    · rw [Method.run_pure, List.length_cons, popsAhead, rooms]
      split at fate
      · rename_i room
        obtain ⟨found, size, -, -⟩ := fate
        rw [found, if_pos rfl, size, if_pos room]
        rfl
      · rename_i full
        obtain ⟨found, size, -, -⟩ := fate
        rw [found, if_neg Bool.false_ne_true, size, if_neg full]
        rfl
    · rw [entered, List.length_cons, popsAhead, rooms]
      split at fate
      · rename_i room
        obtain ⟨-, size, joined, -⟩ := fate
        rw [size, joined, if_pos room, List.append_assoc]
        rfl
      · rename_i full
        obtain ⟨-, size, joined, -⟩ := fate
        rw [size, joined, if_neg full]
        rfl
    · rw [admitted, List.length_cons, popsAhead, rooms]
      split at fate
      · rename_i room
        obtain ⟨-, size, -, joined⟩ := fate
        rw [size, joined, if_pos room, numbered, List.append_assoc]
        rfl
      · rename_i full
        obtain ⟨-, size, -, joined⟩ := fate
        rw [size, joined, if_neg full, numbered]

/-- What a batch of frames is promised: its first frames enter the ring, in order and without a gap, and
no frame goes anywhere else. After `Ok` they are all of them, and the consumer is still there. -/
def EntersInOrder (m : Sending Unit) (p : FastPath) (sends : Nat) (frames : List GamepadFrameRaw) :
    Prop :=
  ∃ p' sends' k, (m.run (ringClient p sends)).2 = ringClient p' sends' ∧ k ≤ frames.length ∧
    p'.admitted = p.admitted ++ List.range' p.pushes k ∧
    p'.entered = p.entered ++ frames.take k ∧
    ((m.run (ringClient p sends)).1.isOk = true →
      k = frames.length ∧ (frames ≠ [] → p'.live = true))

/-- Once a push has found the ring full the consumer pops nothing before the batch's last push, and if
every push finds room the consumer has not left before the last one. -/
def Orderly (p : FastPath) (n : Nat) : Prop :=
  StaysFull p.ring.contents.length (popsAhead n p) ∧
    (n ≠ 0 → AllFit p.ring.contents.length (popsAhead n p) → liveAhead n p = true)

theorem spilled_iff {m : Sending Unit} {p : FastPath} {sends : Nat}
    {frames : List GamepadFrameRaw}
    (h : ∃ p' sends', (m.run (ringClient p sends)).2 = ringClient p' sends' ∧
      p'.live = liveAhead frames.length p ∧
      p'.entered = p.entered ++ chosen true frames
        (rooms p.ring.contents.length (popsAhead frames.length p)) ∧
      p'.admitted = p.admitted ++
        numbered p.pushes (rooms p.ring.contents.length (popsAhead frames.length p)) ∧
      ((m.run (ringClient p sends)).1.isOk = true ↔ chosen false frames
        (rooms p.ring.contents.length (popsAhead frames.length p)) = [])) :
    EntersInOrder m p sends frames ↔ Orderly p frames.length := by
  obtain ⟨p', sends', state, live, entered, admitted, ok⟩ := h
  have count := length_popsAhead frames.length p
  rw [allFit_iff count] at ok
  have order : (∃ k, numbered p.pushes (rooms p.ring.contents.length (popsAhead frames.length p)) =
      List.range' p.pushes k) ↔ _ := numbered_range p.ring.length_contents_le
  constructor
  · rintro ⟨q, sends'', k, state', few, admitted', entered', whole⟩
    obtain rfl : p' = q := Option.some.inj (congrArg HidClient.gamepadRing (state.symm.trans state'))
    have first := List.append_cancel_left (admitted.symm.trans admitted')
    refine ⟨order.mp ⟨k, first⟩, fun some fit => ?_⟩
    rw [← live]
    exact (whole (ok.mpr fit)).2 fun none => some (congrArg List.length none)
  · rintro ⟨stays, alive⟩
    obtain ⟨k, first⟩ := order.mpr stays
    obtain ⟨few, front, back⟩ :=
      chosen_range ((length_rooms _ _).trans count) first
    refine ⟨p', sends', k, state, few, by rw [admitted, first], by rw [entered, front], fun done => ?_⟩
    have fit := ok.mp done
    rw [← allFit_iff count, back] at fit
    have all : frames.length ≤ k := List.drop_eq_nil_iff.mp fit
    refine ⟨Nat.le_antisymm few all, fun some => ?_⟩
    rw [live]
    refine alive (fun none => some (List.length_eq_zero_iff.mp none)) (ok.mp done)

theorem send_stub (cmd : HidCommand) (p : FastPath) (sends : Nat) :
    (send cmd).run (ringClient p sends) = (.err channelDown, ringClient p (sends + 1)) := rfl

theorem spill_orderly (frames : List GamepadFrameRaw) (command : List GamepadFrameRaw → HidCommand)
    (p : FastPath) (sends : Nat) :
    EntersInOrder (do
      let rest ← spill frames
      if rest.isEmpty then pure () else send (command rest)) p sends frames ↔
        Orderly p frames.length := by
  obtain ⟨p', run, live, entered, admitted⟩ := spill_run frames p sends
  apply spilled_iff
  rw [Method.run_bind_ok run]
  cases rest : chosen false frames
      (rooms p.ring.contents.length (popsAhead frames.length p)) with
  | nil => exact ⟨p', sends, rfl, live, entered, admitted, iff_of_true rfl rfl⟩
  | cons first others =>
    rw [List.isEmpty_cons, if_neg Bool.false_ne_true, send_stub]
    exact ⟨p', sends + 1, rfl, live, entered, admitted,
      iff_of_false Bool.false_ne_true (List.cons_ne_nil _ _)⟩

theorem single_orderly (frame : GamepadFrameRaw) (command : HidCommand) (p : FastPath)
    (sends : Nat) :
    EntersInOrder (do if ← ringPush frame then pure () else send command) p sends [frame] ↔
      Orderly p 1 := by
  have run : ((do if ← ringPush frame then pure () else send command : Sending Unit).run
      (ringClient p sends)) = (do
        let rest ← spill [frame]
        if rest.isEmpty then pure () else send command : Sending Unit).run (ringClient p sends) := by
    have pushed : (ringPush frame).run (ringClient p sends) =
      (.ok (p.push frame).1, ringClient (p.push frame).2 sends) := rfl
    simp only [spill, Method.bind_assoc]
    rw [Method.run_bind_ok pushed, Method.run_bind_ok pushed]
    cases (p.push frame).1 <;> rfl
  rw [EntersInOrder, run]
  exact spill_orderly [frame] (fun _ => command) p sends

theorem pure_orderly (p : FastPath) (sends : Nat) : EntersInOrder (pure ()) p sends [] :=
  ⟨p, sends, 0, rfl, Nat.le_refl _, (List.append_nil _).symm, (List.append_nil _).symm,
    fun _ => ⟨rfl, fun some => (some rfl).elim⟩⟩

theorem orderly_zero (p : FastPath) : Orderly p 0 := ⟨trivial, fun some => (some rfl).elim⟩

theorem sendAll_run (frames : List GamepadFrameRaw) (command : List GamepadFrameRaw → HidCommand)
    (p : FastPath) (sends : Nat) :
    (sendAll frames command).run (ringClient p sends) = (do
      let rest ← spill frames
      if rest.isEmpty then pure () else send (command rest) : Sending Unit).run
        (ringClient p sends) := rfl

theorem sendFrameBatch_orderly (frames : List GamepadFrameRaw) (p : FastPath) (sends : Nat) :
    EntersInOrder (sendFrameBatch frames) p sends frames ↔ Orderly p frames.length := by
  match frames with
  | [] => exact iff_of_true (pure_orderly p sends) (orderly_zero p)
  | [frame] => exact single_orderly frame (.gamepadFrameRaw frame) p sends
  | a :: b :: rest =>
    have many : sendFrameBatch (a :: b :: rest) =
      sendAll (a :: b :: rest) .gamepadFrameRawBatch := rfl
    rw [EntersInOrder, many, sendAll_run]
    exact spill_orderly (a :: b :: rest) .gamepadFrameRawBatch p sends

theorem sendFrameBatchFixed_orderly (len : Nat)
    (frames : Vector GamepadFrameRaw directGamepadBatchFrames) (p : FastPath) (sends : Nat) :
    EntersInOrder (sendFrameBatchFixed len frames) p sends (frames.toList.take len) ↔
      len > directGamepadBatchFrames ∨ Orderly p len := by
  rw [EntersInOrder, sendFrameBatchFixed, sendFrameBatchFixedInternal]
  split
  · rename_i none
    subst none
    exact iff_of_true (pure_orderly p sends) (.inr (orderly_zero p))
  · split
    · rename_i long
      refine iff_of_true ⟨p, sends, 0, rfl, Nat.zero_le _, (List.append_nil _).symm,
        (List.append_nil _).symm, nofun⟩ (.inl long)
    · rename_i short
      have size : (frames.toList.take len).length = len := by
        rw [List.length_take, Vector.length_toList]
        omega
      rw [or_iff_right short]
      split
      · rename_i one
        subst one
        rw [if_pos rfl, take_one frames]
        exact single_orderly _ (.gamepadFrameRaw _) p sends
      · have orderly := spill_orderly (frames.toList.take len) (fun spilled =>
          fixedCommand true spilled.length (fixedBuffer noneFrame spilled)) p sends
        rw [size] at orderly
        exact orderly

/-- A batch enters the ring in order and without a gap, and `Ok` means that a live consumer has it
all, exactly if the consumer frees no slot behind a push that found none and has not left. -/
theorem ring_batch_in_order (p : FastPath) (sends : Nat) :
    (∀ frames, EntersInOrder (sendFrameBatch frames) p sends frames ↔ Orderly p frames.length) ∧
    ∀ len (frames : Vector GamepadFrameRaw directGamepadBatchFrames),
      EntersInOrder (sendFrameBatchFixed len frames) p sends (frames.toList.take len) ↔
        len > directGamepadBatchFrames ∨ Orderly p len :=
  ⟨fun frames => sendFrameBatch_orderly frames p sends,
    fun len frames => sendFrameBatchFixed_orderly len frames p sends⟩

/-- The consumer pops one frame before the last push, and none before. -/
def onePopBefore (n : Nat) : FastPath :=
  .start fun i => { pops := if i = n then 1 else 0, leaves := false }

/-- The ring is full for the ninth frame, and has room again for the tenth. -/
theorem ring_batch_skips :
    ¬EntersInOrder (sendFrameBatch (List.replicate 10 noneFrame)) (onePopBefore 9) 0
      (List.replicate 10 noneFrame) := by
  rintro ⟨p', sends', k, state, few, admitted, -⟩
  have ran : ((sendFrameBatch (List.replicate 10 noneFrame)).run
      (ringClient (onePopBefore 9) 0)).2.gamepadRing.map FastPath.admitted =
        some [0, 1, 2, 3, 4, 5, 6, 7, 9] := by
    decide +kernel
  rw [state] at ran
  have skipped : p'.admitted = [0, 1, 2, 3, 4, 5, 6, 7, 9] := Option.some.inj ran
  rw [skipped] at admitted
  have shorter : k ≤ 10 := few
  revert admitted
  interval_cases k <;> decide

end HidClient

end HidConnect

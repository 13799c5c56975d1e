import HidConnect.Client.FixedBatcher
import HidConnect.Client.BatcherOnce

/-! What the fixed batchers put on the channel, and the bulk push as repeated single pushes. -/
namespace HidConnect
open Fallible

namespace FrameKind

def framesOf : (k : FrameKind) → HidCommand → List k.Frame
  | touch, .touchBatchFixed len frames => frames.toList.take len.toNat
  | keyboard, .key scancode pressed mods => [{ scancode, pressed, mods }]
  | keyboard, .keyBatchFixed len frames => frames.toList.take len.toNat
  | androidKey, .injectKeycode action keycode repeats metastate =>
    [{ action, keycode, repeats, metastate }]
  | androidKey, .androidKeyBatchFixed len frames => frames.toList.take len.toNat
  | mouse, .mouseMotion dx dy buttons => [{ dx, dy, buttons }]
  | mouse, .mouseBatchFixed len frames => frames.toList.take len.toNat
  | scroll, .injectScroll x y hscroll vscroll buttons => [{ x, y, hscroll, vscroll, buttons }]
  | scroll, .injectScrollBatchFixed len frames => frames.toList.take len.toNat
  | _, _ => []

theorem framesOf_batch (k : FrameKind) (len : UInt8) (frames : Vector k.Frame k.capacity) :
    k.framesOf (k.batch len frames) = frames.toList.take len.toNat := by
  cases k <;> rfl

theorem framesOf_single {k : FrameKind} {frame : k.Frame} {cmd : HidCommand}
    (h : k.single frame = some cmd) : k.framesOf cmd = [frame] := by
  cases k <;> cases h <;> rfl

theorem capacity_lt (k : FrameKind) : k.capacity < 256 := by cases k <;> decide

theorem take_first {k : FrameKind} (frames : Vector k.Frame k.capacity) :
    frames.toList.take 1 = [first frames] := by
  have size : 0 < frames.toList.length := by
    rw [Vector.length_toList]
    exact k.capacity_pos
  rw [List.take_one, List.head?_eq_getElem?, List.getElem?_eq_getElem size]
  rfl

theorem framesOf_command {k : FrameKind} {len : Nat} (fits : len ≤ k.capacity)
    (frames : Vector k.Frame k.capacity) :
    k.framesOf (k.command len frames) = frames.toList.take len := by
  have byte : len.toUInt8.toNat = len := Nat.mod_eq_of_lt (Nat.lt_of_le_of_lt fits k.capacity_lt)
  have whole : k.framesOf (k.batch len.toUInt8 frames) = frames.toList.take len := by
    rw [framesOf_batch, byte]
  unfold command
  split_ifs with one
  · cases alone : k.single (first frames) with
    | none => exact whole
    | some cmd => rw [Option.getD_some, framesOf_single alone, one, take_first]
  · exact whole

end FrameKind

section Copying
variable {α : Type} {n : Nat}

theorem take_copyFromSlice (dst : Vector α n) {start : Nat} {frames : List α}
    (fits : start + frames.length ≤ n) :
    (copyFromSlice dst start frames).toList.take (start + frames.length) =
      dst.toList.take start ++ frames := by
  induction frames generalizing dst start with
  | nil => exact (List.append_nil _).symm
  | cons frame frames ih =>
    rw [List.length_cons] at fits
    rw [copyFromSlice, List.length_cons, show start + (frames.length + 1) =
      start + 1 + frames.length by omega, ih _ (by omega)]
    have inside : start < dst.toList.length := by
      rw [Vector.length_toList]
      omega
    have wrote : (dst.setIfInBounds start frame).toList.take (start + 1) =
        dst.toList.take start ++ [frame] := by
      rw [Vector.toList_setIfInBounds,
        List.take_succ_eq_append_getElem (by simpa only [List.length_set] using inside),
        List.getElem_set_self, List.take_set, List.set_eq_of_length_le]
      rw [List.length_take]
      exact Nat.min_le_left _ _
    rw [wrote, List.append_assoc, List.singleton_append]

end Copying

namespace FixedBatcher
variable {k : FrameKind}

/-- The frames are written behind those that are buffered. -/
def copyIn (s : FixedBatching k) (frames : List k.Frame) : FixedBatching k :=
  { s with
    batcher := { frames := copyFromSlice s.batcher.frames s.batcher.len frames
                 len := s.batcher.len + frames.length }
    copied := s.copied ++ frames }

theorem copyIn_nil (s : FixedBatching k) : copyIn s [] = s := by
  rw [copyIn, List.append_nil]
  rfl

theorem copyIn_cons (s : FixedBatching k) (frame : k.Frame) (frames : List k.Frame) :
    copyIn (copyIn s [frame]) frames = copyIn s (frame :: frames) := by
  simp only [copyIn, copyFromSlice, List.length_cons, List.length_nil, List.append_assoc,
    List.singleton_append, Nat.add_assoc, Nat.add_comm 1, Nat.zero_add]

theorem run_store {s : FixedBatching k} (room : s.batcher.len < k.capacity) (frame : k.Frame) :
    (store frame).run s = (.ok (), copyIn s [frame]) := by
  rw [store, Method.run_read_bind]
  dsimp only
  rw [if_pos room]
  rfl

theorem run_flushFull_room {s : FixedBatching k} (room : s.batcher.len < k.capacity)
    (flush : Batch k Unit) : (flushFull flush).run s = (.ok (), s) := by
  rw [flushFull, Method.run_read_bind, if_neg (Nat.ne_of_lt room)]
  rfl

theorem run_flushFull_full {s : FixedBatching k} (full : s.batcher.len = k.capacity)
    (flush : Batch k Unit) : (flushFull flush).run s = flush.run s := by
  rw [flushFull, Method.run_read_bind, if_pos full]

theorem run_pushBy_room {s : FixedBatching k} (room : s.batcher.len < k.capacity)
    (flush : Batch k Unit) (frame : k.Frame) :
    (pushBy flush frame).run s = (.ok (), copyIn s [frame]) := by
  rw [pushBy, Method.run_bind_ok (run_flushFull_room room flush), run_store room]

theorem run_forEach_room (flush : Batch k Unit) {frames : List k.Frame} {s : FixedBatching k}
    (room : s.batcher.len + frames.length ≤ k.capacity) :
    (Method.forEach frames (pushBy flush)).run s = (.ok (), copyIn s frames) := by
  induction frames generalizing s with
  | nil => rw [copyIn_nil, Method.forEach_nil, Method.run_pure]
  | cons frame frames ih =>
    rw [List.length_cons] at room
    rw [Method.forEach_cons, Method.run_bind_ok (run_pushBy_room (by omega) flush frame), ih,
      copyIn_cons]
    change s.batcher.len + 1 + frames.length ≤ k.capacity
    omega

theorem run_copyChunk {s : FixedBatching k} (room : s.batcher.len ≤ k.capacity)
    {frames : List k.Frame} {idx : Nat} (inside : idx ≤ frames.length) :
    (copyChunk frames idx).run s =
      (.ok (idx + min (frames.length - idx) (k.capacity - s.batcher.len)),
        copyIn s ((frames.drop idx).take
          (min (frames.length - idx) (k.capacity - s.batcher.len)))) := by
  have size : ((frames.drop idx).take
      (min (frames.length - idx) (k.capacity - s.batcher.len))).length =
      min (frames.length - idx) (k.capacity - s.batcher.len) := by
    rw [List.length_take, List.length_drop]
    exact Nat.min_eq_left (Nat.min_le_left _ _)
  rw [copyChunk, Method.run_read_bind]
  dsimp only
  rw [if_pos ⟨room, by omega, by omega⟩, Method.run_update_bind, copyIn, size]
  rfl

/-- A flush that goes through leaves the buffer empty. -/
def Empties (flush : Batch k Unit) : Prop :=
  ∀ s s', flush.run s = (.ok (), s') → s'.batcher.len = 0

theorem empties_flushBy (send : Nat → Vector k.Frame k.capacity → Sending Unit) :
    Empties (flushBy send) := by
  intro s s' run
  rw [flushBy, Method.run_read_bind] at run
  dsimp only at run
  split_ifs at run with none
  · cases run
    exact none
  · obtain ⟨_, t, -, rest⟩ := Method.of_run_bind_ok run
    cases rest
    rfl

theorem sliceLoop_end (flush : Batch k Unit) {frames : List k.Frame} {idx : Nat}
    (done : frames.length ≤ idx) (turns : Nat) : sliceLoop flush frames turns idx = pure () := by
  cases turns with
  | zero => exact if_neg (Nat.not_lt.mpr done)
  | succ turns => exact if_neg (Nat.not_lt.mpr done)

section Slice
variable {flush : Batch k Unit} (empties : Empties flush)
include empties

theorem room_of_flushFull {s s' : FixedBatching k} (fits : s.batcher.len ≤ k.capacity)
    (run : (flushFull flush).run s = (.ok (), s')) : s'.batcher.len < k.capacity := by
  rcases Nat.lt_or_eq_of_le fits with room | full
  · rw [run_flushFull_room room] at run
    cases run
    exact room
  · rw [run_flushFull_full full] at run
    rw [empties _ _ run]
    exact k.capacity_pos

theorem run_forEach_flushFull {frames : List k.Frame} (some : frames ≠ []) {s : FixedBatching k}
    (fits : s.batcher.len ≤ k.capacity) :
    (Method.forEach frames (pushBy flush)).run s =
      (flushFull flush >>= fun _ => Method.forEach frames (pushBy flush)).run s := by
  rcases frames with _ | ⟨frame, frames⟩
  · exact absurd rfl some
  · rw [Method.forEach_cons, pushBy, Method.bind_assoc]
    refine Method.run_bind_congr fun _ s' run => ?_
    have room := room_of_flushFull empties fits run
    rw [Method.run_bind_ok (run_flushFull_room room flush)]

theorem run_pushes_flushFull {frames : List k.Frame} (some : frames ≠ []) {s : FixedBatching k}
    (fits : s.batcher.len ≤ k.capacity) :
    (Method.forEach frames (pushBy flush) >>= fun _ => flushFull flush).run s =
      (flushFull flush >>= fun _ => Method.forEach frames (pushBy flush) >>=
        fun _ => flushFull flush).run s := by
  rw [← Method.bind_assoc, Method.run_bind, run_forEach_flushFull empties some fits,
    ← Method.run_bind]

/-- Induction on the turns: what is left of the slice is pushed frame by frame, and then a buffer
that is full is flushed. -/
theorem run_sliceLoop {frames : List k.Frame} {turns idx : Nat}
    (enough : frames.length - idx ≤ turns) (left : idx < frames.length) {s : FixedBatching k}
    (fits : s.batcher.len ≤ k.capacity) :
    (sliceLoop flush frames turns idx).run s =
      (Method.forEach (frames.drop idx) (pushBy flush) >>= fun _ => flushFull flush).run s := by
  induction turns generalizing idx s with
  | zero => omega
  | succ turns ih =>
    have some : frames.drop idx ≠ [] := by
      rw [Ne, List.drop_eq_nil_iff]
      omega
    rw [sliceLoop, if_pos left, run_pushes_flushFull empties some fits]
    refine Method.run_bind_congr fun _ s₁ run => ?_
    have room := room_of_flushFull empties fits run
    rw [Method.run_bind_ok (run_copyChunk (Nat.le_of_lt room) (Nat.le_of_lt left))]
    generalize hn : min (frames.length - idx) (k.capacity - s₁.batcher.len) = n
    have chunkLength : ((frames.drop idx).take n).length = n := by
      rw [List.length_take, List.length_drop]
      omega
    have pushes : (Method.forEach (frames.drop idx) (pushBy flush) >>=
          fun _ => flushFull flush).run s₁ =
        (Method.forEach (frames.drop (idx + n)) (pushBy flush) >>=
          fun _ => flushFull flush).run (copyIn s₁ ((frames.drop idx).take n)) := by
      conv_lhs => rw [← List.take_append_drop n (frames.drop idx), Method.forEach_append,
        Method.bind_assoc, List.drop_drop]
      exact Method.run_bind_ok (run_forEach_room flush (by omega))
    have len : (copyIn s₁ ((frames.drop idx).take n)).batcher.len = s₁.batcher.len + n :=
      congrArg (s₁.batcher.len + ·) chunkLength
    rw [pushes]
    generalize copyIn s₁ ((frames.drop idx).take n) = s₂ at len
    by_cases more : idx + n < frames.length
    · -- the chunk has filled the buffer, and the next push would flush it first
      have left : frames.drop (idx + n) ≠ [] := by
        rw [Ne, List.drop_eq_nil_iff]
        omega
      rw [run_pushes_flushFull empties left (by omega)]
      refine Method.run_bind_congr fun _ s₃ run₂ => ?_
      exact ih (by omega) more (Nat.le_of_lt (room_of_flushFull empties (by omega) run₂))
    · rw [sliceLoop_end flush (Nat.le_of_not_lt more), Method.bind_pure_unit,
        List.drop_eq_nil_of_le (Nat.le_of_not_lt more)]
      rfl

theorem run_slice {frames : List k.Frame} (some : frames ≠ []) {s : FixedBatching k}
    (fits : s.batcher.len ≤ k.capacity) :
    (sliceLoop flush frames frames.length 0).run s =
      (Method.forEach frames (pushBy flush) >>= fun _ => flushFull flush).run s :=
  run_sliceLoop empties (Nat.le_refl _) (List.length_pos_of_ne_nil some) fits

end Slice

def sentFrames (s : FixedBatching k) : List k.Frame := s.client.channel.sent.flatMap k.framesOf

/-- What is on the channel and in the buffer is what was copied, and the buffer is within its
bounds. -/
structure Exact (s : FixedBatching k) : Prop where
  frames : sentFrames s ++ s.batcher.contents = s.copied
  fits : s.batcher.len ≤ k.capacity

/-- The call returns, keeps the bookkeeping and copies so many of the frames, all if it succeeds. -/
def Copies (frames : List k.Frame) (m : Batch k Unit) : Prop :=
  ∀ s, Exact s → (m.run s).1.isPanic = false ∧ Exact (m.run s).2 ∧
    ∃ n, (m.run s).2.copied = s.copied ++ frames.take n ∧
      ((m.run s).1.isOk = true → frames.length ≤ n)

theorem copies_none {m : Batch k Unit}
    (h : ∀ s, Exact s → (m.run s).1.isPanic = false ∧ Exact (m.run s).2 ∧
      (m.run s).2.copied = s.copied) : Copies [] m := by
  intro s exact'
  obtain ⟨calm, kept, same⟩ := h s exact'
  refine ⟨calm, kept, 0, ?_, fun _ => Nat.le_refl 0⟩
  rw [same, List.take_nil, List.append_nil]

theorem copies_pure : Copies (k := k) [] (pure ()) :=
  copies_none fun _ exact' => ⟨rfl, exact', rfl⟩

theorem Copies.bind {xs ys : List k.Frame} {m m' : Batch k Unit} (hm : Copies xs m)
    (hm' : Copies ys m') : Copies (xs ++ ys) (m >>= fun _ => m') := by
  intro s exact'
  obtain ⟨calm, kept, n, copied, all⟩ := hm s exact'
  rcases hr : m.run s with ⟨r, t⟩
  rw [hr] at calm kept copied all
  cases r with
  | ok _ =>
    rw [Method.run_bind_ok hr]
    obtain ⟨calm', kept', n', copied', all'⟩ := hm' t kept
    refine ⟨calm', kept', xs.length + n', ?_, fun ok => ?_⟩
    · rw [copied', copied, List.take_of_length_le (all rfl), List.take_length_add_append,
        List.append_assoc]
    · rw [List.length_append]
      exact Nat.add_le_add_left (all' ok) _
  | err e =>
    rw [Method.run_bind_err hr]
    refine ⟨rfl, kept, min n xs.length, ?_, fun ok => absurd ok Bool.false_ne_true⟩
    rw [copied, List.take_append_of_le_length (Nat.min_le_right _ _), List.take_eq_take_min]
  | panic => contradiction

theorem copies_forEach {push : k.Frame → Batch k Unit} (h : ∀ frame, Copies [frame] (push frame))
    (frames : List k.Frame) : Copies frames (Method.forEach frames push) := by
  induction frames with
  | nil => exact copies_pure
  | cons frame frames ih => exact (h frame).bind ih

/-- The command goes onto the channel, or the call fails without it. -/
def Transmits (transmit : HidCommand → Sending Unit) : Prop :=
  ∀ cmd c, (∃ c', (transmit cmd).run c = (.ok (), c') ∧
      c'.channel.sent = c.channel.sent ++ [cmd]) ∨
    ∃ e c', (transmit cmd).run c = (.err e, c') ∧ c'.channel.sent = c.channel.sent

theorem transmits_send : Transmits HidClient.send := by
  intro cmd c
  cases ha : c.channel.answers c.channel.sends with
  | accepted => exact .inl ⟨c.took cmd, by simp [HidClient.send, ha, HidClient.took], rfl⟩
  | full => exact .inl ⟨c.took cmd, by simp [HidClient.send, ha, HidClient.took], rfl⟩
  | disconnected =>
    exact .inr ⟨HidClient.channelDown, c.refused, by simp [HidClient.send, ha, HidClient.refused], rfl⟩

theorem transmits_trySend : Transmits HidClient.trySend := by
  intro cmd c
  cases ha : c.channel.answers c.channel.sends with
  | accepted => exact .inl ⟨c.took cmd, by simp [HidClient.trySend, ha, HidClient.took], rfl⟩
  | full =>
    exact .inr ⟨HidClient.channelFull, c.refused,
      by simp [HidClient.trySend, ha, HidClient.refused], rfl⟩
  | disconnected =>
    exact .inr ⟨HidClient.channelDown, c.refused,
      by simp [HidClient.trySend, ha, HidClient.refused], rfl⟩

theorem send_eq (k : FrameKind) : k.send = HidClient.sendFixedBy HidClient.send k := by
  cases k <;> rfl

theorem trySend_eq (k : FrameKind) : k.trySend = HidClient.sendFixedBy HidClient.trySend k := by
  cases k <;> rfl

section Sends
variable {transmit : HidCommand → Sending Unit} (transmits : Transmits transmit)
include transmits

theorem copies_flushBy : Copies (k := k) [] (flushBy (HidClient.sendFixedBy transmit k)) := by
  refine copies_none fun s exact' => ?_
  rw [flushBy, Method.run_read_bind]
  dsimp only
  split_ifs with none
  · exact ⟨rfl, exact', rfl⟩
  · rw [HidClient.sendFixedBy, if_neg none, if_neg (Nat.not_lt.mpr exact'.fits)]
    have whole := exact'.frames
    rcases transmits (k.command s.batcher.len s.batcher.frames) s.client with
      ⟨c, run, sent⟩ | ⟨e, c, run, sent⟩
    · rw [Method.run_bind_ok (by rw [Method.run_zoom, run]), Method.run_update]
      refine ⟨rfl, ⟨?_, Nat.zero_le _⟩, rfl⟩
      rw [← whole, sentFrames, sentFrames]
      dsimp only
      rw [sent, List.flatMap_append, List.flatMap_singleton, FrameKind.framesOf_command exact'.fits]
      exact List.append_nil _
    · rw [Method.run_bind_err (by rw [Method.run_zoom, run])]
      refine ⟨rfl, ⟨?_, exact'.fits⟩, rfl⟩
      rw [← whole, sentFrames, sentFrames]
      dsimp only
      rw [sent]

theorem copies_flushFull :
    Copies (k := k) [] (flushFull (flushBy (HidClient.sendFixedBy transmit k))) := by
  intro s exact'
  rcases Nat.lt_or_eq_of_le exact'.fits with room | full
  · rw [run_flushFull_room room]
    exact copies_pure s exact'
  · rw [run_flushFull_full full]
    exact copies_flushBy transmits s exact'

end Sends

theorem exact_copyIn {s : FixedBatching k} (exact' : Exact s) {frames : List k.Frame}
    (room : s.batcher.len + frames.length ≤ k.capacity) : Exact (copyIn s frames) where
  frames := by
    change sentFrames s ++ (copyFromSlice s.batcher.frames s.batcher.len frames).toList.take
      (s.batcher.len + frames.length) = s.copied ++ frames
    rw [take_copyFromSlice _ room, ← List.append_assoc, ← exact'.frames, contents]
  fits := room

section Sends
variable {transmit : HidCommand → Sending Unit} (transmits : Transmits transmit)
include transmits

theorem copies_pushBy (frame : k.Frame) :
    Copies [frame] (pushBy (flushBy (HidClient.sendFixedBy transmit k)) frame) := by
  intro s exact'
  obtain ⟨calm, kept, n, copied, -⟩ := copies_flushFull transmits s exact'
  rw [List.take_nil, List.append_nil] at copied
  rw [pushBy]
  rcases hr : (flushFull (flushBy (HidClient.sendFixedBy transmit k))).run s with ⟨r, t⟩
  rw [hr] at calm kept copied
  cases r with
  | ok _ =>
    have room := room_of_flushFull (empties_flushBy _) exact'.fits hr
    rw [Method.run_bind_ok hr, run_store room]
    exact ⟨rfl, exact_copyIn kept room, 1, congrArg (· ++ [frame]) copied, fun _ => Nat.le_refl 1⟩
  | err e =>
    rw [Method.run_bind_err hr]
    refine ⟨rfl, kept, 0, ?_, fun ok => absurd ok Bool.false_ne_true⟩
    rw [List.take_zero, List.append_nil]
    exact copied
  | panic => contradiction

theorem copies_sliceLoop (frames : List k.Frame) :
    Copies frames
      (sliceLoop (flushBy (HidClient.sendFixedBy transmit k)) frames frames.length 0) := by
  by_cases none : frames = []
  · rw [none]
    exact copies_pure
  · intro s exact'
    have pushed := (copies_forEach (copies_pushBy transmits) frames).bind
      (copies_flushFull (k := k) transmits) s exact'
    rw [List.append_nil] at pushed
    rw [run_slice (empties_flushBy _) none exact'.fits]
    exact pushed

end Sends

inductive Call (k : FrameKind) where
  | push (frame : k.Frame)
  | tryPush (frame : k.Frame)
  | pushMany (frames : List k.Frame)
  | tryPushMany (frames : List k.Frame)
  | pushManySlice (frames : List k.Frame)
  | tryPushManySlice (frames : List k.Frame)
  | flush
  | tryFlush

namespace Call

def method : Call k → Batch k Unit
  | push frame => FixedBatcher.push frame
  | tryPush frame => FixedBatcher.tryPush frame
  | pushMany frames => FixedBatcher.pushMany frames
  | tryPushMany frames => FixedBatcher.tryPushMany frames
  | pushManySlice frames => FixedBatcher.pushManySlice frames
  | tryPushManySlice frames => FixedBatcher.tryPushManySlice frames
  | flush => FixedBatcher.flush
  | tryFlush => FixedBatcher.tryFlush

def frames : Call k → List k.Frame
  | push frame | tryPush frame => [frame]
  | pushMany frames | tryPushMany frames | pushManySlice frames | tryPushManySlice frames => frames
  | flush | tryFlush => []

theorem copies (call : Call k) : Copies call.frames call.method := by
  have one : ∀ frame : k.Frame, Copies [frame] (FixedBatcher.push frame) := fun frame => by
    rw [FixedBatcher.push, FixedBatcher.flush, send_eq]
    exact copies_pushBy transmits_send frame
  have tryOne : ∀ frame : k.Frame, Copies [frame] (FixedBatcher.tryPush frame) := fun frame => by
    rw [FixedBatcher.tryPush, FixedBatcher.tryFlush, trySend_eq]
    exact copies_pushBy transmits_trySend frame
  cases call with
  | push frame => exact one frame
  | tryPush frame => exact tryOne frame
  | pushMany frames => exact copies_forEach one frames
  | tryPushMany frames => exact copies_forEach tryOne frames
  | pushManySlice frames =>
    rw [method, FixedBatcher.pushManySlice, FixedBatcher.flush, send_eq]
    exact copies_sliceLoop transmits_send frames
  | tryPushManySlice frames =>
    rw [method, FixedBatcher.tryPushManySlice, FixedBatcher.tryFlush, trySend_eq]
    exact copies_sliceLoop transmits_trySend frames
  | flush =>
    rw [method, FixedBatcher.flush, send_eq]
    exact copies_flushBy transmits_send
  | tryFlush =>
    rw [method, FixedBatcher.tryFlush, trySend_eq]
    exact copies_flushBy transmits_trySend

end Call

/-- A call that fails leaves its owner with the batcher as it is then. -/
def step (s : FixedBatching k) (call : Call k) : FixedBatching k := (call.method.run s).2

def start (k : FrameKind) (answers : Nat → SendAnswer) (gamepadRing : Option FastPath) :
    FixedBatching k :=
  { batcher := new k, client := { channel := { sent := [], sends := 0, answers }, gamepadRing }
    copied := [] }

theorem exact_start (answers : Nat → SendAnswer) (gamepadRing : Option FastPath) :
    Exact (start k answers gamepadRing) :=
  ⟨rfl, Nat.zero_le _⟩

theorem exact_after (answers : Nat → SendAnswer) (gamepadRing : Option FastPath)
    (calls : List (Call k)) : Exact (Run.after step (start k answers gamepadRing) calls) :=
  Run.preserved Exact (fun s call exact' => (call.copies s exact').2.1)
    (exact_start answers gamepadRing) calls

end FixedBatcher

open FixedBatcher

/-- At every point of a run the channel and the buffer hold what was copied, in order and within the
bounds, and the next call returns, having copied a prefix of its frames, all of them if it
succeeds. -/
theorem fixed_batches_exact (k : FrameKind) (answers : Nat → SendAnswer)
    (gamepadRing : Option FastPath) (calls : List (Call k)) (call : Call k) :
    let s := Run.after step (start k answers gamepadRing) calls
    s.client.channel.sent.flatMap k.framesOf ++ s.batcher.contents = s.copied ∧
      s.batcher.len ≤ k.capacity ∧ (call.method.run s).1 ≠ .panic ∧
      ∃ n, (call.method.run s).2.copied = s.copied ++ call.frames.take n ∧
        ((call.method.run s).1.isOk = true → call.frames.length ≤ n) := by
  intro s
  have exact' : Exact s := exact_after answers gamepadRing calls
  obtain ⟨calm, -, copied⟩ := call.copies s exact'
  refine ⟨exact'.frames, exact'.fits, fun panics => ?_, copied⟩
  rw [panics] at calm
  contradiction

/-- The bulk push is the single pushes up to the first error, and after frames that were all
accepted the flush of a buffer that is full. It copies what the single pushes copy, and fails where
they do or where that flush does. -/
theorem bulk_push_flushes_full (k : FrameKind) (answers : Nat → SendAnswer)
    (gamepadRing : Option FastPath) (calls : List (Call k)) (frames : List k.Frame) :
    let s := Run.after step (start k answers gamepadRing) calls
    let last : Batch k Unit := if frames = [] then pure () else flushFull tryFlush
    (tryPushManySlice frames).run s = (tryPushMany frames >>= fun _ => last).run s ∧
      ((tryPushManySlice frames).run s).2.copied = ((tryPushMany frames).run s).2.copied ∧
      (((tryPushManySlice frames).run s).1.isOk = true ↔
        ((tryPushMany frames).run s).1.isOk = true ∧
          (last.run ((tryPushMany frames).run s).2).1.isOk = true) := by
  intro s last
  have exact' : Exact s := exact_after answers gamepadRing calls
  have same : (tryPushManySlice frames).run s = (tryPushMany frames >>= fun _ => last).run s := by
    by_cases none : frames = []
    · simp only [last, if_pos none, none]
      rfl
    · simp only [last, if_neg none]
      exact run_slice (empties_flushBy _) none exact'.fits
  have nothing : Copies [] last := by
    by_cases none : frames = []
    · simp only [last, if_pos none]
      exact copies_pure
    · simp only [last, if_neg none, tryFlush, trySend_eq]
      exact copies_flushFull transmits_trySend
  refine ⟨same, ?_, same ▸ Method.isOk_run_bind ..⟩
  rw [same]
  obtain ⟨-, kept, -⟩ := (Call.tryPushMany frames).copies s exact'
  change Exact ((tryPushMany frames).run s).2 at kept
  rcases hr : (tryPushMany frames).run s with ⟨r, t⟩
  rw [hr] at kept
  cases r with
  | ok _ =>
    obtain ⟨-, -, n, copied, -⟩ := nothing t kept
    rw [Method.run_bind_ok hr, copied, List.take_nil, List.append_nil]
  | err e => rw [Method.run_bind_err hr]
  | panic => rw [Method.run_bind_panic hr]

/-- A slice that just fills the batch over a full channel: every single push succeeds. -/
theorem exact_fill_differs :
    let s := start .keyboard (fun _ => .full) none
    let frames := List.replicate keyboardBatchFrames (FrameKind.empty .keyboard)
    ((tryPushManySlice frames).run s).1.isOk = false ∧ ((tryPushMany frames).run s).1.isOk = true := by
  decide +kernel

end HidConnect

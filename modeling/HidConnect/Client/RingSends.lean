import HidConnect.Client.RingBatch
import HidConnect.Client.BatcherOnce

/-! The batch sends of a ring client against its single sends. -/
namespace HidConnect
open Fallible

def FastPath.free (p : FastPath) : Nat := ringCapacity - p.ring.contents.length

namespace HidClient

theorem push_free {p : FastPath} (room : 0 < p.free) (frame : GamepadFrameRaw) :
    (p.push frame).1 = true ∧ p.free ≤ (p.push frame).2.free + 1 ∧
      (p.push frame).2.entered = p.entered ++ [frame] := by
  obtain ⟨-, -, -, fate⟩ := p.push_fate frame
  unfold FastPath.free at room ⊢
  rw [if_pos (by omega)] at fate
  obtain ⟨pushed, size, entered, -⟩ := fate
  exact ⟨pushed, by omega, entered⟩

theorem ringPush_run (frame : GamepadFrameRaw) (p : FastPath) (sends : Nat) :
    (ringPush frame).run (ringClient p sends) =
      (.ok (p.push frame).1, ringClient (p.push frame).2 sends) := rfl

theorem trySendOne_room {p : FastPath} (room : 0 < p.free) (frame : GamepadFrameRaw)
    (command : HidCommand) (sends : Nat) :
    (trySendOne frame command).run (ringClient p sends) =
      (.ok (), ringClient (p.push frame).2 sends) := by
  have ring : hasRing.run (ringClient p sends) = (.ok true, ringClient p sends) := rfl
  rw [trySendOne, Method.run_bind_ok ring, if_pos rfl,
    Method.run_bind_ok (ringPush_run frame p sends), (push_free room frame).1]
  rfl

theorem oneByOne_room (frames : List GamepadFrameRaw) {p : FastPath} (room : frames.length ≤ p.free)
    (sends : Nat) :
    ∃ p', (Method.forEach frames trySendFrame).run (ringClient p sends) =
        (.ok (), ringClient p' sends) ∧
      (spill frames).run (ringClient p sends) = (.ok [], ringClient p' sends) ∧
      p'.entered = p.entered ++ frames := by
  induction frames generalizing p with
  | nil => exact ⟨p, rfl, rfl, (List.append_nil _).symm⟩
  | cons frame rest ih =>
    rw [List.length_cons] at room
    obtain ⟨pushed, left, joined⟩ := push_free (p := p) (by omega) frame
    obtain ⟨p', single, batch, entered⟩ := ih (p := (p.push frame).2) (by omega)
    refine ⟨p', ?_, ?_, ?_⟩
    · have first := trySendOne_room (p := p) (by omega) frame (.gamepadFrameRaw frame) sends
      rw [Method.forEach_cons]
      exact (Method.run_bind_ok first).trans single
    · rw [spill, Method.run_bind_ok (ringPush_run frame p sends), Method.run_bind_ok batch, pushed]
      rfl
    · rw [entered, joined, List.append_assoc]
      rfl

/-- The call returns `Ok` with the frames in the ring, in order, as single sends leave them. -/
def AsOneByOne (m : Sending Unit) (p : FastPath) (sends : Nat) (frames : List GamepadFrameRaw) :
    Prop :=
  ∃ p', m.run (ringClient p sends) = (.ok (), ringClient p' sends) ∧
    (Method.forEach frames trySendFrame).run (ringClient p sends) = (.ok (), ringClient p' sends) ∧
    p'.entered = p.entered ++ frames

theorem asOneByOne_nil (p : FastPath) (sends : Nat) : AsOneByOne (pure ()) p sends [] :=
  ⟨p, rfl, rfl, (List.append_nil _).symm⟩

theorem asOneByOne_single {p : FastPath} (room : 0 < p.free) (frame : GamepadFrameRaw)
    {m : Sending Unit} {sends : Nat}
    (run : m.run (ringClient p sends) = (.ok (), ringClient (p.push frame).2 sends)) :
    AsOneByOne m p sends [frame] := by
  refine ⟨_, run, ?_, (push_free room frame).2.2⟩
  rw [Method.forEach_cons]
  exact Method.run_bind_ok (trySendOne_room room frame (.gamepadFrameRaw frame) sends)

theorem not_asOneByOne {m : Sending Unit} {p : FastPath} {sends : Nat}
    {frames : List GamepadFrameRaw} {e : Error} {c : HidClient}
    (h : m.run (ringClient p sends) = (.err e, c)) : ¬AsOneByOne m p sends frames := by
  rintro ⟨p', run, -⟩
  rw [h] at run
  cases congrArg Prod.fst run

/-- A send that tells no frame, one frame and more apart, and gives more to the stub. -/
theorem shape_iff {m : List GamepadFrameRaw → Sending Unit} (single : GamepadFrameRaw → HidCommand)
    (many : List GamepadFrameRaw → HidCommand) (none : m [] = pure ())
    (one : ∀ frame, m [frame] = trySendOne frame (single frame))
    (more : ∀ a b rest, m (a :: b :: rest) = trySend (many (a :: b :: rest)))
    (frames : List GamepadFrameRaw) {p : FastPath} (room : frames.length ≤ p.free) (sends : Nat) :
    AsOneByOne (m frames) p sends frames ↔ frames.length ≤ 1 := by
  match frames with
  | [] =>
    rw [none]
    exact iff_of_true (asOneByOne_nil p sends) (Nat.zero_le _)
  | [frame] =>
    rw [one]
    exact iff_of_true (asOneByOne_single room frame (trySendOne_room room frame _ sends))
      (Nat.le_refl _)
  | a :: b :: rest =>
    rw [more]
    refine iff_of_false (not_asOneByOne (e := channelDown) rfl) ?_
    simp

theorem fixed_iff (dedupe : Bool) (len : Nat)
    (frames : Vector GamepadFrameRaw directGamepadBatchFrames) {p : FastPath} (room : len ≤ p.free)
    (sends : Nat) :
    AsOneByOne (trySendFrameBatchFixedInternal len frames dedupe) p sends (frames.toList.take len) ↔
      len ≤ 1 := by
  rw [trySendFrameBatchFixedInternal]
  split
  · rename_i none
    subst none
    exact iff_of_true (asOneByOne_nil p sends) (Nat.zero_le _)
  · split
    · rename_i long
      unfold FastPath.free ringCapacity at room
      unfold directGamepadBatchFrames at long
      omega
    · split
      · rename_i one
        subst one
        rw [take_one]
        refine iff_of_true ?_ (Nat.le_refl _)
        cases dedupe
        · exact asOneByOne_single room _ (trySendOne_room room _ _ sends)
        · exact asOneByOne_single room _ (trySendOne_room room _ _ sends)
      · refine iff_of_false (not_asOneByOne (e := channelDown) rfl) ?_
        omega

theorem tryFixedInternal_stub (dedupe : Bool) {len : Nat} (many : 2 ≤ len)
    (frames : Vector GamepadFrameRaw directGamepadBatchFrames) {p : FastPath} (room : len ≤ p.free)
    (sends : Nat) :
    ∃ e c, (trySendFrameBatchFixedInternal len frames dedupe).run (ringClient p sends) =
      (.err e, c) := by
  have few : len ≤ ringCapacity := Nat.le_trans room (Nat.sub_le ..)
  have short : ¬len > directGamepadBatchFrames := by
    unfold ringCapacity at few
    unfold directGamepadBatchFrames
    omega
  rw [trySendFrameBatchFixedInternal, if_neg (by omega), if_neg short, if_neg (by omega)]
  exact ⟨channelDown, _, rfl⟩

theorem fixedInternal_room (dedupe : Bool) {len : Nat} (many : 2 ≤ len)
    (frames : Vector GamepadFrameRaw directGamepadBatchFrames) {p : FastPath} (room : len ≤ p.free)
    (sends : Nat) :
    AsOneByOne (sendFrameBatchFixedInternal len frames dedupe) p sends (frames.toList.take len) := by
  have few : len ≤ ringCapacity := Nat.le_trans room (Nat.sub_le ..)
  have short : ¬len > directGamepadBatchFrames := by
    unfold ringCapacity at few
    unfold directGamepadBatchFrames
    omega
  have size : (frames.toList.take len).length = len := by
    rw [List.length_take, Vector.length_toList]
    omega
  obtain ⟨p', single, batch, entered⟩ :=
    oneByOne_room (frames.toList.take len) (p := p) (by omega) sends
  refine ⟨p', ?_, single, entered⟩
  have ring : hasRing.run (ringClient p sends) = (.ok true, ringClient p sends) := rfl
  rw [sendFrameBatchFixedInternal, if_neg (by omega), if_neg short, if_neg (by omega),
    Method.run_bind_ok ring, if_pos rfl, Method.run_bind_ok batch]
  rfl

theorem sendFrame_room {p : FastPath} (room : 0 < p.free) (frame : GamepadFrameRaw)
    (command : HidCommand) (sends : Nat) :
    (do if ← ringPush frame then pure () else send command : Sending Unit).run
      (ringClient p sends) = (.ok (), ringClient (p.push frame).2 sends) := by
  rw [Method.run_bind_ok (ringPush_run frame p sends), (push_free room frame).1]
  rfl

end HidClient

namespace FrameBatcher
open HidClient

/-- The flush empties the buffer into the ring as single sends would. -/
def FlushesOneByOne (m : Method Error (Batching GamepadFrameRaw) Unit)
    (b : FrameBatcher GamepadFrameRaw) (p : FastPath) (sends : Nat) : Prop :=
  ∃ b' p', m.run ⟨b, ringClient p sends⟩ = (.ok (), ⟨b', ringClient p' sends⟩) ∧
    b'.contents = [] ∧
    (Method.forEach b.contents trySendFrame).run (ringClient p sends) =
      (.ok (), ringClient p' sends) ∧
    p'.entered = p.entered ++ b.contents

section Flush
variable {S : BatchSends GamepadFrameRaw} {b : FrameBatcher GamepadFrameRaw} {p : FastPath}
  {sends : Nat} {m : Sending Unit} {f : FrameBatcher GamepadFrameRaw → FrameBatcher GamepadFrameRaw}

theorem flushes_of_sent (empty : (f b).contents = []) (h : AsOneByOne m p sends b.contents)
    (run : (flushBy S noneFrame).run ⟨b, ringClient p sends⟩ =
      (onClient m >>= fun _ => edit f).run ⟨b, ringClient p sends⟩) :
    FlushesOneByOne (flushBy S noneFrame) b p sends := by
  obtain ⟨p', done, single, entered⟩ := h
  refine ⟨f b, p', ?_, empty, single, entered⟩
  exact run.trans (Method.run_bind_ok (onClient_ok done))

theorem not_flushes_of_stuck (h : ∃ e c, m.run (ringClient p sends) = (.err e, c))
    (run : (flushBy S noneFrame).run ⟨b, ringClient p sends⟩ =
      (onClient m >>= fun _ => edit f).run ⟨b, ringClient p sends⟩) :
    ¬FlushesOneByOne (flushBy S noneFrame) b p sends := by
  obtain ⟨e, c, failed⟩ := h
  rintro ⟨b', p', done, -⟩
  rw [run, Method.run_bind_err (onClient_err failed)] at done
  cases congrArg Prod.fst done

end Flush

/-- A flush whose sends of a stack buffer agree with single sends or not, and whose sends of a `Vec`
never do. -/
theorem flush_iff (S : BatchSends GamepadFrameRaw) (agrees : Prop) (p : FastPath) (sends : Nat)
    (one : ∀ frame, 0 < p.free →
      (S.one frame).run (ringClient p sends) = (.ok (), ringClient (p.push frame).2 sends))
    (fixed : ∀ len frames, 2 ≤ len → len ≤ p.free →
      agrees ∧ AsOneByOne (S.fixed len frames) p sends (frames.toList.take len) ∨
      ¬agrees ∧ ∃ e c, (S.fixed len frames).run (ringClient p sends) = (.err e, c))
    (owned : ∀ frames, ∃ e c, (S.owned frames).run (ringClient p sends) = (.err e, c))
    {b : FrameBatcher GamepadFrameRaw} (room : b.len ≤ p.free) :
    FlushesOneByOne (flushBy S noneFrame) b p sends ↔ (agrees ∧ b.useFixed = true) ∨ b.len ≤ 1 := by
  rcases flushBy_cases S noneFrame b with ⟨empty, size, nothing⟩ | ⟨m, f, send, empties, run⟩
  · refine iff_of_true ⟨b, p, nothing _, empty, by rw [empty]; rfl, by simp [empty]⟩ (.inr ?_)
    omega
  · cases send with
    | one frame held size =>
      refine iff_of_true (flushes_of_sent empties.contents ?_ (run _)) (.inr (Nat.le_of_eq size))
      exact held ▸ asOneByOne_single (by omega) frame (one frame (by omega))
    | fixed mode size many held =>
      rw [mode, and_iff_left rfl, or_iff_left (by omega : ¬b.len ≤ 1)]
      rcases fixed b.fixedLen b.fixedFrames many (by omega) with ⟨yes, same⟩ | ⟨no, failed⟩
      · exact iff_of_true (flushes_of_sent empties.contents (held ▸ same) (run _)) yes
      · exact iff_of_false (not_flushes_of_stuck failed (run _)) no
    | owned mode many held =>
      refine iff_of_false (not_flushes_of_stuck (owned b.frames) (run _)) ?_
      rintro (⟨_, fixed⟩ | few)
      · rw [mode] at fixed
        contradiction
      · omega

end FrameBatcher

open HidClient in
/-- With as many free slots as frames, a non-blocking batch send of a ring client does what single
sends do exactly for at most one frame, and so does the `try_flush` of a batcher. The blocking flush
also does for a stack buffer. -/
theorem ring_sends_agree (p : FastPath) (sends : Nat) :
    (∀ frames : List GamepadFrameRaw, frames.length ≤ p.free →
      (AsOneByOne (trySendFrameBatch frames) p sends frames ↔ frames.length ≤ 1) ∧
      (AsOneByOne (trySendFrameBatchUnchecked frames) p sends frames ↔ frames.length ≤ 1)) ∧
    (∀ (len : Nat) (frames : Vector GamepadFrameRaw directGamepadBatchFrames), len ≤ p.free →
      (AsOneByOne (trySendFrameBatchFixed len frames) p sends (frames.toList.take len) ↔ len ≤ 1) ∧
      (AsOneByOne (trySendFrameBatchFixedUnchecked len frames) p sends (frames.toList.take len) ↔
        len ≤ 1)) ∧
    ∀ (dedupe : Bool) (b : FrameBatcher GamepadFrameRaw), b.len ≤ p.free →
      (FrameBatcher.FlushesOneByOne (GamepadFrameBatcher.tryFlush dedupe) b p sends ↔ b.len ≤ 1) ∧
      (FrameBatcher.FlushesOneByOne (GamepadFrameBatcher.flush dedupe) b p sends ↔
        b.useFixed = true ∨ b.len ≤ 1) := by
  refine ⟨fun frames room => ⟨?_, ?_⟩, fun len frames room => ⟨?_, ?_⟩, fun dedupe b room => ⟨?_, ?_⟩⟩
  · exact shape_iff .gamepadFrameRaw .gamepadFrameRawBatch rfl (fun _ => rfl)
      (fun _ _ _ => rfl) frames room sends
  · exact shape_iff .gamepadFrameRawUnchecked .gamepadFrameRawBatchUnchecked rfl
      (fun _ => rfl) (fun _ _ _ => rfl) frames room sends
  · exact fixed_iff true len frames room sends
  · exact fixed_iff false len frames room sends
  · have flush := FrameBatcher.flush_iff (GamepadFrameBatcher.trySends dedupe) False p sends
      (fun frame free => ?_) (fun len frames many free => .inr ⟨not_false, ?_⟩)
      (fun frames => ⟨channelDown, _, rfl⟩) room
    · rwa [false_and, false_or] at flush
    · cases dedupe
      · exact trySendOne_room free frame _ sends
      · exact trySendOne_room free frame _ sends
    · cases dedupe
      · exact tryFixedInternal_stub false many frames free sends
      · exact tryFixedInternal_stub true many frames free sends
  · have flush := FrameBatcher.flush_iff (GamepadFrameBatcher.sends dedupe) True p sends
      (fun frame free => ?_) (fun len frames many free => .inl ⟨trivial, ?_⟩)
      (fun frames => ⟨channelDown, _, rfl⟩) room
    · rwa [true_and] at flush
    · cases dedupe
      · exact sendFrame_room free frame _ sends
      · exact sendFrame_room free frame _ sends
    · exact fixedInternal_room dedupe many frames free sends

/-- One frame into an empty ring. -/
theorem ring_sends_agree_one :
    HidClient.AsOneByOne (HidClient.trySendFrameBatch [noneFrame])
      (.start fun _ => { pops := 0, leaves := false }) 0 [noneFrame] :=
  ((ring_sends_agree (.start fun _ => { pops := 0, leaves := false }) 0).1 [noneFrame]
    (by decide)).1.mpr (by decide)

/-- Two frames into an empty ring: nothing is enqueued and the call fails. -/
theorem ring_batch_refused :
    ¬HidClient.AsOneByOne (HidClient.trySendFrameBatch [noneFrame, noneFrame])
      (.start fun _ => { pops := 0, leaves := false }) 0 [noneFrame, noneFrame] := by
  rintro ⟨p', run, -⟩
  cases congrArg Prod.fst run

end HidConnect

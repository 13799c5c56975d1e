import HidConnect.Client.RingBatch
import HidConnect.Client.Dispatch
import HidConnect.Session.Frames

/-! The same frames through the ring and its consumer, and through the channel and its dispatcher. -/
namespace HidConnect
open Fallible

/-- The gamepad calls of a client. -/
inductive FrameCall where
  | sendFrame (frame : GamepadFrameRaw)
  | sendFrameUnchecked (frame : GamepadFrameRaw)
  | sendFrameBatch (frames : List GamepadFrameRaw)
  | sendFrameBatchFixed (len : Nat) (frames : Vector GamepadFrameRaw directGamepadBatchFrames)

namespace FrameCall

def run : FrameCall → Sending Unit
  | sendFrame frame => HidClient.sendFrame frame
  | sendFrameUnchecked frame => HidClient.sendFrameUnchecked frame
  | sendFrameBatch frames => HidClient.sendFrameBatch frames
  | sendFrameBatchFixed len frames => HidClient.sendFrameBatchFixed len frames

def frames : FrameCall → List SentFrame
  | sendFrame frame => [(true, frame)]
  | sendFrameUnchecked frame => [(false, frame)]
  | sendFrameBatch frames => allChecked frames
  | sendFrameBatchFixed len frames => allChecked (frames.toList.take len)

end FrameCall

def sendCalls (calls : List FrameCall) : Sending Unit := .forEach calls FrameCall.run

def framesOf (calls : List FrameCall) : List SentFrame := calls.flatMap FrameCall.frames

def channelClient (sent : List HidCommand) (sends : Nat) (answers : Nat → SendAnswer) : HidClient :=
  { channel := { sent, sends, answers }, gamepadRing := none }

/-- The consumer goes on until the ring is empty. -/
def FastPath.drained (p : FastPath) : FastPath := p.drain ringCapacity

def ringSession (client : HidClient) (s : HidSession) : HidSession :=
  match client.gamepadRing with
  | some p => ((Method.forEach p.drained.taken HidSession.setFrameRaw).run s).2
  | none => s

def channelSession (client : HidClient) (s : HidSession) : HidSession :=
  ((Method.forEach client.channel.sent Dispatcher.perform).run (idleDispatcher s)).2.session

theorem drained_taken (p : FastPath) : p.drained.taken = p.entered := by
  obtain ⟨ring, run, _⟩ := p.drain_fate ringCapacity
  rw [FastPath.drained, run]
  change p.taken ++ p.ring.contents.take ringCapacity = p.entered
  rw [List.take_of_length_le p.ring.length_contents_le]
  rfl

/- The ring: a call that returns `Ok` has pushed every frame. -/

namespace HidClient

theorem chosen_whole {frames : List GamepadFrameRaw} {found : List Bool}
    (same : found.length = frames.length) (none : FastPath.chosen false frames found = []) :
    FastPath.chosen true frames found = frames := by
  induction frames generalizing found with
  | nil => rfl
  | cons frame rest ih =>
    match found with
    | [] => contradiction
    | false :: found => exact (List.cons_ne_nil _ _ none).elim
    | true :: found => exact congrArg (frame :: ·) (ih (Nat.succ.inj same) none)

def Enters (m : Sending Unit) (frames : List GamepadFrameRaw) : Prop :=
  ∀ p sends client, m.run (ringClient p sends) = (.ok (), client) →
    ∃ p' sends', client = ringClient p' sends' ∧ p'.entered = p.entered ++ frames

theorem enters_spill (frames : List GamepadFrameRaw) (command : List GamepadFrameRaw → HidCommand) :
    Enters (do
      let rest ← spill frames
      if rest.isEmpty then pure () else send (command rest)) frames := by
  intro p sends client returned
  obtain ⟨p', run, _, entered, _⟩ := spill_run frames p sends
  rw [Method.run_bind_ok run] at returned
  cases rest : FastPath.chosen false frames
      (FastPath.rooms p.ring.contents.length (FastPath.popsAhead frames.length p)) with
  | nil =>
    rw [rest] at returned
    have whole := chosen_whole
      ((FastPath.length_rooms _ _).trans (FastPath.length_popsAhead _ _)) rest
    rw [whole] at entered
    exact ⟨p', sends, (congrArg Prod.snd returned).symm, entered⟩
  | cons first others =>
    rw [rest, List.isEmpty_cons, if_neg Bool.false_ne_true, send_stub] at returned
    cases congrArg Prod.fst returned

theorem enters_one (frame : GamepadFrameRaw) (command : HidCommand) :
    Enters (do if ← ringPush frame then pure () else send command) [frame] := by
  intro p sends client returned
  have pushed : (ringPush frame).run (ringClient p sends) =
    (.ok (p.push frame).1, ringClient (p.push frame).2 sends) := rfl
  obtain ⟨_, _, _, fate⟩ := p.push_fate frame
  rw [Method.run_bind_ok pushed] at returned
  split at fate
  · obtain ⟨found, _, entered, _⟩ := fate
    rw [found] at returned
    exact ⟨_, sends, (congrArg Prod.snd returned).symm, entered⟩
  · obtain ⟨found, _⟩ := fate
    rw [found, if_neg Bool.false_ne_true, send_stub] at returned
    cases congrArg Prod.fst returned

theorem enters_pure : Enters (pure ()) [] := by
  intro p sends client returned
  exact ⟨p, sends, (congrArg Prod.snd returned).symm, (List.append_nil _).symm⟩

end HidClient

theorem map_allChecked (frames : List GamepadFrameRaw) : (allChecked frames).map (·.2) = frames := by
  rw [allChecked, List.map_map]
  exact List.map_id frames

theorem FrameCall.enters (call : FrameCall) : HidClient.Enters call.run (call.frames.map (·.2)) := by
  cases call with
  | sendFrame frame => exact HidClient.enters_one frame (.gamepadFrameRaw frame)
  | sendFrameUnchecked frame => exact HidClient.enters_one frame (.gamepadFrameRawUnchecked frame)
  | sendFrameBatch frames =>
    rw [FrameCall.frames, map_allChecked]
    rcases frames with _ | ⟨frame, _ | ⟨second, rest⟩⟩
    · exact HidClient.enters_pure
    · exact HidClient.enters_one frame (.gamepadFrameRaw frame)
    · exact HidClient.enters_spill (frame :: second :: rest) .gamepadFrameRawBatch
  | sendFrameBatchFixed len frames =>
    rw [FrameCall.frames, map_allChecked, FrameCall.run, HidClient.sendFrameBatchFixed,
      HidClient.sendFrameBatchFixedInternal]
    split
    · rename_i none
      subst none
      exact HidClient.enters_pure
    · split
      · intro p sends client returned
        cases congrArg Prod.fst returned
      · split
        · rename_i one
          subst one
          rw [take_one frames]
          exact HidClient.enters_one _ (.gamepadFrameRaw _)
        · exact HidClient.enters_spill (frames.toList.take len) fun spilled =>
            HidClient.fixedCommand true spilled.length (fixedBuffer noneFrame spilled)

theorem enters_calls (calls : List FrameCall) :
    HidClient.Enters (sendCalls calls) ((framesOf calls).map (·.2)) := by
  induction calls with
  | nil => exact HidClient.enters_pure
  | cons call rest ih =>
    intro p sends client returned
    obtain ⟨_, c, first, others⟩ := Method.of_run_bind_ok returned
    obtain ⟨p₁, sends₁, rfl, entered₁⟩ := call.enters p sends c first
    obtain ⟨p', sends', rfl, entered⟩ := ih p₁ sends₁ client others
    refine ⟨p', sends', rfl, ?_⟩
    rw [entered, entered₁, List.append_assoc]
    simp only [framesOf, List.flatMap_cons, List.map_append]

/- The channel: a call that returns `Ok` has sent commands that perform it. -/

theorem attempt_ok {α : Type} {m : Session α} {d : Dispatcher}
    (ok : (m.run d.session).1.isOk = true) :
    (Dispatcher.attempt m).run d = (.ok (), { d with session := (m.run d.session).2 }) := by
  obtain ⟨a, ha⟩ := Outcome.isOk_iff.mp ok
  rw [Dispatcher.attempt, Method.run_bind_ok (Dispatcher.call_run (by rw [ha]; rfl)), ha,
    Dispatcher.recordFirstError]
  cases d.pendingError <;> rfl

/-- The commands report the frames. -/
def Reports (cmds : List HidCommand) (frames : List SentFrame) : Prop :=
  ∀ direct slot stream (d : Dispatcher), HidSession.Reporting direct slot stream d.session →
    ∃ d', (Method.forEach cmds Dispatcher.perform).run d = (.ok (), d') ∧
      HidSession.Reporting direct (slotAfter slot frames)
        (stream ++ (reported slot frames).map frameReport) d'.session

theorem reports_nil : Reports [] [] := by
  intro direct slot stream d h
  exact ⟨d, rfl, by simpa [slotAfter, reported] using h⟩

theorem reports_append {xs ys : List HidCommand} {frames frames' : List SentFrame}
    (first : Reports xs frames) (second : Reports ys frames') :
    Reports (xs ++ ys) (frames ++ frames') := by
  intro direct slot stream d h
  obtain ⟨d₁, run₁, h₁⟩ := first direct slot stream d h
  obtain ⟨d₂, run₂, h₂⟩ := second direct _ _ d₁ h₁
  refine ⟨d₂, ?_, ?_⟩
  · rw [Method.forEach_append]
    exact (Method.run_bind_ok run₁).trans run₂
  · rw [slotAfter_append, reported_append, List.map_append, ← List.append_assoc]
    exact h₂

theorem reports_one {α : Type} {m : Session α} {cmd : HidCommand} {frames : List SentFrame}
    (run : Dispatcher.perform cmd = Dispatcher.attempt m)
    (reports : ∀ direct slot stream s, HidSession.Reporting direct slot stream s →
      (m.run s).1.isOk = true ∧ HidSession.Reporting direct (slotAfter slot frames)
        (stream ++ (reported slot frames).map frameReport) (m.run s).2) :
    Reports [cmd] frames := by
  intro direct slot stream d h
  obtain ⟨ok, after⟩ := reports direct slot stream d.session h
  refine ⟨{ d with session := (m.run d.session).2 }, ?_, after⟩
  rw [Method.forEach_cons, Method.forEach_nil, Method.bind_pure_unit, run]
  exact attempt_ok ok

theorem reports_frame (frame : GamepadFrameRaw) :
    Reports [.gamepadFrameRaw frame] [(true, frame)] :=
  reports_one rfl fun _ _ _ _ h => h.setFrameRaw frame

theorem reports_unchecked (frame : GamepadFrameRaw) :
    Reports [.gamepadFrameRawUnchecked frame] [(false, frame)] :=
  reports_one rfl fun _ _ _ _ h => h.setFrameRawUncheckedFrame frame

theorem reports_batch (frames : List GamepadFrameRaw) :
    Reports [.gamepadFrameRawBatch frames] (allChecked frames) :=
  reports_one rfl fun _ _ _ _ h => h.setFrameRawBatch frames

theorem reports_fixed {len : Nat} (short : len ≤ directGamepadBatchFrames)
    (frames : Vector GamepadFrameRaw directGamepadBatchFrames) :
    Reports [.gamepadFrameRawBatchFixed len.toUInt8 frames]
      (allChecked (frames.toList.take len)) := by
  have byte : len.toUInt8.toNat = len := by
    have most : directGamepadBatchFrames < 256 := by decide
    exact Nat.mod_eq_of_lt (Nat.lt_of_le_of_lt short most)
  have run : Dispatcher.perform (.gamepadFrameRawBatchFixed len.toUInt8 frames) =
      Dispatcher.attempt (HidSession.setFrameRawBatch (frames.toList.take len)) := by
    rw [Dispatcher.perform, Dispatcher.allOf, Dispatcher.slice, byte, if_pos short]
    rfl
  exact reports_one run fun _ _ _ _ h => h.setFrameRawBatch _

/- The channel: a call that returns `Ok` has sent commands that report its frames. -/

namespace HidClient

def Sends (m : Sending Unit) (frames : List SentFrame) : Prop :=
  ∀ sent sends answers client, m.run (channelClient sent sends answers) = (.ok (), client) →
    ∃ cmds sends', client = channelClient (sent ++ cmds) sends' answers ∧ Reports cmds frames

theorem sends_pure : Sends (pure ()) [] := by
  intro sent sends answers client returned
  refine ⟨[], sends, ?_, reports_nil⟩
  rw [List.append_nil]
  exact (congrArg Prod.snd returned).symm

theorem sends_one {cmd : HidCommand} {frames : List SentFrame} (reports : Reports [cmd] frames) :
    Sends (send cmd) frames := by
  intro sent sends answers client returned
  refine ⟨[cmd], sends + 1, ?_, reports⟩
  simp only [send, channelClient] at returned
  split at returned
  · cases congrArg Prod.fst returned
  · exact (congrArg Prod.snd returned).symm

theorem sends_first {m : Sending Unit} {cmd : HidCommand} {frames : List SentFrame}
    (run : ∀ sent sends answers, m.run (channelClient sent sends answers) =
      (send cmd).run (channelClient sent sends answers))
    (reports : Reports [cmd] frames) : Sends m frames := by
  intro sent sends answers client returned
  rw [run] at returned
  exact sends_one reports sent sends answers client returned

end HidClient

theorem FrameCall.sends (call : FrameCall) : HidClient.Sends call.run call.frames := by
  cases call with
  | sendFrame frame => exact HidClient.sends_first (fun _ _ _ => rfl) (reports_frame frame)
  | sendFrameUnchecked frame => exact HidClient.sends_first (fun _ _ _ => rfl) (reports_unchecked frame)
  | sendFrameBatch frames =>
    rcases frames with _ | ⟨frame, _ | ⟨second, rest⟩⟩
    · exact HidClient.sends_pure
    · exact HidClient.sends_first (fun _ _ _ => rfl) (reports_frame frame)
    · exact HidClient.sends_first (fun _ _ _ => rfl) (reports_batch (frame :: second :: rest))
  | sendFrameBatchFixed len frames =>
    rw [FrameCall.frames, FrameCall.run, HidClient.sendFrameBatchFixed,
      HidClient.sendFrameBatchFixedInternal]
    split
    · rename_i none
      subst none
      exact HidClient.sends_pure
    · split
      · intro sent sends answers client returned
        cases congrArg Prod.fst returned
      · rename_i short
        split
        · rename_i one
          subst one
          rw [take_one frames]
          exact HidClient.sends_first (fun _ _ _ => rfl) (reports_frame _)
        · exact HidClient.sends_first (fun _ _ _ => rfl) (reports_fixed (Nat.le_of_not_lt short) frames)

theorem sends_calls (calls : List FrameCall) :
    HidClient.Sends (sendCalls calls) (framesOf calls) := by
  induction calls with
  | nil => exact HidClient.sends_pure
  | cons call rest ih =>
    intro sent sends answers client returned
    obtain ⟨_, c, first, others⟩ := Method.of_run_bind_ok returned
    obtain ⟨cmds, sends₁, rfl, reports₁⟩ := call.sends sent sends answers c first
    obtain ⟨cmds', sends', rfl, reports⟩ := ih _ sends₁ answers client others
    exact ⟨cmds ++ cmds', sends', by rw [List.append_assoc], reports_append reports₁ reports⟩

/- Where the two agree. -/

/-- The frames that differ from the frame before them make the same reports as the unchecked frames
and those checked ones that differ from the checked frame before them. -/
def Alike (slot : GamepadSlot) (frames : List SentFrame) : Prop :=
  (reported slot (allChecked (frames.map (·.2)))).map GamepadFrameRaw.pack =
    (reported slot frames).map GamepadFrameRaw.pack

/-- What the consumer compares the next frame with, and what the dispatcher compares it with. -/
structure Compared where
  ring : GamepadSlot
  channel : GamepadSlot

def Compared.next (c : Compared) : SentFrame → Compared
  | (true, frame) => { ring := c.ring.holdFrame frame, channel := c.channel.holdFrame frame }
  | (false, frame) => { c with ring := c.ring.holdFrame frame }

/-- A checked frame repeats what was sent before it if and only if it repeats the last checked frame,
and an unchecked one repeats nothing. -/
def Compared.Agree (c : Compared) : SentFrame → Prop
  | (true, frame) => c.ring.holdFrame frame = c.ring ↔ c.channel.holdFrame frame = c.channel
  | (false, frame) => c.ring.holdFrame frame ≠ c.ring

instance (c : Compared) : DecidablePred c.Agree
  | (true, _) => inferInstanceAs (Decidable (_ ↔ _))
  | (false, _) => inferInstanceAs (Decidable (_ ≠ _))

theorem reported_of_agree (c : Compared) (frames : List SentFrame)
    (agree : Run.Along Compared.next Compared.Agree c frames) :
    reported c.ring (allChecked (frames.map (·.2))) = reported c.channel frames := by
  induction frames generalizing c with
  | nil => rfl
  | cons x rest ih =>
    obtain ⟨checked, frame⟩ := x
    have next := ih (c.next (checked, frame)) agree.2
    have all : allChecked (((checked, frame) :: rest).map (·.2)) =
      (true, frame) :: allChecked (rest.map (·.2)) := rfl
    rw [all, reported]
    cases checked with
    | true =>
      have both : c.ring.holdFrame frame = c.ring ↔ c.channel.holdFrame frame = c.channel := agree.1
      rw [reported]
      by_cases same : c.ring.holdFrame frame = c.ring
      · have same' := both.mp same
        have stays : c.next (true, frame) = c := by
          rw [Compared.next, same, same']
        rw [if_pos same, if_pos same']
        rwa [stays] at next
      · rw [if_neg same, if_neg fun same' => same (both.mpr same')]
        exact congrArg (frame :: ·) next
    | false =>
      have changed : c.ring.holdFrame frame ≠ c.ring := agree.1
      rw [reported, if_neg changed]
      exact congrArg (frame :: ·) next

theorem reports_inj (xs ys : List GamepadFrameRaw) :
    (xs.map frameReport).map eventOfMessage = (ys.map frameReport).map eventOfMessage ↔
      xs.map GamepadFrameRaw.pack = ys.map GamepadFrameRaw.pack := by
  have event (frame : GamepadFrameRaw) :
      eventOfMessage (frameReport frame) = HidSession.slotInput frame.pack := by
    have report := HidSession.event_slotReport (GamepadSlot.default.holdFrame frame)
    rwa [slotReport, GamepadSlot.toPayload_holdFrame] at report
  have single : Function.Injective HidSession.slotInput := by
    intro p q same
    exact Vector.toList_inj.mp (DeviceEvent.input.inj same).2
  have shown (zs : List GamepadFrameRaw) : (zs.map frameReport).map eventOfMessage =
      (zs.map GamepadFrameRaw.pack).map HidSession.slotInput := by
    rw [List.map_map, List.map_map]
    exact List.map_congr_left fun frame _ => event frame
  rw [shown, shown]
  exact (List.map_injective_iff.mpr single).eq_iff

def HidSession.heldSlot (s : HidSession) : GamepadSlot :=
  match s.gamepad, s.gamepadSlot with
  | some gp, some slotIdx => gp.slot slotIdx
  | _, _ => .default

theorem ring_delivers {direct : Bool} {slot : GamepadSlot} {stream : List ControlMessage}
    {s : HidSession} (h : HidSession.Reporting direct slot stream s) {pops : Nat → Nat}
    {calls : List FrameCall} {ring : HidClient}
    (returned : (sendCalls calls).run (ringClient (.start fun n => ⟨pops n, false⟩) 0) =
      (.ok (), ring)) :
    (ringSession ring s).delivered = stream.map eventOfMessage ++
      ((reported slot (allChecked ((framesOf calls).map (·.2)))).map frameReport).map
        eventOfMessage := by
  obtain ⟨p, sends, rfl, entered⟩ := enters_calls calls _ _ _ returned
  have taken : p.drained.taken = (framesOf calls).map (·.2) := by
    have empty : (FastPath.start fun n => ⟨pops n, false⟩).entered = [] := by
      rw [FastPath.entered, FastPath.start, GamepadFrameRing.contents_new]
      rfl
    rw [drained_taken, entered, empty, List.nil_append]
  obtain ⟨s', run, after⟩ := h.setFrameRaws ((framesOf calls).map (·.2))
  have state : ringSession (ringClient p sends) s = s' := by
    change ((Method.forEach p.drained.taken HidSession.setFrameRaw).run s).2 = s'
    rw [taken, run]
  rw [state, after.delivered, List.map_append]

theorem channel_delivers {direct : Bool} {slot : GamepadSlot} {stream : List ControlMessage}
    {s : HidSession} (h : HidSession.Reporting direct slot stream s) {answers : Nat → SendAnswer}
    {calls : List FrameCall} {channel : HidClient}
    (returned : (sendCalls calls).run (channelClient [] 0 answers) = (.ok (), channel)) :
    (channelSession channel s).delivered = stream.map eventOfMessage ++
      ((reported slot (framesOf calls)).map frameReport).map eventOfMessage := by
  obtain ⟨cmds, sends, rfl, reports⟩ := sends_calls calls _ _ _ _ returned
  obtain ⟨d, run, after⟩ := reports direct slot stream (idleDispatcher s) h
  have state : channelSession (channelClient ([] ++ cmds) sends answers) s = d.session := by
    change ((Method.forEach cmds Dispatcher.perform).run (idleDispatcher s)).2.session = d.session
    rw [run]
  rw [state, after.delivered, List.map_append]

/-- Over a transport that never fails, calls that return `Ok` put the same reports on the wire through
the ring as through the channel exactly if the frames are alike to both. They are where no unchecked
frame repeats the frame before it, and a checked one repeats it exactly if it repeats the last checked
one. -/
theorem ring_refines_channel (t : Transport) (clock : Nat → Nat) (req : OpenRequest)
    (fresh : t.wire = []) (never : t.NeverFails) (wanted : req.gamepad = true)
    (ops : List SessionOp) (within : ∀ op ∈ ops, HidSession.Within HidSession.anyReport op)
    (pops : Nat → Nat) (answers : Nat → SendAnswer) (calls : List FrameCall) (ring channel : HidClient)
    (ringOk : (sendCalls calls).run (ringClient (.start fun n => ⟨pops n, false⟩) 0) = (.ok (), ring))
    (channelOk : (sendCalls calls).run (channelClient [] 0 answers) = (.ok (), channel)) :
    let s := Run.after HidSession.step (HidSession.afterOpen t clock req) ops
    ((ringSession ring s).delivered = (channelSession channel s).delivered ↔
      Alike s.heldSlot (framesOf calls)) ∧
    (Run.Along Compared.next Compared.Agree { ring := s.heldSlot, channel := s.heldSlot }
        (framesOf calls) →
      (ringSession ring s).delivered = (channelSession channel s).delivered) := by
  intro s
  obtain ⟨direct, slot, stream, opened⟩ := HidSession.reporting_opened clock fresh never wanted
  obtain ⟨slot, stream, h⟩ := opened.ops within
  have held : s.heldSlot = slot := by
    obtain ⟨gp, hg, same⟩ := h.at'.driver
    rw [HidSession.heldSlot, hg, h.at'.cached]
    exact same
  have exact' : (ringSession ring s).delivered = (channelSession channel s).delivered ↔
      Alike s.heldSlot (framesOf calls) := by
    rw [ring_delivers h ringOk, channel_delivers h channelOk, held, List.append_right_inj]
    exact reports_inj _ _
  refine ⟨exact', fun agree => exact'.mpr ?_⟩
  exact congrArg (List.map GamepadFrameRaw.pack) (reported_of_agree _ _ agree)

/-- A frame and the same frame unchecked would differ; two different ones do not. -/
def pressedAndReleased : List FrameCall :=
  [.sendFrame { noneFrame with buttons := 1 }, .sendFrameUnchecked noneFrame]

theorem ring_refines_channel_two :
    let s := HidSession.afterOpen .steady id .gamepadOnlyRealtime
    (ringSession ((sendCalls pressedAndReleased).run
        (ringClient (.start fun n => ⟨n, false⟩) 0)).2 s).delivered =
      (channelSession ((sendCalls pressedAndReleased).run
        (channelClient [] 0 fun _ => .accepted)).2 s).delivered :=
  (ring_refines_channel .steady id .gamepadOnlyRealtime rfl Transport.steady_neverFails rfl [] nofun
    (fun n => n) (fun _ => .accepted) pressedAndReleased _ _ rfl rfl).2 (by decide +kernel)

/-- Two equal unchecked frames: the consumer reports the first, the dispatcher both. -/
theorem ring_drops_repeat :
    let calls : List FrameCall := [.sendFrameUnchecked { noneFrame with buttons := 1 },
      .sendFrameUnchecked { noneFrame with buttons := 1 }]
    let s := HidSession.afterOpen .steady id .gamepadOnlyRealtime
    let ring := (sendCalls calls).run (ringClient (.start fun _ => ⟨0, false⟩) 0)
    let channel := (sendCalls calls).run (channelClient [] 0 fun _ => .accepted)
    ring.1 = .ok () ∧ channel.1 = .ok () ∧
      (channelSession channel.2 s).delivered.length = (ringSession ring.2 s).delivered.length + 1 := by
  decide +kernel

end HidConnect

import HidConnect.Incoming.ReadBack
import HidConnect.Library.Pump

/-! The background threads that read messages and events and send them over a bounded channel. -/
namespace HidConnect.Incoming
open Fallible

section Threads
variable (utf8Error : List UInt8 → String)

/-- `device_message_loop`, with its channel and the consumer. -/
abbrev DeviceMessagePump := Pump.State IoError (Reader IoError) DeviceMessage

/-- `device_event_loop`. -/
abbrev DeviceEventPump := Pump.State IoError (Reader IoError) DeviceEvent

def spawnDeviceMessageReceiver (reader : Reader IoError) (bound : Nat) : DeviceMessagePump :=
  .spawn reader bound

def spawnDeviceEventReceiver (reader : Reader IoError) (bound : Nat) : DeviceEventPump :=
  .spawn reader bound

theorem neverPanics_readBody (len : Nat) : Method.NeverPanics (readBody len) := by
  unfold readBody
  split
  · exact Reader.neverPanics_readExact len
  · exact Method.neverPanics_pure _

theorem neverPanics_readClipboard : Method.NeverPanics (readClipboard utf8Error) := by
  refine readU32Be_reads.calm.bind fun len => ?_
  split
  · exact Method.neverPanics_fail _
  · refine (neverPanics_readBody _).bind fun payload =>
      (Method.neverPanics_lift ?_).bind fun _ => Method.neverPanics_pure _
    unfold fromUtf8
    split <;> rfl

theorem neverPanics_readAckClipboard : Method.NeverPanics readAckClipboard :=
  readU64Be_reads.calm.bind fun _ => Method.neverPanics_pure _

theorem neverPanics_readUhidOutput : Method.NeverPanics readUhidOutput := by
  refine readU16Be_reads.calm.bind fun _ => readU16Be_reads.calm.bind fun size => ?_
  split
  · exact Method.neverPanics_fail _
  · exact (neverPanics_readBody _).bind fun _ => Method.neverPanics_pure _

theorem isPanic_parsed {α β : Type} {parsed : Result α} (f : α → β)
    (calm : parsed.isPanic = false) : ((parsed.map f).mapErr aiErrorToIo).isPanic = false := by
  cases parsed with
  | ok a => rfl
  | err e => rfl
  | panic => contradiction

theorem neverPanics_readAiOrUnknownEnvelope (ty : UInt8) :
    Method.NeverPanics (readAiOrUnknownEnvelope ty) := by
  refine readU32Be_reads.calm.bind fun len => ?_
  split
  · exact Method.neverPanics_fail _
  · refine (neverPanics_readBody _).bind fun payload => ?_
    split
    · exact Method.neverPanics_lift (isPanic_parsed _ (FrameSummary.reads.calm _))
    · split
      · exact Method.neverPanics_lift (isPanic_parsed _ (AiStats.reads.calm _))
      · exact Method.neverPanics_pure _

theorem neverPanics_readDeviceMessage : Method.NeverPanics (readDeviceMessage utf8Error) := by
  refine readU8_reads.calm.bind fun ty => ?_
  split
  · exact neverPanics_readClipboard utf8Error
  · split
    · exact neverPanics_readAckClipboard
    · split
      · exact neverPanics_readUhidOutput
      · exact Method.neverPanics_fail _

theorem neverPanics_readDeviceEvent : Method.NeverPanics (readDeviceEvent utf8Error) := by
  refine readU8_reads.calm.bind fun ty => ?_
  split
  · exact (neverPanics_readClipboard utf8Error).bind fun _ => Method.neverPanics_pure _
  · split
    · exact neverPanics_readAckClipboard.bind fun _ => Method.neverPanics_pure _
    · split
      · exact neverPanics_readUhidOutput.bind fun _ => Method.neverPanics_pure _
      · exact neverPanics_readAiOrUnknownEnvelope ty

/-- What has to come out of the channel: the events in the order in which they were sent, up to the
first malformed message or the end of the stream, and the error that was met there. -/
inductive Delivers (closing : IoError) : List Sent → List (Outcome IoError DeviceEvent) → Prop
  | closed : Delivers closing [] [.err closing]
  | event {sent : Sent} {event : DeviceEvent} {rest : List Sent} {tail}
      (sound : sent.event = some event) (later : Delivers closing rest tail) :
      Delivers closing (sent :: rest) (.ok event :: tail)
  | malformed {sent : Sent} {rest : List Sent} (message : String) (bad : sent.event = none) :
      Delivers closing (sent :: rest) [.err (IoError.invalidData message)]

theorem readDeviceEvent_closed (closing : IoError) :
    (readDeviceEvent utf8Error).run ⟨[], closing⟩ = (.err closing, ⟨[], closing⟩) :=
  Method.run_bind_err (Method.run_bind_err (Method.run_bind_err
    (Reader.readExact_short (by decide) closing)))

theorem untilError_sents (closing : IoError) (sents : List Sent)
    (sound : ∀ sent ∈ sents, sent.Sound) : ∃ whole, Delivers closing sents whole ∧
      Pump.UntilError (readDeviceEvent utf8Error) ⟨sents.flatMap Sent.bytes, closing⟩ whole := by
  induction sents with
  | nil => exact ⟨_, .closed, .stop (readDeviceEvent_closed utf8Error closing)⟩
  | cons sent rest ih =>
    obtain ⟨tail, delivers, until_error⟩ := ih fun other h => sound other (List.mem_cons_of_mem _ h)
    obtain ⟨first, takes, answers⟩ := (sound sent (List.mem_cons_self ..)).answered utf8Error
    have run := takes (rest.flatMap Sent.bytes) closing
    rw [List.flatMap_cons]
    rw [Sent.Answers] at answers
    split at answers
    case h_1 event is_event =>
      subst answers
      exact ⟨_, .event is_event delivers, .more run until_error⟩
    case h_2 malformed =>
      obtain ⟨message, rfl⟩ := answers
      exact ⟨_, .malformed message malformed, .stop run⟩

/-- Whatever the bound of the channel and the order of the steps: the consumer gets what has to come,
in order, once, and all of it unless it hangs up; the thread is never stuck, and it ends when the
consumer is gone. -/
theorem device_events_delivered (sents : List Sent) (sound : ∀ sent ∈ sents, sent.Sound)
    (closing : IoError) : ∃ whole, Delivers closing sents whole ∧
      ∀ (bound : Nat) (steps : List Pump.Step),
        let step := Pump.State.step (readDeviceEvent utf8Error)
        let s := Run.after step
          (spawnDeviceEventReceiver ⟨sents.flatMap Sent.bytes, closing⟩ bound) steps
        s.received <+: whole ∧ s.queue.length ≤ bound ∧
          (s.listening = true → (s.point = .returned ∧ s.received = whole) ∨
            (step s .loop).point ≠ s.point ∨ (step s .receive).received ≠ s.received) ∧
          (s.listening = false → ∀ more : List Pump.Step, 2 ≤ more.count .loop →
            (Run.after step s more).point = .returned) := by
  obtain ⟨whole, delivers, until_error⟩ := untilError_sents utf8Error closing sents sound
  exact ⟨whole, delivers, until_error.serves (neverPanics_readDeviceEvent utf8Error)⟩

end Threads

theorem device_events_delivered_two : ∃ whole, Delivers cursorEnd
      [.native (.ackClipboard 7), .unknown 9 [1, 2]] whole ∧
      ∀ (bound : Nat) (steps : List Pump.Step),
        let step := Pump.State.step (readDeviceEvent fun _ => "invalid utf-8")
        let s := Run.after step (spawnDeviceEventReceiver
          ⟨[Sent.native (.ackClipboard 7), Sent.unknown 9 [1, 2]].flatMap Sent.bytes, cursorEnd⟩
          bound) steps
        s.received <+: whole ∧ s.queue.length ≤ bound ∧
          (s.listening = true → (s.point = .returned ∧ s.received = whole) ∨
            (step s .loop).point ≠ s.point ∨ (step s .receive).received ≠ s.received) ∧
          (s.listening = false → ∀ more : List Pump.Step, 2 ≤ more.count .loop →
            (Run.after step s more).point = .returned) := by
  refine device_events_delivered (fun _ => "invalid utf-8")
    [.native (.ackClipboard 7), .unknown 9 [1, 2]] ?_ cursorEnd
  simp only [List.forall_mem_cons, List.not_mem_nil]
  exact ⟨trivial, ⟨by decide, by decide⟩, fun _ none => absurd none id⟩

section Receivers
variable (utf8Error : List UInt8 → String)

/- What either thread reads shortens the stream. -/

theorem forward_readBody (len : Nat) : Reader.Forward (readBody len) := by
  unfold readBody
  split
  · exact (Reader.reads_readExact len).forward
  · exact Reader.forward_pure _

theorem forward_readClipboard : Reader.Forward (readClipboard utf8Error) := by
  refine readU32Be_reads.forward.bind fun len => ?_
  split
  · exact Reader.forward_fail _
  · exact (forward_readBody _).bind fun _ =>
      (Reader.forward_lift _).bind fun _ => Reader.forward_pure _

theorem forward_readAckClipboard : Reader.Forward readAckClipboard :=
  readU64Be_reads.forward.bind fun _ => Reader.forward_pure _

theorem forward_readUhidOutput : Reader.Forward readUhidOutput := by
  refine readU16Be_reads.forward.bind fun _ => readU16Be_reads.forward.bind fun size => ?_
  split
  · exact Reader.forward_fail _
  · exact (forward_readBody _).bind fun _ => Reader.forward_pure _

theorem forward_readAiOrUnknownEnvelope (ty : UInt8) :
    Reader.Forward (readAiOrUnknownEnvelope ty) := by
  refine readU32Be_reads.forward.bind fun len => ?_
  split
  · exact Reader.forward_fail _
  · refine (forward_readBody _).bind fun payload => ?_
    split
    · exact Reader.forward_lift _
    · split
      · exact Reader.forward_lift _
      · exact Reader.forward_pure _

theorem shorter_readDeviceEvent {r r' : Reader IoError} {event : DeviceEvent}
    (run : (readDeviceEvent utf8Error).run r = (.ok event, r')) :
    r'.bytes.length < r.bytes.length := by
  obtain ⟨ty, t, tag, rest⟩ := Method.of_run_bind_ok run
  have one : r.bytes.length = t.bytes.length + 1 := by
    rw [(readU8_reads.took tag).2, List.length_append, Bytes.length_toBe, Nat.add_comm]
  have later : r'.bytes.length ≤ t.bytes.length := by
    split at rest
    · exact ((forward_readClipboard utf8Error).bind fun _ => Reader.forward_pure _) _ _ _ rest
    · split at rest
      · exact (forward_readAckClipboard.bind fun _ => Reader.forward_pure _) _ _ _ rest
      · split at rest
        · exact (forward_readUhidOutput.bind fun _ => Reader.forward_pure _) _ _ _ rest
        · exact forward_readAiOrUnknownEnvelope ty _ _ _ rest
  omega

/- The two threads side by side. -/

def Foreign (ty : UInt8) : Prop := ty ≠ typeClipboard ∧ ty ≠ typeAckClipboard ∧ ty ≠ typeUhidOutput

def unknownType (ty : UInt8) : IoError :=
  IoError.invalidData ("unknown device message type " ++ toString ty)

theorem envelope_not_native {ty : UInt8} {r r' : Reader IoError} {event : DeviceEvent}
    (run : (readAiOrUnknownEnvelope ty).run r = (.ok event, r')) (message : DeviceMessage) :
    event ≠ .native message := by
  obtain ⟨len, t, -, run⟩ := Method.of_run_bind_ok run
  split at run
  · cases congrArg Prod.fst run
  · obtain ⟨payload, t', -, run⟩ := Method.of_run_bind_ok run
    rintro rfl
    split at run
    · cases parsed : FrameSummary.parse payload <;> rw [parsed] at run <;>
        cases congrArg Prod.fst run
    · split at run
      · cases parsed : AiStats.parse payload <;> rw [parsed] at run <;> cases congrArg Prod.fst run
      · cases congrArg Prod.fst run

/-- One call of each, at the same place of the same stream. -/
inductive SameCall (r : Reader IoError) : Prop
  | native (message : DeviceMessage) (t : Reader IoError)
      (run : (readDeviceMessage utf8Error).run r = (.ok message, t))
      (run' : (readDeviceEvent utf8Error).run r = (.ok (.native message), t))
  | failed (e : IoError) (t : Reader IoError)
      (run : (readDeviceMessage utf8Error).run r = (.err e, t))
      (run' : (readDeviceEvent utf8Error).run r = (.err e, t))
  | foreign (ty : UInt8) (tag : Foreign ty) (t : Reader IoError)
      (run : (readDeviceMessage utf8Error).run r = (.err (unknownType ty), t))
      (other : ∀ message t', (readDeviceEvent utf8Error).run r ≠ (.ok (.native message), t'))

theorem sameCall_of_read {r : Reader IoError} {m : Reading IoError DeviceMessage}
    (calm : Method.NeverPanics m) {t : Reader IoError}
    (run : (readDeviceMessage utf8Error).run r = m.run t)
    (run' : (readDeviceEvent utf8Error).run r = (m >>= fun message => pure (.native message)).run t) :
    SameCall utf8Error r := by
  have item := calm t
  rw [Method.run_bind] at run'
  rcases inner : m.run t with ⟨x, t'⟩
  rw [inner] at item run run'
  cases x with
  | ok message => exact .native message t' run run'
  | err e => exact .failed e t' run run'
  | panic => contradiction

theorem sameCall (r : Reader IoError) : SameCall utf8Error r := by
  rcases tag : (readU8 : Reading IoError _).run r with ⟨x, t⟩
  cases x with
  | err e => exact .failed e t (Method.run_bind_err tag) (Method.run_bind_err tag)
  | panic =>
    have calm := readU8_reads.calm r
    rw [tag] at calm
    contradiction
  | ok ty =>
    have run : (readDeviceMessage utf8Error).run r = _ := Method.run_bind_ok tag
    have run' : (readDeviceEvent utf8Error).run r = _ := Method.run_bind_ok tag
    split_ifs at run run' with clipboard ack output
    · exact sameCall_of_read utf8Error (neverPanics_readClipboard utf8Error) run run'
    · exact sameCall_of_read utf8Error neverPanics_readAckClipboard run run'
    · exact sameCall_of_read utf8Error neverPanics_readUhidOutput run run'
    · refine .foreign ty ⟨clipboard, ack, output⟩ t run fun message t' native => ?_
      rw [run'] at native
      exact envelope_not_native native message rfl

/-- What the two threads hand out, up to the first message that is not native. -/
inductive SameNatives : List (Outcome IoError DeviceMessage) → List (Outcome IoError DeviceEvent) → Prop
  | native {messages events} (message : DeviceMessage) (later : SameNatives messages events) :
      SameNatives (.ok message :: messages) (.ok (.native message) :: events)
  | failed (e : IoError) : SameNatives [.err e] [.err e]
  | foreign {events} (ty : UInt8) (tag : Foreign ty)
      (other : ∀ message, events.head? ≠ some (.ok (.native message))) :
      SameNatives [.err (unknownType ty)] events

theorem untilError_both (r : Reader IoError) : ∃ messages events, SameNatives messages events ∧
    Pump.UntilError (readDeviceMessage utf8Error) r messages ∧
    Pump.UntilError (readDeviceEvent utf8Error) r events := by
  induction left : r.bytes.length using Nat.strongRecOn generalizing r with
  | ind n ih =>
    cases sameCall utf8Error r with
    | native message t run run' =>
      obtain ⟨messages, events, same, until_error, until_error'⟩ :=
        ih _ (left ▸ shorter_readDeviceEvent utf8Error run') t rfl
      exact ⟨_, _, .native message same, .more run until_error, .more run' until_error'⟩
    | failed e t run run' => exact ⟨_, _, .failed e, .stop run, .stop run'⟩
    | foreign ty tag t run other =>
      obtain ⟨events, until_error⟩ := Pump.exists_untilError (neverPanics_readDeviceEvent utf8Error)
        (fun r => r.bytes.length) (shorter_readDeviceEvent utf8Error) r
      refine ⟨_, events, .foreign ty tag fun message first => ?_, .stop run, until_error⟩
      cases until_error with
      | stop run' => cases first
      | more run' rest =>
        cases first
        exact other message _ run'

/-- Over any bytes the two threads hand out the same messages, in order and each once, until a message
is malformed for both of them, or is not a native one: there the one ends with an error that names its
type, and the other goes on. -/
theorem receivers_agree (r : Reader IoError) : ∃ messages events, SameNatives messages events ∧
    Pump.Serves (readDeviceMessage utf8Error) (spawnDeviceMessageReceiver r) messages ∧
    Pump.Serves (readDeviceEvent utf8Error) (spawnDeviceEventReceiver r) events := by
  obtain ⟨messages, events, same, until_error, until_error'⟩ := untilError_both utf8Error r
  exact ⟨messages, events, same, until_error.serves (neverPanics_readDeviceMessage utf8Error),
    until_error'.serves (neverPanics_readDeviceEvent utf8Error)⟩

end Receivers

end HidConnect.Incoming

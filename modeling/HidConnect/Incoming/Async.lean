import HidConnect.Incoming.Latest
import HidConnect.Library.Simulation

/-! The readers of the asynchronous runtime, and the blocking ones that they repeat. -/
namespace HidConnect.Incoming
open Fallible

/-- A stream that a task reads. `rest` are the bytes that are still to come; at the end of the stream a
read takes what there is and reports an early end. -/
structure AsyncRead (σ : Type) where
  readExact : Nat → σ → Outcome IoError (List UInt8) × σ
  rest : σ → List UInt8
  fills : ∀ n s, n ≤ (rest s).length →
    (readExact n s).1 = .ok ((rest s).take n) ∧ rest (readExact n s).2 = (rest s).drop n
  ends : ∀ n s, (rest s).length < n →
    (∃ e, (readExact n s).1 = .err e ∧ e.kind = .unexpectedEof) ∧ rest (readExact n s).2 = []

def SameKind (e e' : IoError) : Prop := e.kind = e'.kind

abbrev Awaiting (σ α : Type) := Method IoError σ α

namespace AsyncRead
variable {σ : Type} (source : AsyncRead σ)

def exact (n : Nat) : Awaiting σ (List UInt8) := ⟨source.readExact n⟩

/-- A big-endian number of `w` bytes. -/
def readUint (w : Nat) : Awaiting σ Nat := do
  let b ← source.exact w
  pure (Bytes.ofBe b)

def readU8 : Awaiting σ UInt8 := do pure (← source.readUint 1).toUInt8
def readU16Be : Awaiting σ UInt16 := do pure (← source.readUint 2).toUInt16
def readU32Be : Awaiting σ UInt32 := do pure (← source.readUint 4).toUInt32
def readU64Be : Awaiting σ UInt64 := do pure (← source.readUint 8).toUInt64

/-- The bodies of all messages are read like this. -/
def readBody (len : Nat) : Awaiting σ (List UInt8) := if 0 < len then source.exact len else pure []

variable (utf8Error : List UInt8 → String)

def readClipboard : Awaiting σ DeviceMessage := do
  let len ← source.readU32Be
  if deviceMsgTextMaxLength < len.toNat then
    .fail (tooLarge "clipboard" len.toNat deviceMsgTextMaxLength)
  else
    let payload ← source.readBody len.toNat
    let text ← .lift (fromUtf8 utf8Error payload)
    pure (.clipboard text)

def readAckClipboard : Awaiting σ DeviceMessage := do
  let sequence ← source.readU64Be
  pure (.ackClipboard sequence)

def readUhidOutput : Awaiting σ DeviceMessage := do
  let id ← source.readU16Be
  let size ← source.readU16Be
  let maxPayload := deviceMsgMaxSize - 5
  if maxPayload < size.toNat then .fail (tooLarge "uhid output" size.toNat maxPayload)
  else
    let data ← source.readBody size.toNat
    pure (.uhidOutput id data)

def readAiOrUnknownEnvelope (ty : UInt8) : Awaiting σ DeviceEvent := do
  let len ← source.readU32Be
  let maxPayload := deviceMsgMaxSize - 5
  if maxPayload < len.toNat then .fail (tooLarge "device event" len.toNat maxPayload)
  else
    let payload ← source.readBody len.toNat
    if ty = typeFrameSummary then
      .lift (((FrameSummary.parse payload).map .frameSummary).mapErr aiErrorToIo)
    else if ty = typeAiStats then
      .lift (((AiStats.parse payload).map .aiStats).mapErr aiErrorToIo)
    else pure (.unknownEnvelope ty payload)

def readDeviceMessageAsync : Awaiting σ DeviceMessage := do
  let ty ← source.readU8
  if ty = typeClipboard then source.readClipboard utf8Error
  else if ty = typeAckClipboard then source.readAckClipboard
  else if ty = typeUhidOutput then source.readUhidOutput
  else .fail (IoError.invalidData ("unknown device message type " ++ toString ty))

def readDeviceEventAsync : Awaiting σ DeviceEvent := do
  let ty ← source.readU8
  if ty = typeClipboard then pure (.native (← source.readClipboard utf8Error))
  else if ty = typeAckClipboard then pure (.native (← source.readAckClipboard))
  else if ty = typeUhidOutput then pure (.native (← source.readUhidOutput))
  else source.readAiOrUnknownEnvelope ty

/- The two readers side by side. -/

structure Feeds (r : Reader IoError) (s : σ) : Prop where
  rest : source.rest s = r.bytes
  ends : r.closing.kind = .unexpectedEof

/-- A blocking reader and an asynchronous one take the same bytes, and come back with the same value or the
same kind of error. -/
def Agrees {α : Type} (m : Reading IoError α) (m' : Awaiting σ α) : Prop :=
  Method.Simulates source.Feeds SameKind m m'

theorem exact_agrees (n : Nat) : source.Agrees (Reader.readExact n) (source.exact n) := by
  intro r s feeds
  unfold Reader.readExact exact
  dsimp only
  by_cases enough : n ≤ r.bytes.length
  · rw [← feeds.rest] at enough
    obtain ⟨value, after⟩ := source.fills n s enough
    rw [feeds.rest] at enough value after
    rw [if_pos enough, value]
    exact ⟨rfl, after, feeds.ends⟩
  · have short : (source.rest s).length < n := by
      rw [feeds.rest]
      exact Nat.lt_of_not_le enough
    obtain ⟨⟨e, failed, kind⟩, after⟩ := source.ends n s short
    rw [if_neg enough, failed]
    exact ⟨feeds.ends.trans kind.symm, after, feeds.ends⟩

theorem readUint_agrees (w : Nat) : source.Agrees (Reader.readUint w) (source.readUint w) :=
  (source.exact_agrees w).map _

theorem readU8_agrees : source.Agrees HidConnect.readU8 source.readU8 := (source.readUint_agrees 1).map _

theorem readU16Be_agrees : source.Agrees HidConnect.readU16Be source.readU16Be :=
  (source.readUint_agrees 2).map _

theorem readU32Be_agrees : source.Agrees HidConnect.readU32Be source.readU32Be :=
  (source.readUint_agrees 4).map _

theorem readU64Be_agrees : source.Agrees HidConnect.readU64Be source.readU64Be :=
  (source.readUint_agrees 8).map _

theorem readBody_agrees (len : Nat) : source.Agrees (Incoming.readBody len) (source.readBody len) :=
  (source.exact_agrees len).ite (Method.simulates_pure [])

theorem fail_agrees {α : Type} (e : IoError) :
    source.Agrees (Method.fail e : Reading IoError α) (Method.fail e) :=
  Method.simulates_fail rfl

theorem lift_agrees {α : Type} (result : Outcome IoError α) :
    source.Agrees (Method.lift result) (Method.lift result) := by
  apply Method.simulates_lift
  cases result with
  | ok a => rfl
  | err e => rfl
  | panic => trivial

theorem readClipboard_agrees :
    source.Agrees (Incoming.readClipboard utf8Error) (source.readClipboard utf8Error) :=
  source.readU32Be_agrees.bind fun len => (source.fail_agrees _).ite <|
    (source.readBody_agrees len.toNat).bind fun _ => (source.lift_agrees _).map _

theorem readAckClipboard_agrees : source.Agrees Incoming.readAckClipboard source.readAckClipboard :=
  source.readU64Be_agrees.map _

theorem readUhidOutput_agrees : source.Agrees Incoming.readUhidOutput source.readUhidOutput :=
  source.readU16Be_agrees.bind fun _ => source.readU16Be_agrees.bind fun size =>
    (source.fail_agrees _).ite ((source.readBody_agrees size.toNat).map _)

theorem readAiOrUnknownEnvelope_agrees (ty : UInt8) :
    source.Agrees (Incoming.readAiOrUnknownEnvelope ty) (source.readAiOrUnknownEnvelope ty) :=
  source.readU32Be_agrees.bind fun len => (source.fail_agrees _).ite <|
    (source.readBody_agrees len.toNat).bind fun _ =>
      (source.lift_agrees _).ite ((source.lift_agrees _).ite (Method.simulates_pure _))

theorem readDeviceMessage_agrees :
    source.Agrees (readDeviceMessage utf8Error) (source.readDeviceMessageAsync utf8Error) :=
  source.readU8_agrees.bind fun _ => (source.readClipboard_agrees utf8Error).ite <|
    source.readAckClipboard_agrees.ite <| source.readUhidOutput_agrees.ite (source.fail_agrees _)

theorem readDeviceEvent_agrees :
    source.Agrees (readDeviceEvent utf8Error) (source.readDeviceEventAsync utf8Error) :=
  source.readU8_agrees.bind fun ty => ((source.readClipboard_agrees utf8Error).map _).ite <|
    (source.readAckClipboard_agrees.map _).ite <| (source.readUhidOutput_agrees.map _).ite
      (source.readAiOrUnknownEnvelope_agrees ty)

end AsyncRead

/- The task that keeps the newest frame summary. -/

structure AsyncLatestFrameSummaryState where
  latest : Option LatestFrameSummarySnapshot
  version : UInt64
  terminalError : Option DeviceReadError
  deriving DecidableEq

def AsyncLatestFrameSummaryState.initial : AsyncLatestFrameSummaryState :=
  { latest := none, version := 0, terminalError := none }

/-- `watched` is the value in the channel, which the receivers see; `state` belongs to the task. -/
structure AsyncLatestFrameSummaryPump (σ : Type) where
  watched : AsyncLatestFrameSummaryState
  receivers : Nat
  state : AsyncLatestFrameSummaryState
  point : PumpPoint
  reader : σ

namespace AsyncLatestFrameSummaryPump
variable {σ : Type}

def spawn (reader : σ) : AsyncLatestFrameSummaryPump σ where
  watched := .initial
  receivers := 1
  state := .initial
  point := .checking
  reader

/-- `watch::Sender::send_replace` -/
def sendReplace (t : AsyncLatestFrameSummaryPump σ) (state : AsyncLatestFrameSummaryState) :
    AsyncLatestFrameSummaryPump σ := { t with watched := state }

/-- `watch::Sender::send`, which does nothing where nobody receives. -/
def send (t : AsyncLatestFrameSummaryPump σ) (state : AsyncLatestFrameSummaryState) :
    AsyncLatestFrameSummaryPump σ := if t.receivers = 0 then t else { t with watched := state }

/-- A panic ends the task. -/
def received (t : AsyncLatestFrameSummaryPump σ) :
    Outcome IoError DeviceEvent × σ → AsyncLatestFrameSummaryPump σ
  | (.ok (.frameSummary summary), reader) => { t with point := .storing summary, reader }
  | (.ok _, reader) => { t with point := .checking, reader }
  | (.err e, reader) => { t with point := .failing e, reader }
  | (.panic, reader) => { t with point := .returned, reader }

variable (source : AsyncRead σ) (utf8Error : List UInt8 → String)

def asyncLatestFrameSummaryLoop (t : AsyncLatestFrameSummaryPump σ) : AsyncLatestFrameSummaryPump σ :=
  match t.point with
  | .checking => { t with point := if t.receivers = 0 then .returned else .reading }
  | .reading => t.received ((source.readDeviceEventAsync utf8Error).run t.reader)
  | .storing summary =>
    let version := saturatingAdd t.state.version 1
    let state := { t.state with version, latest := some { version, summary } }
    { (t.sendReplace state) with state, point := .checking }
  | .failing error =>
    let state := { t.state with terminalError := some (.fromIoError error) }
    { (t.send state) with state, point := .returned }
  | .returned => t

def step (t : AsyncLatestFrameSummaryPump σ) : PumpStep → AsyncLatestFrameSummaryPump σ
  | .loop => t.asyncLatestFrameSummaryLoop source utf8Error
  | .clone => if 0 < t.receivers then { t with receivers := t.receivers + 1 } else t
  | .drop => { t with receivers := t.receivers - 1 }

def publishes (t : AsyncLatestFrameSummaryPump σ) (op : PumpStep) : Option LatestFrameSummarySnapshot :=
  match op, t.point with
  | .loop, .storing _ => (t.step source utf8Error op).watched.latest
  | _, _ => none

end AsyncLatestFrameSummaryPump

def LatestFrameSummaryPump.publishes (utf8Error : List UInt8 → String) (s : LatestFrameSummaryPump)
    (op : PumpStep) : Option LatestFrameSummarySnapshot :=
  match op, s.point with
  | .loop, .storing _ => (s.step utf8Error op).inner.latest
  | _, _ => none

def PumpStep.isLoop : PumpStep → Bool
  | loop => true
  | clone | drop => false

section Loops
variable {σ : Type} {source : AsyncRead σ} {utf8Error : List UInt8 → String}

inductive SamePoint : PumpPoint → PumpPoint → Prop where
  | checking : SamePoint .checking .checking
  | reading : SamePoint .reading .reading
  | storing (summary : FrameSummary) : SamePoint (.storing summary) (.storing summary)
  | failing {e e' : IoError} (kind : SameKind e e') : SamePoint (.failing e) (.failing e')
  | returned : SamePoint .returned .returned

/-- What the receivers of either see, and where both have got to. -/
structure Mirrors (source : AsyncRead σ) (s : LatestFrameSummaryPump)
    (t : AsyncLatestFrameSummaryPump σ) : Prop where
  latest : s.inner.latest = t.watched.latest
  version : s.inner.version = t.watched.version
  error : s.inner.terminalError.map (·.kind) = t.watched.terminalError.map (·.kind)
  own : t.state = t.watched
  point : SamePoint s.point t.point
  reader : source.Feeds s.reader t.reader

theorem Mirrors.received {s : LatestFrameSummaryPump} {t : AsyncLatestFrameSummaryPump σ}
    (h : Mirrors source s t) {call : Outcome IoError DeviceEvent × Reader IoError}
    {call' : Outcome IoError DeviceEvent × σ} (alike : call.1.Alike SameKind call'.1)
    (feeds : source.Feeds call.2 call'.2) : Mirrors source (s.received call) (t.received call') := by
  obtain ⟨r, reader⟩ := call
  obtain ⟨r', reader'⟩ := call'
  cases r with
  | ok event =>
    cases r' with
    | ok event' =>
      cases alike
      cases event with
      | frameSummary summary => exact ⟨h.latest, h.version, h.error, h.own, .storing summary, feeds⟩
      | native message => exact ⟨h.latest, h.version, h.error, h.own, .checking, feeds⟩
      | aiStats stats => exact ⟨h.latest, h.version, h.error, h.own, .checking, feeds⟩
      | unknownEnvelope ty payload => exact ⟨h.latest, h.version, h.error, h.own, .checking, feeds⟩
    | err e' => exact alike.elim
    | panic => exact alike.elim
  | err e =>
    cases r' with
    | ok event' => exact alike.elim
    | err e' => exact ⟨h.latest, h.version, h.error, h.own, .failing alike, feeds⟩
    | panic => exact alike.elim
  | panic =>
    cases r' with
    | ok event' => exact alike.elim
    | err e' => exact alike.elim
    | panic => exact ⟨h.latest, h.version, h.error, h.own, .returned, feeds⟩

/-- While both have a receiver, a turn of the thread is a turn of the task. -/
theorem Mirrors.turn {s : LatestFrameSummaryPump} {t : AsyncLatestFrameSummaryPump σ}
    (h : Mirrors source s t) (alive : 0 < s.handles) (alive' : 0 < t.receivers) :
    Mirrors source (s.latestFrameSummaryLoop utf8Error)
        (t.asyncLatestFrameSummaryLoop source utf8Error) ∧
      s.publishes utf8Error .loop = t.publishes source utf8Error .loop := by
  have held : s.isAbandoned = false := by
    simp [LatestFrameSummaryPump.isAbandoned, LatestFrameSummaryPump.strongCount]
    omega
  have received : ¬t.receivers = 0 := Nat.ne_of_gt alive'
  have points := h.point
  unfold LatestFrameSummaryPump.publishes AsyncLatestFrameSummaryPump.publishes
    LatestFrameSummaryPump.step AsyncLatestFrameSummaryPump.step
    LatestFrameSummaryPump.latestFrameSummaryLoop AsyncLatestFrameSummaryPump.asyncLatestFrameSummaryLoop
  generalize hp : s.point = p at points
  generalize hp' : t.point = p' at points
  cases points with
  | checking =>
    simp only [held, received, Bool.false_eq_true, if_false]
    exact ⟨⟨h.latest, h.version, h.error, h.own, .reading, h.reader⟩, trivial⟩
  | reading =>
    obtain ⟨alike, feeds⟩ := source.readDeviceEvent_agrees utf8Error s.reader t.reader h.reader
    exact ⟨h.received alike feeds, rfl⟩
  | storing summary =>
    have version : saturatingAdd s.inner.version 1 = saturatingAdd t.state.version 1 := by
      rw [h.own, h.version]
    have error : s.inner.terminalError.map (·.kind) = t.state.terminalError.map (·.kind) := by
      rw [h.own, h.error]
    have latest : (s.inner.storeSummary summary).latest = some {
        version := saturatingAdd t.state.version 1, summary } := by
      rw [← version]
      rfl
    exact ⟨⟨latest, version, error, rfl, .checking, h.reader⟩, latest⟩
  | failing kind =>
    have latest : s.inner.latest = t.state.latest := by rw [h.own, h.latest]
    have version : s.inner.version = t.state.version := by rw [h.own, h.version]
    simp only [AsyncLatestFrameSummaryPump.send, received, if_false]
    exact ⟨⟨latest, version, congrArg some kind, rfl, .returned, h.reader⟩, trivial⟩
  | returned =>
    refine ⟨⟨h.latest, h.version, h.error, h.own, ?_, h.reader⟩, rfl⟩
    rw [hp, hp']
    exact .returned

theorem Mirrors.between {s : LatestFrameSummaryPump} {t : AsyncLatestFrameSummaryPump σ}
    (h : Mirrors source s t) {op : PumpStep} (quiet : op.isLoop = false) :
    Mirrors source (s.step utf8Error op) t ∧ s.publishes utf8Error op = none := by
  cases op with
  | loop => cases quiet
  | clone =>
    refine ⟨?_, rfl⟩
    unfold LatestFrameSummaryPump.step
    dsimp only
    split
    · exact ⟨h.latest, h.version, h.error, h.own, h.point, h.reader⟩
    · exact h
  | drop => exact ⟨⟨h.latest, h.version, h.error, h.own, h.point, h.reader⟩, rfl⟩

theorem Mirrors.between_async {s : LatestFrameSummaryPump} {t : AsyncLatestFrameSummaryPump σ}
    (h : Mirrors source s t) {op : PumpStep} (quiet : op.isLoop = false) :
    Mirrors source s (t.step source utf8Error op) ∧ t.publishes source utf8Error op = none := by
  cases op with
  | loop => cases quiet
  | clone =>
    refine ⟨?_, rfl⟩
    unfold AsyncLatestFrameSummaryPump.step
    dsimp only
    split
    · exact ⟨h.latest, h.version, h.error, h.own, h.point, h.reader⟩
    · exact h
  | drop => exact ⟨⟨h.latest, h.version, h.error, h.own, h.point, h.reader⟩, rfl⟩

end Loops

/-- The blocking readers and the asynchronous ones agree at every place of a stream, and so do the pumps
over them: while each has a receiver, the same number of turns publishes the same snapshots and ends with
the same kind of error. -/
theorem sync_async_agree {σ : Type} (source : AsyncRead σ) (utf8Error : List UInt8 → String) :
    source.Agrees (readDeviceMessage utf8Error) (source.readDeviceMessageAsync utf8Error) ∧
    source.Agrees (readDeviceEvent utf8Error) (source.readDeviceEventAsync utf8Error) ∧
    ∀ (r : Reader IoError) (s : σ) (xs ys : List PumpStep), source.Feeds r s →
      xs.countP PumpStep.isLoop = ys.countP PumpStep.isLoop →
      Run.Along (LatestFrameSummaryPump.step utf8Error) (fun p _ => 0 < p.handles) (.spawn r) xs →
      Run.Along (AsyncLatestFrameSummaryPump.step source utf8Error) (fun p _ => 0 < p.receivers)
        (.spawn s) ys →
      let p := Run.after (LatestFrameSummaryPump.step utf8Error) (.spawn r) xs
      let q := Run.after (AsyncLatestFrameSummaryPump.step source utf8Error) (.spawn s) ys
      Run.outputs (LatestFrameSummaryPump.step utf8Error) (LatestFrameSummaryPump.publishes utf8Error)
          (.spawn r) xs =
        Run.outputs (AsyncLatestFrameSummaryPump.step source utf8Error)
          (AsyncLatestFrameSummaryPump.publishes source utf8Error) (.spawn s) ys ∧
      p.inner.latest = q.watched.latest ∧
      p.inner.terminalError.map (·.kind) = q.watched.terminalError.map (·.kind) := by
  refine ⟨source.readDeviceMessage_agrees utf8Error, source.readDeviceEvent_agrees utf8Error, ?_⟩
  intro r s xs ys feeds count alive alive'
  have spawned : Mirrors source (.spawn r) (.spawn s) := ⟨rfl, rfl, rfl, rfl, .checking, feeds⟩
  have turns (p : LatestFrameSummaryPump) (q : AsyncLatestFrameSummaryPump σ) (i j : PumpStep)
      (h : Mirrors source p q) (turn : i.isLoop = true) (turn' : j.isLoop = true)
      (held : 0 < p.handles) (received : 0 < q.receivers) :
      Mirrors source (p.step utf8Error i) (q.step source utf8Error j) ∧
        p.publishes utf8Error i = q.publishes source utf8Error j := by
    cases i with
    | loop =>
      cases j with
      | loop => exact h.turn held received
      | clone | drop => cases turn'
    | clone | drop => cases turn
  have between (p : LatestFrameSummaryPump) (q : AsyncLatestFrameSummaryPump σ) (op : PumpStep)
      (h : Mirrors source p q) (quiet : op.isLoop = false) :
      Mirrors source (p.step utf8Error op) q ∧ p.publishes utf8Error op = none := h.between quiet
  have between' (p : LatestFrameSummaryPump) (q : AsyncLatestFrameSummaryPump σ) (op : PumpStep)
      (h : Mirrors source p q) (quiet : op.isLoop = false) :
      Mirrors source p (q.step source utf8Error op) ∧ q.publishes source utf8Error op = none :=
    h.between_async quiet
  obtain ⟨mirrors, published⟩ :=
    Run.outputs_agree (Mirrors source) between between' turns spawned count alive alive'
  exact ⟨published, mirrors.latest, mirrors.error⟩

def dropBytes : Nat → List (List UInt8) → List (List UInt8)
  | _, [] => []
  | n, piece :: pieces =>
    if piece.length ≤ n then dropBytes (n - piece.length) pieces else piece.drop n :: pieces

theorem flatten_dropBytes (n : Nat) (pieces : List (List UInt8)) :
    (dropBytes n pieces).flatten = pieces.flatten.drop n := by
  induction pieces generalizing n with
  | nil => simp [dropBytes]
  | cons piece pieces ih =>
    by_cases whole : piece.length ≤ n
    · simp [dropBytes, whole, ih, List.drop_append, List.drop_of_length_le]
    · have part : n - piece.length = 0 := by omega
      simp [dropBytes, whole, List.drop_append, part]

def socket : AsyncRead (List (List UInt8)) where
  readExact n pieces :=
    if n ≤ pieces.flatten.length then (.ok (pieces.flatten.take n), dropBytes n pieces)
    else (.err { kind := .unexpectedEof, message := "early eof" }, [])
  rest := List.flatten
  fills n pieces enough := by
    rw [if_pos enough]
    exact ⟨rfl, flatten_dropBytes n pieces⟩
  ends n pieces short := by
    rw [if_neg (Nat.not_le_of_lt short)]
    exact ⟨⟨_, rfl, rfl⟩, rfl⟩

/-- The acknowledgement of a clipboard, in one piece and in two. -/
theorem ack_read_alike :
    let utf8Error : List UInt8 → String := fun _ => "invalid utf-8 sequence"
    let p := Run.after (LatestFrameSummaryPump.step utf8Error)
      (.spawn ⟨[1, 0, 0, 0, 0, 0, 0, 0, 7], cursorEnd⟩) [.loop, .clone, .loop]
    let q := Run.after (AsyncLatestFrameSummaryPump.step socket utf8Error)
      (.spawn [[1, 0, 0], [0, 0, 0, 0, 0, 7]]) [.loop, .loop]
    p.inner.latest = q.watched.latest ∧
      p.inner.terminalError.map (·.kind) = q.watched.terminalError.map (·.kind) :=
  ((sync_async_agree socket fun _ => "invalid utf-8 sequence").2.2
    ⟨[1, 0, 0, 0, 0, 0, 0, 0, 7], cursorEnd⟩ [[1, 0, 0], [0, 0, 0, 0, 0, 7]] [.loop, .clone, .loop]
    [.loop, .loop] ⟨rfl, rfl⟩ rfl ⟨Nat.zero_lt_one, Nat.zero_lt_one, Nat.zero_lt_two, trivial⟩
    ⟨Nat.zero_lt_one, Nat.zero_lt_one, trivial⟩).2

end HidConnect.Incoming

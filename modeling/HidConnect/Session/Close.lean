import HidConnect.Library.Run
import HidConnect.Session.Op
import HidConnect.Session.Open

/-! Closing over a transport that may refuse writes: when a retried close leaves the wire with one
destroy for every create. -/
namespace HidConnect
open Fallible

namespace GamepadHid

theorem gamepadId_bindings {g g' : GamepadHid} (h : g'.bindings = g.bindings) (i : SlotIdx) :
    (g'.slot i).gamepadId = (g.slot i).gamepadId := by
  have at' := congrArg (fun v => v[i]) h
  simpa [bindings] using at'

theorem closeSlotIdx_bindings {g g' : GamepadHid} (h : g'.bindings = g.bindings) (i : SlotIdx) :
    ((closeSlotIdx i).run g').1 = ((closeSlotIdx i).run g).1 := by
  have free : (g'.slot i).isFree = (g.slot i).isFree := by
    rw [GamepadSlot.isFree, GamepadSlot.isFree, gamepadId_bindings h i]
  unfold closeSlotIdx
  rw [Method.run_read_bind, Method.run_read_bind, free]
  cases g.slots[i].isFree <;> rfl

theorem close_bindings {g g' : GamepadHid} (h : g'.bindings = g.bindings) (id : UInt32) :
    ((close id).run g').1 = ((close id).run g).1 := by
  have found : g'.findSlot id = g.findSlot id := by
    simp only [findSlot, gamepadId_bindings h]
  unfold close
  split
  · rfl
  · rw [Method.run_read_bind, Method.run_read_bind, found]
    cases g.findSlot id <;> rfl

end GamepadHid

namespace HidSession

theorem SameDevices.releaseMessage {s s' : HidSession} (h : SameDevices s s') :
    s'.releaseMessage = s.releaseMessage := by
  have same := h.gamepad
  unfold HidSession.releaseMessage released
  rw [h.slot]
  cases hg : s.gamepad with
  | none =>
    rw [hg] at same
    cases hg' : s'.gamepad with
    | none => rfl
    | some g' =>
      rw [hg'] at same
      contradiction
  | some g =>
    rw [hg] at same
    cases hg' : s'.gamepad with
    | none =>
      rw [hg'] at same
      contradiction
    | some g' =>
      rw [hg'] at same
      have bound : g'.bindings = g.bindings := Option.some.inj same
      cases s.gamepadSlot with
      | none => simp only [GamepadHid.close_bindings bound]
      | some i => simp only [GamepadHid.closeSlotIdx_bindings bound]

theorem SameDevices.farewells {s s' : HidSession} (h : SameDevices s s') :
    s'.farewells = s.farewells := by
  rw [HidSession.farewells, HidSession.farewells, inputDevices, inputDevices, h.kbd, h.mouse,
    h.releaseMessage]

/- The life of a session: first all its devices are announced, then they are all gone. -/

/-- `opened` is the session as it was opened; the messages since then are all `P`. -/
structure Live (opened : HidSession) (ds : List Device) (P : ControlMessage → Prop)
    (s : HidSession) : Prop where
  same : SameDevices opened s
  live : opened.closed = false
  bound : opened.farewells = ds.map Device.destroy
  stream : ∃ d sent held rest, CoalescingWriter.Carries d s.transport sent held ∧
    sent ++ held = ds.map Device.create ++ rest ∧ ∀ msg ∈ rest, P msg

/-- The messages since the close are all `Q`. -/
structure Gone (ds : List Device) (P Q : ControlMessage → Prop) (s : HidSession) : Prop where
  closed : s.closed = true
  stream : ∃ d sent held before later, CoalescingWriter.Carries d s.transport sent held ∧
    sent ++ held = ds.map Device.create ++ before ++ ds.map Device.destroy ++ later ∧
    (∀ msg ∈ before, P msg) ∧ ∀ msg ∈ later, Q msg

variable {g : Grant} {opened s s' : HidSession} {ds : List Device}
  {P Q : ControlMessage → Prop}

theorem Live.stays (h : Live opened ds P s) (stays : Stays g s s')
    (fits : ∀ msg, Allowed g opened msg → P msg) : Live opened ds P s' := by
  obtain ⟨d, sent, held, rest, carries, stream, allP⟩ := h.stream
  obtain ⟨landed, sent', held', carries', joined, allowed, _⟩ := stays.stream d sent held carries
  refine ⟨h.same.trans stays.same, h.live, h.bound, d, sent', held', rest ++ landed, carries', ?_, ?_⟩
  · rw [joined, stream, List.append_assoc]
  · intro msg hm
    rcases List.mem_append.mp hm with hm | hm
    · exact allP msg hm
    · exact fits msg ((h.same.allowed msg).mp (allowed msg hm))

theorem Gone.stays (h : Gone ds P Q s) (stays : Stays g s s')
    (fits : ∀ msg, Allowed g s msg → Q msg) : Gone ds P Q s' := by
  obtain ⟨d, sent, held, before, later, carries, stream, allP, allQ⟩ := h.stream
  obtain ⟨landed, sent', held', carries', joined, allowed, _⟩ := stays.stream d sent held carries
  refine ⟨stays.same.closed.trans h.closed, d, sent', held', before, later ++ landed, carries', ?_,
    allP, ?_⟩
  · rw [joined, stream, List.append_assoc _ later]
  · intro msg hm
    rcases List.mem_append.mp hm with hm | hm
    · exact allQ msg hm
    · exact fits msg (allowed msg hm)

theorem Live.notClosed (h : Live opened ds P s) : s.closed = false := h.same.closed.trans h.live

theorem Live.farewells (h : Live opened ds P s) : s.farewells = ds.map Device.destroy :=
  h.same.farewells.trans h.bound

theorem Live.close_ok (h : Live opened ds P s) (ok : (tryCloseAll.run s).1.isOk = true) :
    Gone ds P Q (tryCloseAll.run s).2 := by
  obtain ⟨d, sent, held, rest, carries, stream, allP⟩ := h.stream
  obtain ⟨outcome, transport, closed⟩ := tryCloseAll_outcome h.notClosed
  obtain ⟨sent', held', done⟩ := carries.pushAll (Device.allCritical_destroy ds)
  rw [h.farewells] at outcome transport
  have whole := done.whole.mp (outcome ▸ ok)
  have joined := done.joined
  rw [whole, List.take_length, stream] at joined
  refine ⟨closed.trans ok, d, sent', held', rest, [], ?_, ?_, allP, List.forall_mem_nil _⟩
  · rw [transport]
    exact done.carries
  · rw [joined, List.append_nil]

/-- A close attempt that may be repeated: it succeeds, or it is refused before the first device is
destroyed and that device is no gamepad, whose slot is freed whatever becomes of its message. -/
def CloseSafe (s : HidSession) : Prop :=
  s.closed = true ∨ s.transport.transport.Accepts (s.farewells.length + s.transport.due) ∨
    (s.inputDevices ≠ [] ∧ ¬s.transport.transport.Accepts (s.transport.due + 1))

theorem turns_of_carries {d : Bool} {w : CoalescingWriter} {sent held : List ControlMessage}
    (carries : CoalescingWriter.Carries d w sent held) : w.turns = w.due + 1 := by
  cases hd : w.direct with
  | false => simp [CoalescingWriter.turns, hd]
  | true =>
    have empty : w.pending = [] := by
      rw [carries.pending, carries.unbuffered (carries.mode ▸ hd), encodeAll_nil]
    simp [CoalescingWriter.turns, CoalescingWriter.due, hd, empty]

theorem Live.close_refused (h : Live opened ds P s) (safe : CloseSafe s)
    (refused : (tryCloseAll.run s).1.isOk = false) : Live opened ds P (tryCloseAll.run s).2 := by
  obtain ⟨d, sent, held, rest, carries, stream, allP⟩ := h.stream
  rcases safe with closed | accepts | ⟨inputs, early⟩
  · rw [h.notClosed] at closed
    contradiction
  · obtain ⟨outcome, _⟩ := tryCloseAll_outcome h.notClosed
    rw [h.farewells] at accepts outcome
    rw [outcome, CoalescingWriter.pushAll_isOk_of_accepts (Device.allCritical_destroy ds)
      accepts] at refused
    contradiction
  · obtain ⟨sent', held', done⟩ := carries.pushAll (Device.allCritical_destroy s.inputDevices)
    have full : s.inputDevices.map Device.destroy ≠ [] := by simpa using inputs
    have none : CoalescingWriter.acceptedCount (s.inputDevices.map Device.destroy) s.transport = 0 := by
      have began := done.began full
      rw [turns_of_carries carries] at began
      by_contra some'
      exact early (began.mp (Nat.pos_of_ne_zero some'))
    rw [none] at done
    have joined := done.joined
    rw [List.take_zero, List.append_nil, stream] at joined
    have notOk : ((CoalescingWriter.pushAll (s.inputDevices.map Device.destroy)).run
        s.transport).1.isOk = false := by
      rw [Bool.eq_false_iff, Ne, done.whole]
      intro zero
      exact full (List.length_eq_zero_iff.mp zero.symm)
    have kept : (tryCloseAll.run s).2 = { s with
        transport := ((CoalescingWriter.pushAll (s.inputDevices.map Device.destroy)).run
          s.transport).2 } := by
      rw [tryCloseAll_run h.notClosed]
      rcases hp : (CoalescingWriter.pushAll (s.inputDevices.map Device.destroy)).run
        s.transport with ⟨r, w⟩
      rw [hp] at notOk
      cases r with
      | ok u => contradiction
      | err e => rfl
      | panic => rfl
    rw [kept]
    exact ⟨h.same.trans ⟨rfl, rfl, rfl, rfl, rfl, rfl⟩, h.live, h.bound, d, sent', held', rest,
      done.carries, joined, allP⟩

/- The wire of a session whose devices are gone. -/

/-- As many destroys as creates of every id. -/
def Balanced (events : List DeviceEvent) : Prop :=
  ∀ id, events.count (.destroy id) = events.count (.create id)

theorem count_calm {msgs : List ControlMessage} (calm : ∀ msg ∈ msgs, msg.isCritical = false)
    (id : UInt16) :
    (msgs.map eventOfMessage).count (.create id) = 0 ∧
      (msgs.map eventOfMessage).count (.destroy id) = 0 := by
  rw [List.count_eq_zero, List.count_eq_zero]
  constructor
  · intro hm
    obtain ⟨msg, hmem, he⟩ := List.mem_map.mp hm
    have c := calm msg hmem
    cases msg <;> contradiction
  · intro hm
    obtain ⟨msg, hmem, he⟩ := List.mem_map.mp hm
    have c := calm msg hmem
    cases msg <;> contradiction

theorem count_announcements (ds : List Device) (id : UInt16) :
    ((ds.map Device.create).map eventOfMessage).count (.create id) =
        ((ds.map Device.destroy).map eventOfMessage).count (.destroy id) ∧
      ((ds.map Device.create).map eventOfMessage).count (.destroy id) = 0 ∧
      ((ds.map Device.destroy).map eventOfMessage).count (.create id) = 0 := by
  induction ds with
  | nil => exact ⟨rfl, rfl, rfl⟩
  | cons d ds ih =>
    obtain ⟨same, none, none'⟩ := ih
    simp only [List.map_cons, Device.event_create, Device.event_destroy, List.count_cons]
    refine ⟨?_, ?_, ?_⟩
    · rw [same]
      simp
    · rw [none]
      simp
    · rw [none']
      simp

/-- What a device sees of a stream whose rest is calm is balanced, buffered or not. -/
theorem Gone.balanced (h : Gone ds (·.isCritical = false) (·.isCritical = false) s) :
    Balanced (readEvents s.transport.transport.wire) := by
  obtain ⟨d, sent, held, before, later, carries, stream, calm, calm'⟩ := h.stream
  have read := readEvents_encodeAll carries.sentOk []
  rw [List.append_nil, ← carries.wire, readEvents_nil, List.append_nil] at read
  intro id
  rw [read]
  have heldNone := count_calm (fun m hm => (carries.heldOk m hm).2) id
  have beforeNone := count_calm calm id
  have laterNone := count_calm calm' id
  obtain ⟨same, none, none'⟩ := count_announcements ds id
  have created := congrArg (fun l => (l.map eventOfMessage).count (.create id)) stream
  have destroyed := congrArg (fun l => (l.map eventOfMessage).count (.destroy id)) stream
  simp only [List.map_append, List.count_append] at created destroyed
  omega

/- Runs from an open on. -/

/-- One operation, whatever becomes of it; the caller goes on with the session it leaves. -/
def step (s : HidSession) (op : SessionOp) : HidSession := (op.run.run s).2

def afterOpen (t : Transport) (clock : Nat → Nat) (req : OpenRequest) : HidSession :=
  («open» t clock req).2

/-- Any message that is not an announcement may be sent. -/
def anyReport : Grant := { keys := True, moves := True, raw := True }

/-- Every close attempt may be repeated, and no device is announced or freed by hand. -/
def Careful (s : HidSession) : SessionOp → Prop
  | .close => CloseSafe s
  | op => Within anyReport op

theorem live_opened {t : Transport} {clock : Nat → Nat} {req : OpenRequest} (fresh : t.wire = [])
    (allOrNothing : t.AllOrNothing) (flushOk : t.FlushOk)
    (ok : («open» t clock req).1 = .ok ()) :
    Live (HidSession.afterOpen t clock req) req.requested P (HidSession.afterOpen t clock req) := by
  obtain ⟨d, ⟨_, w, state, carries, _⟩ | ⟨⟨e, err⟩, _⟩⟩ :=
    open_outcome t clock req fresh allOrNothing flushOk
  · have bound := farewells_adoptAll t clock req w req.requested.length
    rw [List.take_length, ← state] at bound
    refine ⟨.refl _, ?_, bound, d, _, [], [], ?_, List.append_nil _ |>.trans
      (List.append_nil _).symm, List.forall_mem_nil _⟩
    · rw [HidSession.afterOpen, state]
      exact (adoptAll_closed _ _).trans rfl
    · rw [HidSession.afterOpen, state]
      exact carries
  · rw [ok] at err
    contradiction

theorem opened_working {t : Transport} (clock : Nat → Nat) (req : OpenRequest)
    (fresh : t.wire = []) (never : t.NeverFails) :
    («open» t clock req).1 = .ok () ∧ Working (afterOpen t clock req) ∧
      ∃ d w, afterOpen t clock req = { adoptAll (start t clock req) req.requested with
          transport := w } ∧
        CoalescingWriter.Carries d w (req.requested.map Device.create) [] := by
  obtain ⟨d, ⟨ok, w, state, carries, onWrite⟩ | ⟨_, k, _, _, fails, _⟩⟩ :=
    open_outcome t clock req fresh never.allOrNothing never.2
  · refine ⟨ok, ?_, d, w, state, carries⟩
    unfold Working Transport.NeverFails Transport.FlushOk afterOpen
    rw [state, onWrite]
    exact ⟨never.1, carries.flushOk⟩
  · exact (fails (never.1 _)).elim

theorem allowed_calm {g : Grant} {s : HidSession} {msg : ControlMessage} (h : Allowed g s msg) :
    msg.isCritical = false := by
  cases msg <;> first | rfl | contradiction

theorem tryCloseAll_closed (h : s.closed = true) : tryCloseAll.run s = (.ok (), s) := by
  rw [tryCloseAll, Method.run_read_bind, h]
  rfl

/-- The devices are all there or all gone. -/
def Whole (opened : HidSession) (ds : List Device) (s : HidSession) : Prop :=
  Live opened ds (·.isCritical = false) s ∨ Gone ds (·.isCritical = false) (·.isCritical = false) s

theorem whole_step (h : Whole opened ds s) (op : SessionOp) (careful : Careful s op) :
    Whole opened ds (step s op) := by
  have within (other : Within anyReport op) : Whole opened ds (step s op) := by
    have stays := keeps_op other s
    rcases h with live | gone
    · exact .inl (live.stays stays fun _ => allowed_calm)
    · exact .inr (gone.stays stays fun _ => allowed_calm)
  cases op with
  | close =>
    rcases h with live | gone
    · cases hr : (tryCloseAll.run s).1.isOk with
      | true => exact .inr (live.close_ok hr)
      | false => exact .inl (live.close_refused careful hr)
    · have same : step s .close = s := congrArg Prod.snd (tryCloseAll_closed gone.closed)
      rw [same]
      exact .inr gone
  | _ => exact within careful

theorem whole_close (h : Whole opened ds s) (ok : (close.run s).1 = .ok ()) :
    Gone ds (·.isCritical = false) (·.isCritical = false) (close.run s).2 := by
  rcases h with live | gone
  · exact live.close_ok (by
      rw [← HidSession.close, ok]
      rfl)
  · rwa [HidSession.close, tryCloseAll_closed gone.closed]

theorem stays_flush (s : HidSession) : Stays g s (flushNow.run s).2 :=
  stays_onWriter (fun d => CoalescingWriter.emits_flushNow d) (List.forall_mem_nil _)

theorem drop_eq (s : HidSession) : s.drop = (flushNow.run (close.run s).2).2 := by
  unfold drop HidSession.close
  cases hc : s.closed with
  | true =>
    rw [tryCloseAll_closed hc]
    rfl
  | false => rfl

end HidSession

/-- When every close attempt may be repeated, the one that returns `Ok`, or the drop whose close
does, leaves one destroy on the wire for every create. -/
theorem close_is_retryable (t : Transport) (clock : Nat → Nat) (req : OpenRequest)
    (fresh : t.wire = []) (allOrNothing : t.AllOrNothing) (flushOk : t.FlushOk)
    (ok : (HidSession.open t clock req).1 = .ok ()) (ops : List SessionOp)
    (careful : Run.Along HidSession.step HidSession.Careful (HidSession.afterOpen t clock req) ops) :
    let s := Run.after HidSession.step (HidSession.afterOpen t clock req) ops
    (HidSession.close.run s).1 = .ok () →
      HidSession.Balanced (readEvents (HidSession.close.run s).2.transport.transport.wire) ∧
      HidSession.Balanced (readEvents s.drop.transport.transport.wire) := by
  intro s closed
  have whole : HidSession.Whole (HidSession.afterOpen t clock req) req.requested s :=
    Run.invariant (HidSession.Whole (HidSession.afterOpen t clock req) req.requested)
      (fun _ op h safe => HidSession.whole_step h op safe)
      (.inl (HidSession.live_opened fresh allOrNothing flushOk ok)) careful
  have gone := HidSession.whole_close whole closed
  have flushed := HidSession.stays_flush (g := HidSession.anyReport) (HidSession.close.run s).2
  refine ⟨gone.balanced, ?_⟩
  rw [HidSession.drop_eq]
  exact (gone.stays flushed fun _ => HidSession.allowed_calm).balanced

/-- The keyboard's destroy is refused once, and nothing is lost or repeated by the retry. -/
theorem close_is_retryable_first :
    let s := Run.after HidSession.step
      (HidSession.afterOpen (.refuses 2) (fun _ => 0) (.devices true true false)) [.close]
    HidSession.Balanced (readEvents (HidSession.close.run s).2.transport.transport.wire) :=
  (close_is_retryable (.refuses 2) (fun _ => 0) (.devices true true false) rfl
    (Transport.refuses_allOrNothing 2) (Transport.refuses_flushOk 2) (by decide +kernel) [.close]
    ⟨Or.inr (.inr ⟨by decide +kernel, fun accepts => by
      have first := (accepts 0 (Nat.succ_pos _)).1
      contradiction⟩), trivial⟩ (by decide +kernel)).1

/-- The mouse's destroy is refused once: the retry destroys the keyboard a second time. -/
theorem close_repeats_destroy :
    let s := Run.after HidSession.step
      (HidSession.afterOpen (.refuses 3) (fun _ => 0) (.devices true true false)) [.close]
    (Transport.refuses 3).AllOrNothing ∧ (Transport.refuses 3).FlushOk ∧
      (HidSession.open (.refuses 3) (fun _ => 0) (.devices true true false)).1 = .ok () ∧
      (HidSession.close.run s).1 = .ok () ∧
      ¬HidSession.Balanced (readEvents (HidSession.close.run s).2.transport.transport.wire) := by
  refine ⟨Transport.refuses_allOrNothing 3, Transport.refuses_flushOk 3, by decide +kernel,
    by decide +kernel, fun balanced => ?_⟩
  have once := balanced 1
  revert once
  decide +kernel

end HidConnect

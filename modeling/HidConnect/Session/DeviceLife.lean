import HidConnect.Session.Close

/-! Input reports and the life of their device: no report before its create or after its
destroy. -/
namespace HidConnect
open Fallible

/- The device's view: which ids are alive, and whether every report was for one of them. -/

def aliveNext (alive : List UInt16) : DeviceEvent → List UInt16
  | .create id => id :: alive
  | .destroy id => alive.filter (· ≠ id)
  | _ => alive

def aliveAfter (alive : List UInt16) (events : List DeviceEvent) : List UInt16 :=
  events.foldl aliveNext alive

/-- Every input report is for an id that is alive. -/
def InputsAlive : List UInt16 → List DeviceEvent → Prop
  | _, [] => True
  | alive, .input id report :: rest =>
    id ∈ alive ∧ InputsAlive (aliveNext alive (.input id report)) rest
  | alive, event :: rest => InputsAlive (aliveNext alive event) rest

instance decidableInputsAlive :
    (alive : List UInt16) → (events : List DeviceEvent) → Decidable (InputsAlive alive events)
  | _, [] => .isTrue trivial
  | alive, .input id _ :: rest =>
    have := decidableInputsAlive alive rest
    inferInstanceAs (Decidable (id ∈ alive ∧ InputsAlive alive rest))
  | alive, .create id :: rest => decidableInputsAlive (id :: alive) rest
  | alive, .destroy id :: rest => decidableInputsAlive (alive.filter (· ≠ id)) rest
  | alive, .touch _ _ :: rest => decidableInputsAlive alive rest
  | alive, .other _ :: rest => decidableInputsAlive alive rest

theorem inputsAlive_append (alive : List UInt16) (xs ys : List DeviceEvent) :
    InputsAlive alive (xs ++ ys) ↔
      InputsAlive alive xs ∧ InputsAlive (aliveAfter alive xs) ys := by
  induction xs generalizing alive with
  | nil => exact ⟨fun h => ⟨trivial, h⟩, fun h => h.2⟩
  | cons x rest ih =>
    cases x with
    | input id report =>
      simp only [List.cons_append, InputsAlive, ih]
      exact and_assoc.symm
    | _ => exact ih _

/-- Reports of ids that are alive, and events of no device. -/
def Calm (alive : List UInt16) : DeviceEvent → Prop
  | .create _ | .destroy _ => False
  | .input id _ => id ∈ alive
  | _ => True

theorem calm_run {alive : List UInt16} {events : List DeviceEvent}
    (h : ∀ event ∈ events, Calm alive event) :
    InputsAlive alive events ∧ aliveAfter alive events = alive := by
  induction events with
  | nil => exact ⟨trivial, rfl⟩
  | cons event rest ih =>
    have tail := ih fun e he => h e (List.mem_cons_of_mem _ he)
    have first := h event (List.mem_cons_self ..)
    cases event with
    | create id => contradiction
    | destroy id => contradiction
    | input id report => exact ⟨⟨first, tail.1⟩, tail.2⟩
    | touch action pointerId => exact tail
    | other tag => exact tail

theorem creates_run (alive : List UInt16) (ds : List Device) :
    InputsAlive alive ((ds.map Device.create).map eventOfMessage) ∧
      ∀ id, id ∈ alive ∨ (∃ d ∈ ds, d.hidId = id) →
        id ∈ aliveAfter alive ((ds.map Device.create).map eventOfMessage) := by
  induction ds generalizing alive with
  | nil => exact ⟨trivial, fun id h => h.elim (fun ha => ha) fun ⟨_, hd, _⟩ => nomatch hd⟩
  | cons d ds ih =>
    obtain ⟨fine, kept⟩ := ih (d.hidId :: alive)
    simp only [List.map_cons, Device.event_create]
    refine ⟨fine, fun id h => kept id ?_⟩
    rcases h with ha | ⟨d', hd, rfl⟩
    · exact .inl (List.mem_cons_of_mem _ ha)
    · rcases List.mem_cons.mp hd with rfl | hd
      · exact .inl (List.mem_cons_self ..)
      · exact .inr ⟨d', hd, rfl⟩

theorem destroys_run (alive : List UInt16) (ds : List Device) :
    InputsAlive alive ((ds.map Device.destroy).map eventOfMessage) := by
  induction ds generalizing alive with
  | nil => trivial
  | cons d ds ih => exact ih _

/-- No announcement, and no report but of the given devices. -/
def ReportsOf (ds : List Device) (msg : ControlMessage) : Prop :=
  Calm (ds.map Device.hidId) (eventOfMessage msg)

theorem calm_messages {ds : List Device} {alive : List UInt16}
    (known : ∀ d ∈ ds, d.hidId ∈ alive) {msgs : List ControlMessage}
    (h : ∀ msg ∈ msgs, ReportsOf ds msg) : ∀ event ∈ msgs.map eventOfMessage, Calm alive event := by
  intro event he
  obtain ⟨msg, hm, rfl⟩ := List.mem_map.mp he
  have calm := h msg hm
  unfold ReportsOf at calm
  generalize eventOfMessage msg = event at calm
  cases event with
  | create id => contradiction
  | destroy id => contradiction
  | input id report =>
    obtain ⟨d, hd, rfl⟩ := List.mem_map.mp calm
    exact known d hd
  | touch action pointerId => trivial
  | other tag => trivial

namespace HidSession
variable {opened s : HidSession} {ds : List Device}

/-- Devices announced, reports, devices taken back, and no report since. -/
theorem stream_alive {before later : List ControlMessage}
    (reports : ∀ msg ∈ before, ReportsOf ds msg) (quiet : ∀ msg ∈ later, ReportsOf [] msg) :
    InputsAlive [] ((ds.map Device.create ++ before ++ ds.map Device.destroy ++ later).map
      eventOfMessage) := by
  simp only [List.map_append, inputsAlive_append]
  obtain ⟨created, known⟩ := creates_run [] ds
  refine ⟨⟨⟨created, ?_⟩, ?_⟩, ?_⟩
  · exact (calm_run (calm_messages (fun d hd => known _ (.inr ⟨d, hd, rfl⟩)) reports)).1
  · exact destroys_run _ ds
  · exact (calm_run (calm_messages (by simp) quiet)).1

theorem wire_alive {d : Bool} {sent held : List ControlMessage} (later : List ControlMessage)
    (carries : CoalescingWriter.Carries d s.transport sent held)
    (alive : InputsAlive [] ((sent ++ held ++ later).map eventOfMessage)) :
    InputsAlive [] (readEvents s.transport.transport.wire) := by
  have read := readEvents_encodeAll carries.sentOk []
  rw [List.append_nil, ← carries.wire, readEvents_nil, List.append_nil] at read
  rw [read]
  rw [List.append_assoc, List.map_append, inputsAlive_append] at alive
  exact alive.1

theorem Live.alive (h : Live opened ds (ReportsOf ds) s) :
    InputsAlive [] (readEvents s.transport.transport.wire) := by
  obtain ⟨d, sent, held, rest, carries, stream, reports⟩ := h.stream
  refine wire_alive (ds.map Device.destroy ++ []) carries ?_
  rw [stream, ← List.append_assoc]
  exact stream_alive reports (List.forall_mem_nil _)

theorem Gone.alive (h : Gone ds (ReportsOf ds) (ReportsOf []) s) :
    InputsAlive [] (readEvents s.transport.transport.wire) := by
  obtain ⟨d, sent, held, before, later, carries, stream, reports, quiet⟩ := h.stream
  refine wire_alive [] carries ?_
  rw [List.append_nil, stream]
  exact stream_alive reports quiet

/- Which operations report. -/

/-- The operation puts a keyboard or a mouse report on its way. -/
def Reports (s : HidSession) : SessionOp → Prop
  | .key scancode _ _ | .keyChord _ scancode =>
    s.kbd.isSome = true ∧ KeyboardHid.accepts scancode = true
  | .typeText text => s.kbd.isSome = true ∧ ∃ ch ∈ text.toList, supported ch = true
  | .typeTextStrict text =>
    s.kbd.isSome = true ∧ ∃ ch, text.toList.head? = some ch ∧ supported ch = true
  | .mouseMotion _ _ _ | .mouseButtons _ => s.mouse.isSome = true
  | .mouseScroll hscroll vscroll =>
    ∃ m, s.mouse = some m ∧ (m.generateInputFromScroll hscroll vscroll).1.isSome = true
  | .mouseFrameBatch frames => s.mouse.isSome = true ∧ frames ≠ []
  | _ => False

/-- No message by hand, and no slot bound anew. -/
def ByDriver : SessionOp → Prop
  | .send msg => ∀ id report, eventOfMessage msg ≠ .create id ∧ eventOfMessage msg ≠ .destroy id ∧
      eventOfMessage msg ≠ .input id report
  | .editGamepad edit => ∀ gp : GamepadHid, (edit gp).bindings = gp.bindings
  | _ => True

/-- A closed session is asked for no keyboard and no mouse report. -/
def Quiet (s : HidSession) (op : SessionOp) : Prop :=
  ByDriver op ∧ (s.closed = true → ¬Reports s op)

def ownReports : Grant := { keys := True, moves := True, raw := False }

/-- What is left to a closed session: devices that are not open anyway. -/
def noReport (s : HidSession) : Grant :=
  { keys := s.kbd.isSome = false, moves := s.mouse.isSome = false, raw := False }

theorem within_ownReports {op : SessionOp} (driver : ByDriver op) (notClose : op ≠ .close) :
    Within ownReports op := by
  cases op with
  | send msg =>
    cases msg with
    | uhidCreate c => exact (driver c.id []).1 rfl
    | uhidDestroy d => exact (driver d.id []).2.1 rfl
    | uhidInput i => exact (driver i.id _).2.2 rfl
    | _ => trivial
  | close => contradiction
  | editGamepad edit => exact driver
  | key scancode pressed mods => exact fun _ => trivial
  | typeText text => exact fun _ => trivial
  | typeTextStrict text => exact fun _ => trivial
  | keyChord mods scancode => exact fun _ => trivial
  | mouseFrameBatch frames => exact fun _ => trivial
  | _ => trivial

theorem scroll_quiet {m : MouseHid} (hm : s.mouse = some m) {hscroll vscroll : Float32}
    (none : (m.generateInputFromScroll hscroll vscroll).1 = none) {g : Grant} :
    Stays g s (step s (.mouseScroll hscroll vscroll)) := by
  rcases hg : m.generateInputFromScroll hscroll vscroll with ⟨report, after⟩
  rw [hg] at none
  obtain rfl : report = Option.none := none
  have run : step s (.mouseScroll hscroll vscroll) = { s with mouse := some after } := by
    rw [step, SessionOp.run, Method.run_discard, mouseScroll, Method.run_read_bind, hm]
    simp only [Method.okOr_some, Method.pure_bind, hg]
    rfl
  rw [run]
  exact stays_of_same ⟨rfl, by rw [hm]; rfl, rfl, rfl, rfl, rfl⟩ rfl

theorem stays_noReport {op : SessionOp} (driver : ByDriver op) (notClose : op ≠ .close)
    (quiet : ¬Reports s op) : Stays (noReport s) s (step s op) := by
  have absent {a : Bool} {p : Prop} (h : ¬(a = true ∧ p)) (hp : p) : a = false := by
    cases a with
    | true => exact (h ⟨rfl, hp⟩).elim
    | false => rfl
  have kept (within : Within (noReport s) op) : Stays (noReport s) s (step s op) :=
    keeps_op within s
  cases op with
  | close => contradiction
  | send msg => exact kept (by
      have own := within_ownReports driver notClose
      cases msg <;> trivial)
  | key scancode pressed mods => exact kept (absent quiet)
  | keyChord mods scancode => exact kept (absent quiet)
  | typeText text => exact kept (absent quiet)
  | typeTextStrict text => exact kept (absent quiet)
  | mouseFrameBatch frames => exact kept (absent quiet)
  | mouseMotion dx dy buttonsState => exact kept (Bool.not_eq_true _ |>.mp quiet)
  | mouseButtons buttonsState => exact kept (Bool.not_eq_true _ |>.mp quiet)
  | mouseScroll hscroll vscroll =>
    cases hm : s.mouse with
    | none => exact kept (by rw [Within, noReport, hm]; rfl)
    | some m =>
      refine scroll_quiet hm ?_
      cases hr : (m.generateInputFromScroll hscroll vscroll).1 with
      | none => rfl
      | some report => exact (quiet ⟨m, hm, by rw [hr]; rfl⟩).elim
  | editGamepad edit => exact kept driver
  | _ => exact kept trivial

/- Runs over a transport that never fails. -/

/-- The opened session may report on its own devices only. -/
def OwnDevices (opened : HidSession) (ds : List Device) : Prop :=
  ∀ msg, Allowed ownReports opened msg → ReportsOf ds msg

theorem ownDevices_opened (t : Transport) (clock : Nat → Nat) (req : OpenRequest)
    (w : CoalescingWriter) :
    OwnDevices { adoptAll (start t clock req) req.requested with transport := w }
      req.requested := by
  have kbd : (adoptAll (start t clock req) req.requested).kbd.isSome = req.kbd := by
    unfold OpenRequest.requested
    cases req.kbd <;> cases req.mouse <;> cases req.gamepad <;> rfl
  have mouse : (adoptAll (start t clock req) req.requested).mouse.isSome = req.mouse := by
    unfold OpenRequest.requested
    cases req.kbd <;> cases req.mouse <;> cases req.gamepad <;> rfl
  have hidId : (adoptAll (start t clock req) req.requested).gamepadHidId =
      if req.gamepad then some hidIdGamepadFirst else none := by
    unfold OpenRequest.requested
    cases req.kbd <;> cases req.mouse <;> cases req.gamepad <;> rfl
  have slot : (adoptAll (start t clock req) req.requested).gamepadSlot =
      if req.gamepad then some 0 else none := by
    unfold OpenRequest.requested
    cases req.kbd <;> cases req.mouse <;> cases req.gamepad <;> rfl
  have member (d : Device) (wanted : d ∈ req.requested) (id : UInt16) (own : id = d.hidId) :
      id ∈ req.requested.map Device.hidId := List.mem_map.mpr ⟨d, wanted, own.symm⟩
  intro msg allowed
  cases msg with
  | uhidInput i =>
    rcases allowed with raw | ⟨id, _, isOpen⟩ | ⟨id, _, isOpen⟩ | ⟨_, own | ⟨j, own, id⟩⟩
    · exact raw.elim
    · have wanted : req.kbd = true := kbd.symm.trans isOpen
      exact member .keyboard (by simp [OpenRequest.requested, wanted]) _ id
    · have wanted : req.mouse = true := mouse.symm.trans isOpen
      exact member .mouse (by simp [OpenRequest.requested, wanted]) _ id
    · have own' := hidId.symm.trans own
      split at own'
      · rename_i wanted
        exact member .gamepad (by simp [OpenRequest.requested, wanted]) _
          (Option.some.inj own').symm
      · contradiction
    · have own' := slot.symm.trans own
      split at own'
      · rename_i wanted
        obtain rfl := Option.some.inj own'
        exact member .gamepad (by simp [OpenRequest.requested, wanted]) _ id.symm
      · contradiction
  | uhidCreate c => exact allowed
  | uhidDestroy d => exact allowed
  | _ => trivial

theorem allowed_noReport {msg : ControlMessage} (closed : s.closed = true)
    (h : Allowed (noReport s) s msg) : ReportsOf [] msg := by
  cases msg with
  | uhidInput i =>
    rcases h with raw | ⟨_, absent, isOpen⟩ | ⟨_, absent, isOpen⟩ | ⟨live, _⟩
    · exact raw.elim
    · exact nomatch absent.symm.trans isOpen
    · exact nomatch absent.symm.trans isOpen
    · exact nomatch closed.symm.trans live
  | uhidCreate c => exact h
  | uhidDestroy d => exact h
  | _ => trivial

/-- The devices of a working session are all there, or all gone and quiet. -/
def Alive (opened : HidSession) (ds : List Device) (s : HidSession) : Prop :=
  Working s ∧ (Live opened ds (ReportsOf ds) s ∨ Gone ds (ReportsOf ds) (ReportsOf []) s)

theorem close_working (working : Working s) (live : Live opened ds (ReportsOf ds) s) :
    (tryCloseAll.run s).1.isOk = true ∧ Working (tryCloseAll.run s).2 := by
  obtain ⟨d, sent, held, rest, carries, _⟩ := live.stream
  obtain ⟨outcome, transport, _⟩ := tryCloseAll_outcome live.notClosed
  obtain ⟨sent', held', done⟩ := carries.pushAll (Device.allCritical_destroy ds)
  rw [live.farewells] at outcome transport
  have ok := CoalescingWriter.pushAll_isOk_of_accepts (Device.allCritical_destroy ds)
    (working.accepts (_ + s.transport.due))
  refine ⟨outcome ▸ ok, ?_⟩
  unfold Working Transport.NeverFails Transport.FlushOk at working ⊢
  rwa [transport, done.onWrite, done.onFlush]

theorem alive_step (own : OwnDevices opened ds) (h : Alive opened ds s) (op : SessionOp)
    (quiet : Quiet s op) : Alive opened ds (step s op) := by
  obtain ⟨working, life⟩ := h
  by_cases closing : op = .close
  · subst closing
    rcases life with live | gone
    · obtain ⟨ok, working'⟩ := close_working working live
      exact ⟨working', .inr (live.close_ok ok)⟩
    · have same : step s .close = s := congrArg Prod.snd (tryCloseAll_closed gone.closed)
      rw [same]
      exact ⟨working, .inr gone⟩
  · rcases life with live | gone
    · obtain ⟨d, sent, held, rest, carries, _⟩ := live.stream
      have stays := keeps_op (within_ownReports quiet.1 closing) s
      exact ⟨stays.working carries working, .inl (live.stays stays own)⟩
    · obtain ⟨d, sent, held, before, later, carries, _⟩ := gone.stream
      have stays := stays_noReport quiet.1 closing (quiet.2 gone.closed)
      exact ⟨stays.working carries working,
        .inr (gone.stays stays fun _ => allowed_noReport gone.closed)⟩

end HidSession

/-- Over a transport that never fails, a session that is asked for no keyboard or mouse report
once it is closed reports only on devices that are alive. -/
theorem inputs_within_life (t : Transport) (clock : Nat → Nat) (req : OpenRequest)
    (fresh : t.wire = []) (never : t.NeverFails) (ops : List SessionOp)
    (quiet : Run.Along HidSession.step HidSession.Quiet (HidSession.afterOpen t clock req) ops) :
    (HidSession.open t clock req).1 = .ok () ∧
      InputsAlive [] (readEvents (Run.after HidSession.step (HidSession.afterOpen t clock req)
        ops).transport.transport.wire) := by
  obtain ⟨ok, working, d, w, state, _⟩ := HidSession.opened_working clock req fresh never
  have own := HidSession.ownDevices_opened t clock req w
  rw [← state] at own
  obtain ⟨_, live | gone⟩ := Run.invariant
    (HidSession.Alive (HidSession.afterOpen t clock req) req.requested)
    (fun _ op h calm => HidSession.alive_step own h op calm)
    ⟨working, .inl (HidSession.live_opened fresh never.allOrNothing never.2 ok)⟩ quiet
  · exact ⟨ok, live.alive⟩
  · exact ⟨ok, gone.alive⟩

/-- A key before the close, and only a flush after it. -/
theorem inputs_within_life_key :
    InputsAlive [] (readEvents (Run.after HidSession.step
      (HidSession.afterOpen .steady (fun _ => 0) .kbdOnly)
      [.key 4 true .empty, .close, .flushNow]).transport.transport.wire) :=
  (inputs_within_life .steady (fun _ => 0) .kbdOnly rfl Transport.steady_neverFails
    [.key 4 true .empty, .close, .flushNow]
    ⟨⟨trivial, fun closed => absurd closed (by decide +kernel)⟩, ⟨trivial, fun _ h => h⟩,
      ⟨trivial, fun _ h => h⟩, trivial⟩).2

/-- A key after the close is sent to a keyboard that is gone. -/
theorem key_after_close :
    let s := HidSession.afterOpen .steady (fun _ => 0) (.withCoalesce .kbdOnly false)
    (HidSession.close.run s).1 = .ok () ∧
      ¬InputsAlive [] (readEvents (Run.after HidSession.step s
        [.close, .key 4 true .empty]).transport.transport.wire) := by
  decide +kernel

end HidConnect

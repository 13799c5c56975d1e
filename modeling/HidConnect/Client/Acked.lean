import HidConnect.Session.Even
import HidConnect.Client.FlushWait
import HidConnect.Client.HostView

/-! What an `Ok` that a flush waiter is told promises of the calls since the flush before. -/
namespace HidConnect
open Fallible Accounts

/-- The calls of a command are its operations, save for the two reports of a tap, which are one call. -/
theorem HidCommand.calls_eq {cmd : HidCommand} (silent : cmd.slots = []) (stays : cmd.isClose = false)
    (many : ∀ scancode mods, cmd ≠ .keyTap scancode mods) : cmd.calls = cmd.ops.map SessionOp.run := by
  have each {α : Type} {call : α → Session Unit} {op : α → SessionOp} (same : ∀ a, call a = (op a).run)
      (frames : List α) : frames.map call = (frames.map op).map SessionOp.run := by
    rw [List.map_map]
    exact List.map_congr_left fun frame _ => same frame
  cases cmd with
  | keyTap scancode mods => exact absurd rfl (many scancode mods)
  | flushAck seq slot => contradiction
  | close => contradiction
  | typeText s => simp [calls, ops, SessionOp.run, Method.discard_eq]
  | typeTextStrict s => simp [calls, ops, SessionOp.run, Method.discard_eq]
  | keyBatchFixed len frames =>
    apply each
    exact fun _ => rfl
  | mouseBatchFixed len frames =>
    apply each
    exact fun _ => rfl
  | androidKeyBatchFixed len frames =>
    apply each
    exact fun _ => rfl
  | touchBatchFixed len frames =>
    apply each
    exact fun _ => rfl
  | injectScrollBatchFixed len frames =>
    apply each
    exact fun _ => rfl
  | _ => rfl

theorem HidCommand.call_cases {cmd : HidCommand} {call : Session Unit} (mem : call ∈ cmd.calls) :
    (∃ op : SessionOp, call = op.run) ∨ ∃ scancode mods, call = (do
      HidSession.key scancode true mods
      HidSession.key scancode false .empty) := by
  by_cases tap : ∃ scancode mods, cmd = .keyTap scancode mods
  · obtain ⟨scancode, mods, rfl⟩ := tap
    exact .inr ⟨scancode, mods, List.mem_singleton.mp mem⟩
  · left
    have silent : cmd.slots = [] := by
      rcases Dispatcher.slots_cases cmd with silent | ⟨seq, slot, rfl⟩
      · exact silent
      · contradiction
    have stays : cmd.isClose = false := by
      cases cmd with
      | close => contradiction
      | _ => rfl
    rw [calls_eq silent stays fun scancode mods same => tap ⟨scancode, mods, same⟩] at mem
    obtain ⟨op, -, rfl⟩ := List.mem_map.mp mem
    exact ⟨op, rfl⟩

namespace HidSession

theorem evenly_call {cmd : HidCommand} {call : Session Unit} (mem : call ∈ cmd.calls) :
    Evenly False call := by
  rcases HidCommand.call_cases mem with ⟨op, rfl⟩ | ⟨scancode, mods, rfl⟩
  · exact evenly_op op
  · exact (evenly_key _ _ _).bind fun _ => evenly_key _ _ _

def StaysWhole (s s' : HidSession) : Prop := WholeMessages s → WholeMessages s'

instance : IsPreorder HidSession StaysWhole where
  refl _ := id
  trans _ _ _ first second := second ∘ first

theorem staysWhole_op (op : SessionOp) : Method.Keeps StaysWhole op.run :=
  fun _ whole => wholeMessages_step whole op

theorem staysWhole_call {cmd : HidCommand} {call : Session Unit} (mem : call ∈ cmd.calls) :
    Method.Keeps StaysWhole call := by
  rcases HidCommand.call_cases mem with ⟨op, rfl⟩ | ⟨scancode, mods, rfl⟩
  · exact staysWhole_op op
  · exact (staysWhole_op (.key scancode true mods)).bind fun _ => staysWhole_op (.key scancode false .empty)

end HidSession

namespace Dispatcher
open HidSession (Even StaysWhole WholeMessages)

theorem of_attempt {m : Session Unit} {d d' : Dispatcher} (run : (attempt m).run d = (.ok (), d')) :
    d'.session = (m.run d.session).2 ∧
      (d'.pendingError = none → d.pendingError = none ∧ (m.run d.session).1 = .ok ()) := by
  have calm : (m.run d.session).1.isPanic = false := by
    by_contra panics
    have crash : (m.run d.session).1 = .panic := by
      cases out : (m.run d.session).1 <;> simp_all
    have none := attempt_panics d crash
    rw [run] at none
    contradiction
  rw [attempt_run 0 calm] at run
  cases run
  refine ⟨rfl, fun clean => ?_⟩
  rw [Option.or_eq_none_iff] at clean
  refine ⟨clean.1, ?_⟩
  cases out : (m.run d.session).1 with
  | ok a => rfl
  | err e => simp [out, Fault.of] at clean
  | panic => simp [out] at calm

theorem staysWhole_attempts {calls : List (Session Unit)}
    (stay : ∀ call ∈ calls, Method.Keeps StaysWhole call) {d d' : Dispatcher}
    (run : (Method.forEach calls attempt).run d = (.ok (), d')) : StaysWhole d.session d'.session := by
  induction calls generalizing d with
  | nil =>
    obtain rfl : d = d' := congrArg Prod.snd run
    exact id
  | cons m rest ih =>
    obtain ⟨_, d₁, first, later⟩ := Method.of_run_bind_ok run
    intro whole
    apply ih (fun call hm => stay call (List.mem_cons_of_mem _ hm)) later
    rw [(of_attempt first).1]
    exact stay m (List.mem_cons_self ..) d.session whole

theorem staysWhole_perform {cmd : HidCommand} (stays : cmd.isClose = false) {d d' : Dispatcher}
    (run : (perform cmd).run d = (.ok (), d')) : StaysWhole d.session d'.session := by
  rcases slots_cases cmd with silent | ⟨seq, slot, rfl⟩
  · have sound : cmd.Sound := (perform_iff cmd d).mp (by rw [run]; rfl)
    rw [perform_calls sound silent stays] at run
    exact staysWhole_attempts (fun call hm => HidSession.staysWhole_call hm) run
  · have flushed := flushAck_session slot d
    rw [show (flushAck slot).run d = _ from run] at flushed
    rw [show d'.session = _ from flushed]
    exact HidSession.staysWhole_op .flushNow d.session

theorem staysWhole_performed {done : List HidCommand} (isOpen : ∀ cmd ∈ done, cmd.isClose = false)
    {d d' : Dispatcher} (run : (Method.forEach done perform).run d = (.ok (), d')) :
    StaysWhole d.session d'.session := by
  induction done generalizing d with
  | nil =>
    obtain rfl : d = d' := congrArg Prod.snd run
    exact id
  | cons cmd rest ih =>
    obtain ⟨_, d₁, first, later⟩ := Method.of_run_bind_ok run
    intro whole
    apply ih (fun cmd hm => isOpen cmd (List.mem_cons_of_mem _ hm)) later
    exact staysWhole_perform (isOpen cmd (List.mem_cons_self ..)) first whole

theorem slots_performed {done : List HidCommand} {d d' : Dispatcher}
    (run : (Method.forEach done perform).run d = (.ok (), d')) :
    d'.notifiedSlots = d.notifiedSlots ++ slotsOf done := by
  induction done generalizing d with
  | nil =>
    obtain rfl : d = d' := congrArg Prod.snd run
    exact (List.append_nil _).symm
  | cons cmd rest ih =>
    obtain ⟨_, d₁, first, later⟩ := Method.of_run_bind_ok run
    have told := notified_perform cmd d
    rw [first] at told
    rw [ih later, show d₁.notifiedSlots = _ from told, List.append_assoc]
    rfl

theorem even_attempts {calls : List (Session Unit)}
    (evenly : ∀ call ∈ calls, HidSession.Evenly False call) {d d' : Dispatcher}
    (run : (Method.forEach calls attempt).run d = (.ok (), d')) (clean : d'.pendingError = none) :
    d.pendingError = none ∧ ∀ t, Even False d.session t →
      ∃ t', (Method.forEach calls id).run t = (.ok (), t') ∧ Even False d'.session t' := by
  induction calls generalizing d with
  | nil =>
    obtain rfl : d = d' := congrArg Prod.snd run
    exact ⟨clean, fun t even => ⟨t, rfl, even⟩⟩
  | cons m rest ih =>
    obtain ⟨_, d₁, first, later⟩ := Method.of_run_bind_ok run
    obtain ⟨state, came⟩ := of_attempt first
    obtain ⟨clean₁, others⟩ := ih (fun call hm => evenly call (List.mem_cons_of_mem _ hm)) later
    obtain ⟨clean₀, ok⟩ := came clean₁
    refine ⟨clean₀, fun t even => ?_⟩
    obtain ⟨t₁, here, even₁⟩ := (evenly m (List.mem_cons_self ..) d.session t even).ok () d₁.session
      (Prod.ext ok state.symm)
    obtain ⟨t', there, after⟩ := others t₁ even₁
    exact ⟨t', (Method.run_bind_ok here).trans there, after⟩

theorem even_performed {window : List HidCommand} (silent : ∀ cmd ∈ window, cmd.slots = [])
    (isOpen : ∀ cmd ∈ window, cmd.isClose = false) {d d' : Dispatcher}
    (run : (Method.forEach window perform).run d = (.ok (), d')) (clean : d'.pendingError = none) :
    d.pendingError = none ∧ ∀ t, Even False d.session t →
      ∃ t', (Method.forEach (window.flatMap HidCommand.calls) id).run t = (.ok (), t') ∧
        Even False d'.session t' := by
  induction window generalizing d with
  | nil =>
    obtain rfl : d = d' := congrArg Prod.snd run
    exact ⟨clean, fun t even => ⟨t, rfl, even⟩⟩
  | cons cmd rest ih =>
    obtain ⟨_, d₁, first, later⟩ := Method.of_run_bind_ok run
    obtain ⟨clean₁, others⟩ := ih (fun cmd hm => silent cmd (List.mem_cons_of_mem _ hm))
      (fun cmd hm => isOpen cmd (List.mem_cons_of_mem _ hm)) later
    have sound : cmd.Sound := (perform_iff cmd d).mp (by rw [first]; rfl)
    rw [perform_calls sound (silent cmd (List.mem_cons_self ..)) (isOpen cmd (List.mem_cons_self ..))]
      at first
    obtain ⟨clean₀, here⟩ := even_attempts (fun call hm => HidSession.evenly_call hm) first clean₁
    refine ⟨clean₀, fun t even => ?_⟩
    obtain ⟨t₁, ran, even₁⟩ := here t even
    obtain ⟨t', there, after⟩ := others t₁ even₁
    rw [List.flatMap_cons, Method.forEach_append, Method.run_bind_ok ran]
    exact ⟨t', there, after⟩

theorem notified_one {slot : FlushSlot} {d d' : Dispatcher} (run : (flushAck slot).run d = (.ok (), d')) :
    ∃ r, d'.notified = d.notified ++ [(slot, r)] := by
  have pending : d.pendingError =
      ((d.pendingError.map (Fault.mk 0)).toList ++ []).head?.map Fault.error := by
    cases d.pendingError <;> rfl
  have answered := flushAck_run 0 slot pending rfl
  rw [run] at answered
  obtain rfl := congrArg Prod.snd answered
  exact ⟨_, rfl⟩

theorem flushAck_ok {slot : FlushSlot} {d d' : Dispatcher} {n : Nat}
    (run : (flushAck slot).run d = (.ok (), d')) (told : d'.notified = d.notified ++ [(slot, .ok n)]) :
    d.pendingError = none ∧ HidSession.flushNow.run d.session = (.ok n, d'.session) := by
  have pending : d.pendingError =
      ((d.pendingError.map (Fault.mk 0)).toList ++ []).head?.map Fault.error := by
    cases d.pendingError <;> rfl
  rcases flushed : HidSession.flushNow.run d.session with ⟨r, s⟩
  have answered := flushAck_run 0 slot pending flushed
  rw [run] at answered
  obtain rfl := congrArg Prod.snd answered
  have same := List.append_cancel_left told
  cases first : d.pendingError with
  | none =>
    refine ⟨rfl, ?_⟩
    simp only [first, answer, Account.reported, Account.due, Account.early] at same
    cases r with
    | ok m => simpa [Fault.of, FlushReport.told] using same
    | err e => simp [Fault.of, FlushReport.told] at same
    | panic => simp [Fault.of, FlushReport.told] at same
  | some e => simp [first, answer, Account.reported, Account.due, Account.early, FlushReport.told] at same

theorem notified_panic {cmd : HidCommand} {d d' : Dispatcher} (run : (perform cmd).run d = (.panic, d')) :
    d'.notified = d.notified := by
  rcases slots_cases cmd with silent | ⟨seq, slot, rfl⟩
  · have same := silent_perform silent d
    rwa [run] at same
  · have calm := neverPanics_flushAck slot d
    rw [show (flushAck slot).run d = _ from run] at calm
    contradiction

/-- The loop has got through a first part of the commands, without a `Close` in it, and whoever was
told anything was told it there. -/
theorem loop_performed {cmds : List HidCommand} {d d' : Dispatcher} {r : Outcome Empty Transport}
    (run : (dispatcherLoop cmds).run d = (r, d')) :
    ∃ done later d₁, cmds = done ++ later ∧ (∀ cmd ∈ done, cmd.isClose = false) ∧
      (Method.forEach done perform).run d = (.ok (), d₁) ∧ d₁.notified = d'.notified := by
  induction cmds generalizing d with
  | nil =>
    have silent : Method.Keeps Silent (dispatcherLoop []) :=
      (silent_call _).bind fun _ => silent_intoInner
    have same := silent d
    rw [run] at same
    exact ⟨[], [], d, rfl, nofun, rfl, same.symm⟩
  | cons cmd rest ih =>
    rcases performed : (perform cmd).run d with ⟨r', d₁⟩
    have step := dispatch_run performed
    rw [dispatcherLoop] at run
    cases r' with
    | err e => exact e.elim
    | panic =>
      rw [Method.run_bind_panic step] at run
      cases run
      exact ⟨[], cmd :: rest, d, rfl, nofun, rfl, (notified_panic performed).symm⟩
    | ok _ =>
      rw [Method.run_bind_ok step] at run
      cases close : cmd.isClose with
      | false =>
        rw [close, if_neg Bool.false_ne_true] at run
        obtain ⟨done, later, d₂, whole, isOpen, ran, same⟩ := ih run
        refine ⟨cmd :: done, later, d₂, by rw [whole, List.cons_append], ?_, ?_, same⟩
        · simpa [close] using isOpen
        · rw [Method.forEach_cons, Method.run_bind_ok performed, ran]
      | true =>
        obtain rfl : cmd = .close := by cases cmd <;> first | rfl | contradiction
        have slots : HidCommand.close.slots = [] := rfl
        have here := silent_perform slots d
        have there := silent_intoInner d₁
        rw [performed] at here
        rw [show intoInner.run d₁ = _ from run] at there
        exact ⟨[], .close :: rest, d, rfl, nofun, rfl, (there.trans here).symm⟩

end Dispatcher

namespace Clients
open Dispatcher

/-- In any state of the clients and the thread, the answers are those of a first part of what the
channel took. -/
theorem InOrder.answered {session : HidSession} {c : Clients} (h : c.InOrder session) :
    ∃ done later d, c.accepted = done ++ later ∧ (∀ cmd ∈ done, cmd.isClose = false) ∧
      (Method.forEach done perform).run (idleDispatcher session) = (.ok (), d) ∧
      d.notified = c.dispatcher.notified := by
  cases thread : c.thread with
  | running =>
    rw [InOrder, thread] at h
    obtain ⟨done, whole, isOpen, run⟩ := h
    exact ⟨done, c.queue, c.dispatcher, whole, isOpen, run, rfl⟩
  | leaving =>
    rw [InOrder, thread] at h
    obtain ⟨done, later, whole, isOpen, run⟩ := h
    rw [Method.forEach_append] at run
    obtain ⟨_, d, first, last⟩ := Method.of_run_bind_ok run
    rw [Method.forEach_cons, Method.forEach_nil, Method.bind_pure_unit] at last
    have slots : HidCommand.close.slots = [] := rfl
    have same := silent_perform slots d
    rw [last] at same
    exact ⟨done, .close :: later, d, whole, isOpen, first, same.symm⟩
  | returned =>
    rw [InOrder, thread] at h
    obtain ⟨transport, run⟩ := h
    exact loop_performed run
  | panicked =>
    rw [InOrder, thread] at h
    exact loop_performed h

end Clients

theorem performed_answered {cmds done later before rest : List HidCommand} {seq : UInt64}
    {slot : FlushSlot} (whole : cmds = done ++ later) (taken : cmds = before ++ .flushAck seq slot :: rest)
    (unheard : slot ∉ slotsOf before) (heard : slot ∈ slotsOf done) :
    ∃ more, done = before ++ .flushAck seq slot :: more := by
  rcases List.append_eq_append_iff.mp (whole.symm.trans taken) with ⟨more, rfl, -⟩ | ⟨more, rfl, same⟩
  · rw [slotsOf_append] at unheard
    exact absurd (List.mem_append_left _ heard) unheard
  · cases more with
    | nil =>
      rw [List.append_nil] at heard
      exact absurd heard unheard
    | cons cmd others =>
      rw [List.cons_append, List.cons.injEq] at same
      exact ⟨others, by rw [same.1]⟩

namespace HidSession

/-- From the one session to the other the calls have landed: with a transport that works all of them
come back with values, and what they put in the stream then is what is on the wire now. -/
def Landed (calls : List (Session Unit)) (s s' : HidSession) : Prop :=
  ∃ ideal, (Method.forEach calls id).run s.recovered = (.ok (), ideal) ∧
    s' = { ideal with transport := s'.transport } ∧ s'.transport.pending = [] ∧
    s'.transport.transport.wire = ideal.transport.transport.wire ++ ideal.transport.pending

theorem landed_flush {calls : List (Session Unit)} {s s₁ s' ideal : HidSession} {n : Nat}
    (run : (Method.forEach calls id).run s.recovered = (.ok (), ideal)) (even : Even False s₁ ideal)
    (flushed : flushNow.run s₁ = (.ok n, s')) : Landed calls s s' := by
  rcases inner : CoalescingWriter.flushNow.run s₁.transport with ⟨r, w'⟩
  rw [flushNow, onWriter, Method.run_zoom, inner] at flushed
  cases flushed
  obtain ⟨w, rfl, level⟩ := even
  obtain ⟨empty, level'⟩ := CoalescingWriter.level_flushed level inner
  have bytes := level'.bytes
  rw [empty, List.append_nil] at bytes
  exact ⟨_, run, rfl, empty, bytes⟩

end HidSession

open Clients Dispatcher in
/-- A flush that was waited for and came back with a value, whatever writes the transport refuses, over
clients and a dispatcher in any order of steps: every call between this flush and the one before has
landed. -/
theorem ok_flush_landed (t : Transport) (clock : Nat → Nat) (req : OpenRequest) (fresh : t.wire = [])
    (allOrNothing : t.AllOrNothing) (flushOk : t.FlushOk) (bound : Nat) (events : List ClientEvent)
    {before window rest : List HidCommand} {seq : UInt64} {slot : FlushSlot} {n : Nat} :
    let s := HidSession.afterOpen t clock req
    let c := Run.after Clients.step (intoClient s bound) events
    c.accepted = before ++ window ++ .flushAck seq slot :: rest → slot ∉ slotsOf before →
    slotsOf window = [] → FlushWaiting.answerOf slot c = some (.ok n) →
      ∃ d d', (Method.forEach before perform).run (idleDispatcher s) = (.ok (), d) ∧
        (Method.forEach (before ++ window ++ [.flushAck seq slot]) perform).run (idleDispatcher s) =
          (.ok (), d') ∧
        HidSession.Landed (window.flatMap HidCommand.calls) d.session d'.session := by
  intro s c taken unheard silent told
  obtain ⟨done, later, d₂, whole, isOpen, run, same⟩ := (inOrder_after s bound events).answered
  have unheard' : slot ∉ slotsOf (before ++ window) := by rwa [slotsOf_append, silent, List.append_nil]
  have heard : slot ∈ slotsOf done := by
    have slots := slots_performed run
    rw [show (idleDispatcher s).notifiedSlots = [] from rfl, List.nil_append] at slots
    obtain ⟨early, late, split, -⟩ := List.lookup_eq_some_iff.mp told
    rw [← slots, notifiedSlots, same, split]
    simp
  obtain ⟨more, rfl⟩ := performed_answered whole taken unheard' heard
  -- the dispatcher after the commands before, after the window and after the flush
  rw [Method.forEach_append] at run
  obtain ⟨_, d₁, windowed, run⟩ := Method.of_run_bind_ok run
  obtain ⟨_, d', flushed, others⟩ := Method.of_run_bind_ok run
  have through := forEach_snoc windowed flushed
  have slots₁ := slots_performed windowed
  rw [Method.forEach_append] at windowed
  obtain ⟨_, d, reached, windowed⟩ := Method.of_run_bind_ok windowed
  obtain ⟨r, one⟩ := notified_one flushed
  obtain ⟨new, rest⟩ := (Method.keeps_forEach more fun cmd _ => answers_perform cmd) d'
  have mine : r = .ok n := by
    have quiet : d₁.notified.lookup slot = none := by
      rw [List.lookup_eq_none_iff]
      intro answer told
      have mem : answer.1 ∈ d₁.notifiedSlots := List.mem_map_of_mem told
      rw [slots₁] at mem
      grind [idleDispatcher, notifiedSlots]
    rw [others] at rest
    rw [FlushWaiting.answerOf, ← same, rest, one, List.lookup_append, List.lookup_append, quiet] at told
    simpa using told
  rw [mine] at one
  obtain ⟨clean, came⟩ := flushAck_ok flushed one
  have opened : HidSession.WholeMessages s := HidSession.wholeMessages_opened fresh allOrNothing flushOk
  have closes (cmd : HidCommand) (mem : cmd ∈ before ++ window) : cmd.isClose = false :=
    isOpen cmd (List.mem_append_left _ mem)
  have wholeNow := staysWhole_performed (fun cmd hm => closes cmd (List.mem_append_left _ hm)) reached
  obtain ⟨-, even⟩ := even_performed (List.flatMap_eq_nil_iff.mp silent)
    (fun cmd hm => closes cmd (List.mem_append_right _ hm)) windowed clean
  obtain ⟨ideal, ran, after⟩ := even _ (HidSession.even_recovered (wholeNow opened))
  exact ⟨d, d', reached, through, HidSession.landed_flush ran after came⟩

set_option maxRecDepth 2000 in
open Clients Dispatcher in
/-- The write of the first flush is refused, and the waiter behind it is told so. The second one comes
back with a value. -/
theorem ok_flush_landed_retried :
    let s := HidSession.afterOpen (.refuses 3) id .all
    let before : List HidCommand := [.key 4 true .empty, .flushAck 0 0]
    let window : List HidCommand := [.key 4 false .empty, .mouseMotion 3 (-2) 0]
    ∃ d d', (Method.forEach before perform).run (idleDispatcher s) = (.ok (), d) ∧
      (Method.forEach (before ++ window ++ [.flushAck 1 1]) perform).run (idleDispatcher s) =
        (.ok (), d') ∧
      HidSession.Landed (window.flatMap HidCommand.calls) d.session d'.session :=
  @ok_flush_landed (.refuses 3) id .all rfl (Transport.refuses_allOrNothing 3)
    (Transport.refuses_flushOk 3) 2
    [.send (.key 4 true .empty), .turn, .clone, .send (.flushAck 0 0), .send (.key 4 false .empty), .turn,
      .turn, .send (.mouseMotion 3 (-2) 0), .send (.flushAck 1 1), .turn, .turn]
    [.key 4 true .empty, .flushAck 0 0] [.key 4 false .empty, .mouseMotion 3 (-2) 0] [] 1 1 36
    rfl (by decide) (by decide) (by decide +kernel)

end HidConnect

import HidConnect.Client.Teardown
import HidConnect.Library.Run
import Mathlib.Data.List.TakeWhile

/-! Clients and dispatcher over their bounded channel, one step after the other in any order, and
the flush waiters that are answered. -/
namespace HidConnect
open Fallible

/-- The dispatcher thread. `leaving` has performed a `Close` and still holds the receiver. -/
inductive Thread where
  | running | leaving | returned | panicked
  deriving DecidableEq, Repr

/-- The clones of one client, the channel and the dispatcher thread. `accepted` is what the channel
has taken so far. -/
structure Clients where
  bound : Nat
  queue : List HidCommand
  senders : Nat
  dispatcher : Dispatcher
  thread : Thread
  accepted : List HidCommand

inductive ClientEvent where
  | clone
  | drop
  | send (cmd : HidCommand)
  /-- The only way through a channel without room: the dispatcher takes the command at once. -/
  | handOver (cmd : HidCommand)
  /-- The next step of the dispatcher thread. -/
  | turn

namespace Clients

/-- `into_client_with_bound` -/
def intoClient (session : HidSession) (bound : Nat) : Clients :=
  { bound, queue := [], senders := 1, dispatcher := idleDispatcher session, thread := .running
    accepted := [] }

/-- The loop returns, or panics in `into_inner`. The receiver goes with everything queued. -/
def leave (c : Clients) (r : Outcome Empty Transport × Dispatcher) : Clients :=
  { c with queue := [], dispatcher := r.2, thread := if r.1.isOk then .returned else .panicked }

def take (c : Clients) (cmd : HidCommand) (rest : List HidCommand) : Clients :=
  match (Dispatcher.dispatchToSession cmd).run c.dispatcher with
  | (.ok stop, d) =>
    { c with queue := rest, dispatcher := d, thread := if stop then .leaving else .running }
  | (_, d) => { c with queue := [], dispatcher := d, thread := .panicked }

def turn (c : Clients) : Clients :=
  match c.thread, c.queue with
  | .running, cmd :: rest => c.take cmd rest
  | .running, [] =>
    if c.senders = 0 then c.leave ((Dispatcher.dispatcherLoop []).run c.dispatcher) else c
  | .leaving, _ => c.leave (Dispatcher.intoInner.run c.dispatcher)
  | _, _ => c

/-- A live client finds the receiver there and room in the channel. -/
def HasRoom (c : Clients) : Prop :=
  0 < c.senders ∧ (c.thread = .running ∨ c.thread = .leaving) ∧ c.queue.length < c.bound

instance (c : Clients) : Decidable c.HasRoom := inferInstanceAs (Decidable (_ ∧ _ ∧ _))

/-- A live client finds the dispatcher waiting. -/
def IsAwaited (c : Clients) : Prop := 0 < c.senders ∧ c.thread = .running ∧ c.queue = []

instance (c : Clients) : Decidable c.IsAwaited :=
  decidable_of_iff (0 < c.senders ∧ c.thread = .running ∧ c.queue.isEmpty = true)
    (by rw [List.isEmpty_iff, IsAwaited])

def accept (c : Clients) (cmd : HidCommand) : Clients :=
  { c with accepted := c.accepted ++ [cmd] }

/-- A client that is gone neither sends nor clones; a channel that is full or has lost its receiver
refuses. -/
def step (c : Clients) : ClientEvent → Clients
  | .clone => if 0 < c.senders then { c with senders := c.senders + 1 } else c
  | .drop => { c with senders := c.senders - 1 }
  | .send cmd => if c.HasRoom then { c.accept cmd with queue := c.queue ++ [cmd] } else c
  | .handOver cmd => if c.IsAwaited then (c.accept cmd).take cmd [] else c
  | .turn => c.turn

end Clients

/-- The slot that a command asks to be notified. -/
def HidCommand.slots : HidCommand → List FlushSlot
  | .flushAck _ slot => [slot]
  | _ => []

def slotsOf (cmds : List HidCommand) : List FlushSlot := cmds.flatMap HidCommand.slots

theorem slotsOf_append (xs ys : List HidCommand) : slotsOf (xs ++ ys) = slotsOf xs ++ slotsOf ys :=
  List.flatMap_append

namespace Dispatcher

def notifiedSlots (d : Dispatcher) : List FlushSlot := d.notified.map (·.1)

def Silent (d d' : Dispatcher) : Prop := d'.notified = d.notified

instance : IsPreorder Dispatcher Silent where
  refl _ := rfl
  trans _ _ _ h h' := h'.trans h

theorem silent_call {α : Type} (m : Session α) : Method.Keeps Silent (call m) := by
  intro d
  unfold call
  rcases hr : m.run d.session with ⟨r, s⟩
  cases r <;> simp [hr, Silent]

theorem silent_attempt {α : Type} (m : Session α) : Method.Keeps Silent (attempt m) := by
  refine (silent_call m).bind fun r => Method.keeps_update fun d => ?_
  split <;> rfl

theorem silent_slice {α : Type} {n : Nat} (frames : Vector α n) (len : UInt8) :
    Method.Keeps Silent (slice frames len) := by
  unfold slice
  split
  · exact Method.keeps_pure _
  · exact Method.keeps_crash

theorem silent_eachOf {α : Type} {n : Nat} (frames : Vector α n) (len : UInt8)
    (m : α → Session Unit) : Method.Keeps Silent (eachOf frames len m) :=
  (silent_slice frames len).bind fun xs => Method.keeps_forEach xs fun a _ => silent_attempt (m a)

theorem silent_allOf {α : Type} {n : Nat} (frames : Vector α n) (len : UInt8)
    (m : List α → Session Nat) : Method.Keeps Silent (allOf frames len m) :=
  (silent_slice frames len).bind fun xs => silent_attempt (m xs)

theorem silent_intoInner : Method.Keeps Silent intoInner :=
  Method.keeps_read.bind fun d => by
    cases d.session.intoInner with
    | ok transport => exact Method.keeps_pure transport
    | err e => exact Method.keeps_crash
    | panic => exact Method.keeps_crash

theorem notifiedSlots_silent {α : Type} {m : Dispatch α} (h : Method.Keeps Silent m)
    (d : Dispatcher) : (m.run d).2.notifiedSlots = d.notifiedSlots := by
  rw [notifiedSlots, notifiedSlots, h d]

theorem notified_flushAck (slot : FlushSlot) (d : Dispatcher) :
    ((flushAck slot).run d).2.notifiedSlots = d.notifiedSlots ++ [slot] := by
  have calm := neverPanics_call HidSession.neverPanics_flushNow { d with pendingError := none }
  have silent := silent_call HidSession.flushNow { d with pendingError := none }
  rw [flushAck, Method.run_read_bind, Method.run_update_bind, Method.run_bind]
  rcases hc : (call HidSession.flushNow).run { d with pendingError := none } with ⟨r, t⟩
  rw [hc] at calm silent
  have told (r : Result Nat) (t' : Dispatcher) (h : t'.notified = d.notified) :
      ((notify slot r).run t').2.notifiedSlots = d.notifiedSlots ++ [slot] := by
    simp [notify, notifiedSlots, h]
  cases r with
  | ok flushResult =>
    cases hp : d.pendingError with
    | none => exact told flushResult t silent
    | some err => cases flushResult <;> exact told (.err err) _ silent
  | err e => exact e.elim
  | panic =>
    rw [Outcome.isPanic_panic] at calm
    exact Bool.noConfusion calm

theorem silent_perform {cmd : HidCommand} (silent : cmd.slots = []) :
    Method.Keeps Silent (perform cmd) := by
  cases cmd with
  | keyBatchFixed len frames => exact silent_eachOf frames len _
  | mouseBatchFixed len frames => exact silent_eachOf frames len _
  | androidKeyBatchFixed len frames => exact silent_eachOf frames len _
  | touchBatchFixed len frames => exact silent_eachOf frames len _
  | injectScrollBatchFixed len frames => exact silent_eachOf frames len _
  | gamepadFrameRawBatchFixed len frames => exact silent_allOf frames len _
  | gamepadFrameRawBatchFixedUnchecked len frames => exact silent_allOf frames len _
  | gamepadPackedFrameBatchFixed len frames => exact silent_allOf frames len _
  | setScreenSize width height => exact Method.keeps_discard (silent_call _)
  | close => exact Method.keeps_discard (silent_call _)
  | flushAck seq slot => cases silent
  | _ => exact silent_attempt _

theorem slots_cases (cmd : HidCommand) :
    cmd.slots = [] ∨ ∃ seq slot, cmd = .flushAck seq slot := by
  cases cmd with
  | flushAck seq slot => exact .inr ⟨seq, slot, rfl⟩
  | _ => exact .inl rfl

theorem notified_perform (cmd : HidCommand) (d : Dispatcher) :
    ((perform cmd).run d).2.notifiedSlots = d.notifiedSlots ++ cmd.slots := by
  rcases slots_cases cmd with silent | ⟨seq, slot, rfl⟩
  · rw [silent, List.append_nil]
    exact notifiedSlots_silent (silent_perform silent) d
  · exact notified_flushAck slot d

end Dispatcher

/-- What the channel took from the first `Close` on. -/
def behindClose (cmds : List HidCommand) : List HidCommand := cmds.dropWhile (!·.isClose)

theorem slotsOf_split (cmds : List HidCommand) :
    slotsOf cmds = slotsOf (Dispatcher.performed cmds) ++ slotsOf (behindClose cmds) := by
  rw [← slotsOf_append, Dispatcher.performed, behindClose, List.takeWhile_append_dropWhile]

theorem behindClose_open {xs ys : List HidCommand} (h : ∀ cmd ∈ xs, cmd.isClose = false) :
    behindClose (xs ++ ys) = behindClose ys :=
  List.dropWhile_append_of_pos fun cmd hm => by simp [h cmd hm]

theorem performed_open {xs ys : List HidCommand} (h : ∀ cmd ∈ xs, cmd.isClose = false) :
    Dispatcher.performed (xs ++ ys) = xs ++ Dispatcher.performed ys :=
  List.takeWhile_append_of_pos fun cmd hm => by simp [h cmd hm]

theorem behindClose_eq_nil {cmds : List HidCommand} :
    behindClose cmds = [] ↔ ∀ cmd ∈ cmds, cmd.isClose = false := by
  simp [behindClose, List.dropWhile_eq_nil_iff]

theorem behindClose_append {xs ys : List HidCommand} (h : behindClose xs ≠ []) :
    behindClose (xs ++ ys) = behindClose xs ++ ys := by
  rw [behindClose, List.dropWhile_append, if_neg]
  · rfl
  · rw [List.isEmpty_iff]
    exact h

theorem performed_append {xs ys : List HidCommand} (h : behindClose xs ≠ []) :
    Dispatcher.performed (xs ++ ys) = Dispatcher.performed xs := by
  have whole : Dispatcher.performed (xs ++ ys) ++ behindClose (xs ++ ys) =
      Dispatcher.performed xs ++ behindClose xs ++ ys := by
    simp only [Dispatcher.performed, behindClose, List.takeWhile_append_dropWhile]
  rw [behindClose_append h, List.append_assoc] at whole
  exact List.append_cancel_right whole

theorem slotsOf_behindClose_single (cmd : HidCommand) : slotsOf (behindClose [cmd]) = [] := by
  cases cmd <;> rfl

namespace Clients

/-- What has been notified, and how far the loop is with what the channel took. -/
def Accounted (c : Clients) : Prop :=
  match c.thread with
  | .running => ∃ done, c.accepted = done ++ c.queue ∧ (∀ cmd ∈ done, cmd.isClose = false) ∧
      c.dispatcher.notifiedSlots = slotsOf done
  | .leaving => behindClose c.accepted ≠ [] ∧
      c.dispatcher.notifiedSlots = slotsOf (Dispatcher.performed c.accepted)
  | .returned => c.dispatcher.notifiedSlots = slotsOf (Dispatcher.performed c.accepted)
  | .panicked => True

theorem accounted_take {c : Clients} {cmd : HidCommand} {done rest : List HidCommand}
    (whole : c.accepted = done ++ cmd :: rest) (isOpen : ∀ cmd ∈ done, cmd.isClose = false)
    (told : c.dispatcher.notifiedSlots = slotsOf done) : (c.take cmd rest).Accounted := by
  have here := Dispatcher.notified_perform cmd c.dispatcher
  rw [told] at here
  unfold take
  rw [Dispatcher.dispatch_eq, Method.run_bind_pure]
  rcases hp : (Dispatcher.perform cmd).run c.dispatcher with ⟨r, d⟩
  rw [hp] at here
  cases r with
  | ok a =>
    cases hc : cmd.isClose with
    | true =>
      have noSlot : cmd.slots = [] := by cases cmd <;> first | rfl | contradiction
      rw [noSlot, List.append_nil] at here
      change behindClose c.accepted ≠ [] ∧
        d.notifiedSlots = slotsOf (Dispatcher.performed c.accepted)
      rw [whole, behindClose_open isOpen, performed_open isOpen]
      refine ⟨?_, ?_⟩
      · simp [behindClose, hc]
      · simpa [Dispatcher.performed, hc] using here
    | false =>
      change ∃ done, c.accepted = done ++ rest ∧ (∀ cmd ∈ done, cmd.isClose = false) ∧
        d.notifiedSlots = slotsOf done
      refine ⟨done ++ [cmd], by simp [whole], ?_, ?_⟩
      · simpa [or_imp, forall_and, hc] using isOpen
      · simpa [slotsOf] using here
  | err e => exact e.elim
  | panic => trivial

theorem accounted_leave {c : Clients} (r : Outcome Empty Transport × Dispatcher)
    (told : r.2.notifiedSlots = slotsOf (Dispatcher.performed c.accepted)) :
    (c.leave r).Accounted := by
  rcases r with ⟨r, d⟩
  cases r with
  | ok t => exact told
  | err e => exact e.elim
  | panic => trivial

theorem accounted_turn {c : Clients} (h : c.Accounted) : c.turn.Accounted := by
  rw [turn]
  cases ht : c.thread with
  | running =>
    rw [Accounted, ht] at h
    obtain ⟨done, whole, isOpen, told⟩ := h
    cases hq : c.queue with
    | cons cmd rest =>
      rw [hq] at whole
      exact accounted_take whole isOpen told
    | nil =>
      rw [hq, List.append_nil] at whole
      dsimp only
      split
      · refine accounted_leave _ ?_
        have silent : Method.Keeps Dispatcher.Silent (Dispatcher.dispatcherLoop []) :=
          (Dispatcher.silent_call _).bind fun _ => Dispatcher.silent_intoInner
        have all : Dispatcher.performed (done ++ []) = done ++ Dispatcher.performed [] :=
          performed_open isOpen
        rw [List.append_nil] at all
        rw [whole, all, Dispatcher.notifiedSlots_silent silent, told]
        simp [Dispatcher.performed]
      · rw [Accounted, ht]
        exact ⟨done, by rw [whole, hq, List.append_nil], isOpen, told⟩
  | leaving =>
    rw [Accounted, ht] at h
    refine accounted_leave _ ?_
    rw [Dispatcher.notifiedSlots_silent Dispatcher.silent_intoInner]
    exact h.2
  | returned => exact h
  | panicked => exact h

theorem accounted_send {c : Clients} (cmd : HidCommand) (h : c.Accounted) (room : c.HasRoom) :
    ({ c.accept cmd with queue := c.queue ++ [cmd] } : Clients).Accounted := by
  cases ht : c.thread with
  | running =>
    rw [Accounted, ht] at h
    obtain ⟨done, whole, isOpen, told⟩ := h
    simp only [Accounted, ht, accept]
    exact ⟨done, by rw [whole, List.append_assoc], isOpen, told⟩
  | leaving =>
    rw [Accounted, ht] at h
    obtain ⟨closed, told⟩ := h
    simp only [Accounted, ht, accept]
    refine ⟨?_, ?_⟩
    · rw [behindClose_append closed]
      exact List.append_ne_nil_of_left_ne_nil closed _
    · rw [performed_append closed, told]
  | returned =>
    have held := room.2.1
    rw [ht] at held
    rcases held with held | held <;> contradiction
  | panicked => simp only [Accounted, ht, accept]

theorem accounted_step (c : Clients) (e : ClientEvent) (h : c.Accounted) :
    (c.step e).Accounted := by
  cases e with
  | clone =>
    rw [step]
    split
    · exact h
    · exact h
  | drop => exact h
  | send cmd =>
    rw [step]
    split
    · exact accounted_send cmd h ‹_›
    · exact h
  | handOver cmd =>
    rw [step]
    split
    · rename_i awaited
      rw [Accounted, awaited.2.1] at h
      obtain ⟨done, whole, isOpen, told⟩ := h
      rw [awaited.2.2, List.append_nil] at whole
      refine accounted_take ?_ isOpen told
      rw [accept, whole]
    · exact h
  | turn => exact accounted_turn h

theorem accepted_take (c : Clients) (cmd : HidCommand) (rest : List HidCommand) :
    (c.take cmd rest).accepted = c.accepted := by
  unfold take
  split <;> rfl

theorem accepted_turn (c : Clients) : c.turn.accepted = c.accepted := by
  unfold turn
  split
  · exact accepted_take c _ _
  · split <;> rfl
  · rfl
  · rfl

/-- The channel takes a flush only while it has taken no `Close`. -/
def Timely (c : Clients) : ClientEvent → Prop
  | .send (.flushAck _ _) => c.HasRoom → ∀ cmd ∈ c.accepted, cmd.isClose = false
  | _ => True

/-- No flush has been taken behind the first `Close`. -/
def NoneBehind (c : Clients) : Prop := slotsOf (behindClose c.accepted) = []

theorem noneBehind_open {c : Clients} (isOpen : ∀ cmd ∈ c.accepted, cmd.isClose = false)
    (cmd : HidCommand) : (c.accept cmd).NoneBehind := by
  rw [NoneBehind, accept, behindClose_open isOpen]
  exact slotsOf_behindClose_single cmd

theorem noneBehind_step (c : Clients) (e : ClientEvent) (h : c.Accounted) :
    c.NoneBehind ∧ c.Timely e ↔ (c.step e).NoneBehind := by
  have same {d : Clients} (eq : d.accepted = c.accepted) : d.NoneBehind ↔ c.NoneBehind := by
    rw [NoneBehind, NoneBehind, eq]
  cases e with
  | clone =>
    rw [step]
    split <;> exact and_iff_left trivial
  | drop => exact and_iff_left trivial
  | turn =>
    rw [step, same (accepted_turn c)]
    exact and_iff_left trivial
  | handOver cmd =>
    rw [step]
    split
    · rename_i awaited
      rw [Accounted, awaited.2.1, awaited.2.2] at h
      obtain ⟨done, whole, isOpen, -⟩ := h
      rw [List.append_nil] at whole
      rw [← whole] at isOpen
      have before : c.NoneBehind := by rw [NoneBehind, behindClose_eq_nil.mpr isOpen]; rfl
      have later : ((c.accept cmd).take cmd []).NoneBehind := by
        rw [NoneBehind, accepted_take]
        exact noneBehind_open isOpen cmd
      exact iff_of_true ⟨before, trivial⟩ later
    · exact and_iff_left trivial
  | send cmd =>
    rw [step]
    split
    · rename_i room
      by_cases isOpen : ∀ cmd ∈ c.accepted, cmd.isClose = false
      · have before : c.NoneBehind := by rw [NoneBehind, behindClose_eq_nil.mpr isOpen]; rfl
        have timely : c.Timely (.send cmd) := by
          cases cmd <;> first | exact fun _ => isOpen | trivial
        exact iff_of_true ⟨before, timely⟩ (noneBehind_open isOpen cmd)
      · have closed := mt behindClose_eq_nil.mp isOpen
        have timely : c.Timely (.send cmd) ↔ cmd.slots = [] := by
          cases cmd with
          | flushAck seq slot => exact iff_of_false (fun h => isOpen (h room)) nofun
          | _ => exact iff_of_true trivial rfl
        rw [timely]
        simp only [NoneBehind, accept, behindClose_append closed, slotsOf_append,
          List.append_eq_nil_iff]
        simp [slotsOf]
    · rename_i full
      have timely : c.Timely (.send cmd) := by
        cases cmd <;> first | exact fun room => absurd room full | trivial
      exact and_iff_left timely

/-- When the dispatcher loop has returned, each slot has been notified as often as the channel took
it, exactly if the channel took every flush before any `Close`. -/
theorem no_waiter_stranded (bound : Nat) (session : HidSession) (events : List ClientEvent)
    (returned : (Run.after step (intoClient session bound) events).thread = .returned) :
    (∀ slot, (Run.after step (intoClient session bound) events).dispatcher.notifiedSlots.count slot =
        (slotsOf (Run.after step (intoClient session bound) events).accepted).count slot) ↔
      Run.Along step Timely (intoClient session bound) events := by
  have start : (intoClient session bound).Accounted := ⟨[], rfl, nofun, rfl⟩
  have told := Run.preserved Accounted accounted_step start events
  have along : _ ∧ Run.Along step Timely (intoClient session bound) events ↔ _ :=
    Run.along_iff Accounted NoneBehind accounted_step noneBehind_step start events
  rw [Accounted, returned] at told
  have before : (intoClient session bound).NoneBehind := rfl
  rw [← and_iff_right (b := Run.Along step Timely _ _) before, along, told, NoneBehind]
  constructor
  · intro h
    rw [List.eq_nil_iff_forall_not_mem]
    intro slot hm
    have equal := h slot
    rw [slotsOf_split (Run.after step (intoClient session bound) events).accepted,
      List.count_append] at equal
    have := List.count_pos_iff.mpr hm
    omega
  · intro h slot
    rw [slotsOf_split (Run.after step (intoClient session bound) events).accepted, h,
      List.append_nil]

theorem no_waiter_stranded_flush :
    (Run.after step (intoClient (openedKeyboard .steady) 4)
      [.send (.flushAck 1 7), .send .close, .turn, .turn, .turn]).dispatcher.notifiedSlots.count 7 =
    (slotsOf (Run.after step (intoClient (openedKeyboard .steady) 4)
      [.send (.flushAck 1 7), .send .close, .turn, .turn, .turn]).accepted).count 7 :=
  (no_waiter_stranded 4 (openedKeyboard .steady)
    [.send (.flushAck 1 7), .send .close, .turn, .turn, .turn] (by decide +kernel)).mpr
    ⟨fun _ => nofun, trivial, trivial, trivial, trivial, trivial⟩ 7

/-- One clone closes, another is still let in with its flush: the loop returns and nobody answers. -/
theorem late_flush_stranded :
    (Run.after step (intoClient (openedKeyboard .steady) 4)
      [.clone, .send .close, .send (.flushAck 1 7), .turn, .turn]).thread = .returned ∧
    slotsOf (Run.after step (intoClient (openedKeyboard .steady) 4)
      [.clone, .send .close, .send (.flushAck 1 7), .turn, .turn]).accepted = [7] ∧
    (Run.after step (intoClient (openedKeyboard .steady) 4)
      [.clone, .send .close, .send (.flushAck 1 7), .turn, .turn]).dispatcher.notifiedSlots = [] := by
  decide +kernel

end Clients
end HidConnect

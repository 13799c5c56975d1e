import HidConnect.Client.FlushAck

/-! Clients and dispatcher in any order of steps, beside the dispatcher alone with the accepted commands
one after the other. -/
namespace HidConnect
open Fallible

/-- The command that a client tries to send. -/
def ClientEvent.command : ClientEvent → Option HidCommand
  | .send cmd | .handOver cmd => some cmd
  | _ => none

namespace Dispatcher

theorem loop_behind {done : List HidCommand} (isOpen : ∀ cmd ∈ done, cmd.isClose = false)
    (rest : List HidCommand) {d d' : Dispatcher}
    (run : (Method.forEach done perform).run d = (.ok (), d')) :
    (dispatcherLoop (done ++ rest)).run d = (dispatcherLoop rest).run d' := by
  induction done generalizing d with
  | nil =>
    obtain rfl : d = d' := congrArg Prod.snd run
    rfl
  | cons cmd others ih =>
    obtain ⟨_, d₁, first, later⟩ := Method.of_run_bind_ok run
    have stays : cmd.isClose = false := isOpen cmd (List.mem_cons_self ..)
    have step := dispatch_run first
    rw [stays] at step
    rw [List.cons_append, dispatcherLoop, Method.run_bind_ok step]
    exact ih (fun cmd hm => isOpen cmd (List.mem_cons_of_mem _ hm)) later

theorem forEach_snoc {done : List HidCommand} {cmd : HidCommand} {d d₁ d₂ : Dispatcher}
    (run : (Method.forEach done perform).run d = (.ok (), d₁))
    (last : (perform cmd).run d₁ = (.ok (), d₂)) :
    (Method.forEach (done ++ [cmd]) perform).run d = (.ok (), d₂) := by
  rw [Method.forEach_append, Method.run_bind_ok run, Method.forEach_cons, Method.forEach_nil,
    Method.bind_pure_unit, last]

end Dispatcher

namespace Clients
open Dispatcher

/-- The queue is what is left of the accepted commands, and the dispatcher stands where those before
leave it when they are performed one after the other. A thread that has ended has run the loop over
all that was accepted. -/
def InOrder (session : HidSession) (c : Clients) : Prop :=
  match c.thread with
  | .running => ∃ done, c.accepted = done ++ c.queue ∧ (∀ cmd ∈ done, cmd.isClose = false) ∧
      (Method.forEach done perform).run (idleDispatcher session) = (.ok (), c.dispatcher)
  | .leaving => ∃ done later, c.accepted = done ++ .close :: later ∧
      (∀ cmd ∈ done, cmd.isClose = false) ∧
      (Method.forEach (done ++ [.close]) perform).run (idleDispatcher session) =
        (.ok (), c.dispatcher)
  | .returned => ∃ transport, (dispatcherLoop c.accepted).run (idleDispatcher session) =
      (.ok transport, c.dispatcher)
  | .panicked => (dispatcherLoop c.accepted).run (idleDispatcher session) = (.panic, c.dispatcher)

variable {session : HidSession} {c : Clients}

theorem inOrder_take {cmd : HidCommand} {done rest : List HidCommand}
    (whole : c.accepted = done ++ cmd :: rest) (isOpen : ∀ cmd ∈ done, cmd.isClose = false)
    (run : (Method.forEach done perform).run (idleDispatcher session) = (.ok (), c.dispatcher)) :
    (c.take cmd rest).InOrder session := by
  have loop := loop_behind isOpen (cmd :: rest) run
  rw [← whole, dispatcherLoop] at loop
  unfold take
  rcases performed : (perform cmd).run c.dispatcher with ⟨r, d⟩
  have step := dispatch_run performed
  rw [step]
  cases r with
  | err e => exact e.elim
  | panic =>
    rw [Method.run_bind_panic step] at loop
    exact loop
  | ok _ =>
    have next := forEach_snoc run performed
    cases close : cmd.isClose with
    | true =>
      obtain rfl : cmd = .close := by cases cmd <;> first | rfl | contradiction
      exact ⟨done, rest, whole, isOpen, next⟩
    | false =>
      refine ⟨done ++ [cmd], whole.trans (List.append_cons ..), ?_, next⟩
      simpa [or_imp, forall_and, close] using isOpen

theorem inOrder_leave {r : Outcome Empty Transport × Dispatcher}
    (run : (dispatcherLoop c.accepted).run (idleDispatcher session) = r) :
    (c.leave r).InOrder session := by
  obtain ⟨r, d⟩ := r
  cases r with
  | ok transport => exact ⟨transport, run⟩
  | err e => exact e.elim
  | panic => exact run

theorem loop_leaving {done later : List HidCommand} (isOpen : ∀ cmd ∈ done, cmd.isClose = false)
    {d d' : Dispatcher} (run : (Method.forEach (done ++ [.close]) perform).run d = (.ok (), d')) :
    (dispatcherLoop (done ++ .close :: later)).run d = intoInner.run d' := by
  rw [Method.forEach_append] at run
  obtain ⟨_, d₁, first, last⟩ := Method.of_run_bind_ok run
  rw [Method.forEach_cons, Method.forEach_nil, Method.bind_pure_unit] at last
  rw [loop_behind isOpen _ first, dispatcherLoop, Method.run_bind_ok (dispatch_run last)]
  rfl

theorem inOrder_turn (h : c.InOrder session) : c.turn.InOrder session := by
  rw [turn]
  cases thread : c.thread with
  | running =>
    rw [InOrder, thread] at h
    obtain ⟨done, whole, isOpen, run⟩ := h
    cases queue : c.queue with
    | cons cmd rest =>
      rw [queue] at whole
      exact inOrder_take whole isOpen run
    | nil =>
      rw [queue, List.append_nil] at whole
      dsimp only
      split
      · refine inOrder_leave ?_
        have loop := loop_behind isOpen [] run
        rwa [List.append_nil, ← whole] at loop
      · rw [InOrder, thread]
        exact ⟨done, by rw [whole, queue, List.append_nil], isOpen, run⟩
  | leaving =>
    rw [InOrder, thread] at h
    obtain ⟨done, later, whole, isOpen, run⟩ := h
    exact inOrder_leave (whole ▸ loop_leaving isOpen run)
  | returned => exact h
  | panicked => exact h

theorem inOrder_send (cmd : HidCommand) (h : c.InOrder session) (room : c.HasRoom) :
    ({ c.accept cmd with queue := c.queue ++ [cmd] } : Clients).InOrder session := by
  cases thread : c.thread with
  | running =>
    rw [InOrder, thread] at h
    obtain ⟨done, whole, isOpen, run⟩ := h
    simp only [InOrder, thread, accept]
    exact ⟨done, by rw [whole, List.append_assoc], isOpen, run⟩
  | leaving =>
    rw [InOrder, thread] at h
    obtain ⟨done, later, whole, isOpen, run⟩ := h
    simp only [InOrder, thread, accept]
    exact ⟨done, later ++ [cmd], by simp [whole], isOpen, run⟩
  | returned => simp [HasRoom, thread] at room
  | panicked => simp [HasRoom, thread] at room

theorem inOrder_step (c : Clients) (e : ClientEvent) (h : c.InOrder session) :
    (c.step e).InOrder session := by
  cases e with
  | clone =>
    rw [step]
    split
    · exact h
    · exact h
  | drop => exact h
  | send cmd =>
    rw [step]
    split
    · exact inOrder_send cmd h ‹_›
    · exact h
  | handOver cmd =>
    rw [step]
    split
    · rename_i awaited
      rw [InOrder, awaited.2.1] at h
      obtain ⟨done, whole, isOpen, run⟩ := h
      rw [awaited.2.2, List.append_nil] at whole
      exact inOrder_take (by rw [accept, whole]) isOpen run
    · exact h
  | turn => exact inOrder_turn h

theorem inOrder_after (session : HidSession) (bound : Nat) (events : List ClientEvent) :
    (Run.after step (intoClient session bound) events).InOrder session := by
  have start : (intoClient session bound).InOrder session := ⟨[], rfl, nofun, rfl⟩
  exact Run.preserved (InOrder session) inOrder_step start events

theorem accepted_step (c : Clients) (e : ClientEvent) :
    ∃ more, (c.step e).accepted = c.accepted ++ more ∧ more.Sublist e.command.toList := by
  have same {d : Clients} (eq : d.accepted = c.accepted) :
      ∃ more, d.accepted = c.accepted ++ more ∧ more.Sublist e.command.toList :=
    ⟨[], by rw [eq, List.append_nil], List.nil_sublist _⟩
  cases e with
  | clone =>
    rw [step]
    split
    · exact same rfl
    · exact same rfl
  | drop => exact same rfl
  | turn => exact same (accepted_turn c)
  | send cmd =>
    rw [step]
    split
    · exact ⟨[cmd], rfl, List.Sublist.refl _⟩
    · exact same rfl
  | handOver cmd =>
    rw [step]
    split
    · exact ⟨[cmd], accepted_take _ cmd [], List.Sublist.refl _⟩
    · exact same rfl

theorem accepted_sublist (c : Clients) (events : List ClientEvent) :
    ∃ more, (Run.after step c events).accepted = c.accepted ++ more ∧
      more.Sublist (events.filterMap ClientEvent.command) := by
  induction events generalizing c with
  | nil => exact ⟨[], (List.append_nil _).symm, List.nil_sublist _⟩
  | cons e rest ih =>
    obtain ⟨first, here, part⟩ := accepted_step c e
    obtain ⟨more, later, parts⟩ := ih (c.step e)
    refine ⟨first ++ more, by rw [Run.after, later, here, List.append_assoc], ?_⟩
    have all : (e :: rest).filterMap ClientEvent.command =
        e.command.toList ++ rest.filterMap ClientEvent.command := by
      cases h : e.command <;> simp [h]
    rw [all]
    exact part.append parts

/-- Whatever the order of the steps of the clones and of the dispatcher thread: what the channel took
is in the order in which it was sent, the dispatcher performs it in that order and nothing else, and
a thread that ends has run the loop over it. -/
theorem dispatcher_linearizes (session : HidSession) (bound : Nat) (events : List ClientEvent) :
    let c := Run.after step (intoClient session bound) events
    c.accepted.Sublist (events.filterMap ClientEvent.command) ∧ c.InOrder session := by
  intro c
  obtain ⟨more, accepted, part⟩ := accepted_sublist (intoClient session bound) events
  exact ⟨accepted ▸ part, inOrder_after session bound events⟩

end Clients

end HidConnect

import HidConnect.Client.Channel
import HidConnect.Library.Handoff

/-! A flush that is waited for: the clients and the dispatcher, and the thread that waits for its slot,
in any order of their steps. -/
namespace HidConnect
open Fallible Handoff

namespace Dispatcher

/-- A call that only adds to the answers. -/
def Answers (d d' : Dispatcher) : Prop := ∃ new, d'.notified = d.notified ++ new

instance : IsPreorder Dispatcher Answers where
  refl d := ⟨[], (List.append_nil _).symm⟩
  trans := by
    rintro a b c ⟨new, h⟩ ⟨new', h'⟩
    exact ⟨new ++ new', by rw [h', h, List.append_assoc]⟩

theorem answers_of_silent {α : Type} {m : Dispatch α} (silent : Method.Keeps Silent m) :
    Method.Keeps Answers m := fun d => ⟨[], by rw [silent d, List.append_nil]⟩

theorem answers_perform (cmd : HidCommand) : Method.Keeps Answers (perform cmd) := by
  rcases slots_cases cmd with silent | ⟨seq, slot, rfl⟩
  · exact answers_of_silent (silent_perform silent)
  · have told (slot : FlushSlot) (r : Result Nat) : Method.Keeps Answers (notify slot r) :=
      Method.keeps_update fun d => ⟨[(slot, r)], rfl⟩
    have same (d : Dispatcher) : d.notified = d.notified ++ [] := (List.append_nil _).symm
    refine Method.keeps_read.bind fun d => ?_
    refine (Method.keeps_update fun d => ⟨[], same d⟩).bind fun _ =>
      (answers_of_silent (silent_call _)).bind fun r => ?_
    split
    · dsimp only
      split
      · exact (Method.keeps_update fun d => ⟨[], same d⟩).bind fun _ => told slot _
      · exact told slot _
    · exact told slot _

theorem answers_dispatchToSession (cmd : HidCommand) : Method.Keeps Answers (dispatchToSession cmd) := by
  rw [dispatch_eq]
  exact (answers_perform cmd).bind fun _ => Method.keeps_pure _

theorem answers_dispatcherLoop_nil : Method.Keeps Answers (dispatcherLoop []) :=
  answers_of_silent ((silent_call _).bind fun _ => silent_intoInner)

end Dispatcher

namespace Clients
open Dispatcher (Answers)

theorem answers_take (c : Clients) (cmd : HidCommand) (rest : List HidCommand) :
    Answers c.dispatcher (c.take cmd rest).dispatcher := by
  have grown := Dispatcher.answers_dispatchToSession cmd c.dispatcher
  rw [take]
  rcases run : (Dispatcher.dispatchToSession cmd).run c.dispatcher with ⟨r, d⟩
  rw [run] at grown
  cases r with
  | ok stop => exact grown
  | err e => exact grown
  | panic => exact grown

theorem answers_step (c : Clients) (e : ClientEvent) : Answers c.dispatcher (c.step e).dispatcher := by
  have same : Answers c.dispatcher c.dispatcher := refl_of Answers _
  cases e with
  | clone =>
    rw [step]
    split
    · exact same
    · exact same
  | drop => exact same
  | send cmd =>
    rw [step]
    split
    · exact same
    · exact same
  | handOver cmd =>
    rw [step]
    split
    · exact answers_take (c.accept cmd) cmd []
    · exact same
  | turn =>
    rw [step, turn]
    split
    · exact answers_take c _ _
    · split
      · exact Dispatcher.answers_dispatcherLoop_nil c.dispatcher
      · exact same
    · exact Dispatcher.answers_of_silent Dispatcher.silent_intoInner c.dispatcher
    · exact same

end Clients

/-- `flush_wait` on a slot of its own, over the clients and the dispatcher. `cell` is the slot: the
waiting thread takes from it, and `notify` gives to it. -/
structure FlushWaiting where
  clients : Clients
  cell : Handoff.State (Result Nat)

inductive FlushEvent where
  | client (e : ClientEvent)
  | thread (turn : Handoff.Turn)

namespace FlushWaiting

def answerOf (slot : FlushSlot) (c : Clients) : Option (Result Nat) := c.dispatcher.notified.lookup slot

/-- An answer of the dispatcher starts `notify`, which may be overtaken by everything else. -/
def step (slot : FlushSlot) (s : FlushWaiting) : FlushEvent → FlushWaiting
  | .client e =>
    { clients := s.clients.step e
      cell := match answerOf slot (s.clients.step e) with
        | some result => s.cell.ask result
        | none => s.cell }
  | .thread turn => { s with cell := s.cell.step turn }

def start (session : HidSession) (bound : Nat) : FlushWaiting :=
  { clients := .intoClient session bound, cell := .new }

structure Answered (slot : FlushSlot) (s : FlushWaiting) : Prop where
  sound : Handoff.Sound s.cell
  asked : s.cell.asked = answerOf slot s.clients

theorem answerOf_step {slot : FlushSlot} {c : Clients} {r : Result Nat} (e : ClientEvent)
    (found : answerOf slot c = some r) : answerOf slot (c.step e) = some r := by
  obtain ⟨new, grown⟩ := c.answers_step e
  rw [answerOf, grown, List.lookup_append]
  exact congrArg (Option.or · (new.lookup slot)) found

theorem answered_step (slot : FlushSlot) (s : FlushWaiting) (e : FlushEvent) (h : Answered slot s) :
    Answered slot (step slot s e) := by
  cases e with
  | thread turn => exact ⟨sound_step h.sound turn, (asked_step s.cell turn).trans h.asked⟩
  | client e =>
    cases later : answerOf slot (s.clients.step e) with
    | none =>
      have before : answerOf slot s.clients = none := by
        cases now : answerOf slot s.clients with
        | none => rfl
        | some r => rw [answerOf_step e now] at later; contradiction
      have state : step slot s (.client e) = { clients := s.clients.step e, cell := s.cell } := by
        rw [step, later]
      rw [state]
      exact ⟨h.sound, by rw [h.asked, before, later]⟩
    | some r =>
      have state : step slot s (.client e) =
          { clients := s.clients.step e, cell := s.cell.ask r } := by rw [step, later]
      rw [state]
      refine ⟨sound_ask h.sound r, ?_⟩
      rw [h.sound.asked_ask, h.asked, later]
      cases now : answerOf slot s.clients with
      | none => rfl
      | some r' =>
        rw [answerOf_step e now] at later
        exact later

/-- Whatever the order of the steps: the waiting thread returns the dispatcher's answer and nothing
else, an answer sets `notify` going, neither thread can be stuck while it is under way, and once it
is done three turns of the waiting thread are enough. -/
theorem flush_wait_returns_answer (slot : FlushSlot) (session : HidSession) (bound : Nat)
    (events : List FlushEvent) :
    let s := Run.after (step slot) (start session bound) events
    s.cell.taker ≠ .crashed ∧
      (∀ r, s.cell.taker = .returned r → answerOf slot s.clients = some r) ∧
      (s.cell.giver = .idle ↔ slot ∉ s.clients.dispatcher.notifiedSlots) ∧
      (s.cell.giver ≠ .idle → (s.cell.giver = .done ∧ ∃ r, s.cell.taker = .returned r) ∨
        s.cell.take ≠ s.cell ∨ s.cell.give ≠ s.cell) ∧
      ∀ turns : List Handoff.Turn, s.cell.giver = .done → 3 ≤ turns.count .take →
        ∃ r, answerOf slot s.clients = some r ∧
          (Run.after Handoff.State.step s.cell turns).taker = .returned r := by
  intro s
  have h : Answered slot s :=
    Run.preserved (Answered slot) (answered_step slot) ⟨sound_new, rfl⟩ events
  obtain ⟨calm, taken⟩ := h.sound.taken
  refine ⟨calm, ?_, ?_, h.sound.moves, ?_⟩
  · intro r returned
    rw [← h.asked]
    exact taken r returned
  · rw [h.sound.idle_iff, h.asked, answerOf, List.lookup_eq_none_iff, Dispatcher.notifiedSlots]
    grind
  · intro turns done enough
    rw [← h.asked]
    have most : s.cell.taker.left ≤ 3 := by cases s.cell.taker <;> simp [Taker.left]
    exact returned_of_done h.sound done (Nat.le_trans most enough)

end FlushWaiting
end HidConnect

import HidConnect.Kernel.Delivery
import HidConnect.Kernel.Execution

/-! What an `Observe` request is answered with, and what it leaves behind. -/
namespace HidConnect.Kernel
open Fallible

/-- Events of the kinds that are asked for; no kind means all of them. -/
def wantedEvents (filter : List EventKind) (events : List DeviceEvent) : List DeviceEvent :=
  if filter = [] then events
  else events.filter fun ev => filter.any fun kind => EventKind.fromEvent ev == some kind

def narrowed (filter : List EventKind) (obs : Observation) : Observation :=
  { obs with events := wantedEvents filter obs.events }

structure ObserveReplies (history : List Observation) (sinceSeq : Nat) (filter : List EventKind)
    (sent : List Reply) (observations : List Observation) : Prop where
  frames : ∃ last, observations.getLast? = some last ∧
    sent = observations.map Reply.observation ++ [.endOfStream last.seq]
  increasing : Increasing observations
  newer : ∀ obs ∈ observations, sinceSeq < obs.seq
  complete : ∀ obs ∈ history, sinceSeq < obs.seq → narrowed filter obs ∈ observations
  restricted : ∀ obs ∈ observations, wantedEvents filter obs.events = obs.events

/-- What an `Observe` request is promised: the observations after `sinceSeq`, and no subscriber that
was not there before. -/
structure ObserveContract {η : Type} (phone : Phone η) (s : Daemon η) (sinceSeq : Nat)
    (filter : List EventKind) : Prop where
  streamed : ((Daemon.handleConnection phone (.observe sinceSeq filter)).run s).1 = .ok () →
    ∃ sent observations, ObserveReplies s.stream.history sinceSeq filter sent observations ∧
      (s.handle phone (.observe sinceSeq filter)).trace =
        s.trace ++ sent.map fun reply => .sent { reply, isCheckpoint := false }
  subscribers : ∀ id, id ∈ (s.handle phone (.observe sinceSeq filter)).stream.subscribers ↔
    id ∈ s.stream.subscribers

namespace StreamEngine

/-- The ids of the subscribers have all been handed out. -/
def Issued (e : StreamEngine) : Prop := ∀ id ∈ e.subscribers, id < e.nextSubscriberId

theorem mem_mapSubscribers (f : Subscriber → Subscriber) (subs : AList fun _ : Nat => Subscriber)
    (id : Nat) : id ∈ mapSubscribers f subs ↔ id ∈ subs := by
  rw [← AList.lookup_isSome, ← AList.lookup_isSome, lookup_mapSubscribers, Option.isSome_map]

theorem Issued.step {e : StreamEngine} (h : e.Issued) (op : StreamOp) : (e.step op).Issued := by
  cases op with
  | produce obsFactory =>
    intro id member
    exact h id ((mem_mapSubscribers _ _ id).mp member)
  | subscribe sinceSeq filter =>
    intro id member
    rcases (AList.mem_insert _).mp member with rfl | before
    · exact Nat.lt_succ_self _
    · exact Nat.lt_succ_of_lt (h id before)
  | poll handle =>
    obtain ⟨-, -, next, lookup⟩ := e.poll_eq handle
    intro id member
    rw [StreamEngine.step] at member ⊢
    rw [next]
    refine h id (AList.lookup_isSome.mp ?_)
    rw [← AList.lookup_isSome, lookup] at member
    split at member
    · rwa [Option.isSome_map] at member
    · exact member
  | unsubscribe handle =>
    intro id member
    exact h id (AList.mem_erase.mp member).2

theorem issued_after (ops : List StreamOp) : (Run.after StreamEngine.step .new ops).Issued :=
  Run.preserved Issued (fun _ op h => h.step op) (fun id member => absurd member (AList.notMem_empty id))
    ops

end StreamEngine

namespace Daemon
variable {η : Type} (phone : Phone η)

def Subscribed (s s' : Daemon η) : Prop := ∀ id ∈ s.stream.subscribers, id ∈ s'.stream.subscribers

instance : IsPreorder (Daemon η) Subscribed where
  refl _ _ member := member
  trans _ _ _ first second id member := second id (first id member)

theorem subscribed_ask {α : Type} (f : η → α × η) : Method.Keeps Subscribed (ask f) :=
  fun _ _ member => member

theorem subscribed_buildObservation : Method.Keeps Subscribed (buildObservation phone) := by
  intro s id member
  obtain ⟨obs, e, ran⟩ := run_buildObservation phone s
  rw [ran]
  exact (StreamEngine.mem_mapSubscribers _ _ id).mpr member

theorem subscribed_writeReply (reply : Reply) (isCheckpoint : Bool) :
    Method.Keeps Subscribed (writeReply phone reply isCheckpoint) := by
  intro s id member
  obtain ⟨r, e, sent, ran, -⟩ := run_writeReply phone reply isCheckpoint s
  rwa [ran]

theorem mem_handle_observe (s : Daemon η) (sinceSeq : Nat) (filter : List EventKind) :
    s.stream.nextSubscriberId ∈ (s.handle phone (.observe sinceSeq filter)).stream.subscribers := by
  have rest : Method.Keeps Subscribed (do
      let obs1 ← buildObservation phone
      writeReply phone (.observation obs1) false
      ask fun e => ((), phone.sleep 150 e)
      let obs2 ← buildObservation phone
      writeReply phone (.observation obs2) false
      writeReply phone (.endOfStream obs2.seq) false) :=
    (subscribed_buildObservation phone).bind fun _ => (subscribed_writeReply phone _ _).bind fun _ =>
      (subscribed_ask _).bind fun _ => (subscribed_buildObservation phone).bind fun _ =>
        (subscribed_writeReply phone _ _).bind fun _ => subscribed_writeReply phone _ _
  exact rest { s with stream := (s.stream.subscribe sinceSeq none).2 } _
    ((AList.mem_insert _).mpr (.inl rfl))

end Daemon

theorem observe_leaves_subscriber :
    ¬ObserveContract silentPhone (.new 0 { memory := .new, sqlite := none }) 0 [] := by
  intro contract
  have left := Daemon.mem_handle_observe silentPhone (.new 0 { memory := .new, sqlite := none }) 0 []
  exact AList.notMem_empty _ ((contract.subscribers _).mp left)

/-- No request keeps the promise: each leaves a subscriber behind. -/
theorem observe_never_keeps_contract {η : Type} (phone : Phone η) (s : Daemon η) (ops : List StreamOp)
    (sinceSeq : Nat) (filter : List EventKind) :
    ¬ObserveContract phone { s with stream := Run.after StreamEngine.step .new ops } sinceSeq filter := by
  intro contract
  have left := Daemon.mem_handle_observe phone { s with stream := Run.after StreamEngine.step .new ops }
    sinceSeq filter
  have before := (contract.subscribers _).mp left
  exact Nat.lt_irrefl _ (StreamEngine.issued_after ops _ before)

end HidConnect.Kernel

import Mathlib.Data.List.AList
import HidConnect.Kernel.Observation
import HidConnect.Library.DropOldest
import HidConnect.Library.Run

/-! The stream of observations: a bounded history, and a queue for each subscriber. -/
namespace HidConnect.Kernel

def subscriberQueueCap : Nat := 256

def historyCap : Nat := 512

/-- The numbers are `u64`s in the source and have no bound here: the two agree up to 2^64 of each. -/
structure Subscriber where
  id : Nat
  lastSeq : Option Nat
  queue : List Observation
  filter : Option (List EventKind)
  dropped : Nat

def passes (filter : Option (List EventKind)) (obs : Observation) : Bool :=
  match filter with
  | none => true
  | some filter => obs.events.any fun ev => filter.any fun k => EventKind.fromEvent ev == some k

namespace Subscriber

def new (id : Nat) : Subscriber := { id, lastSeq := none, queue := [], filter := none, dropped := 0 }

def withFilter (s : Subscriber) (filter : Option (List EventKind)) : Subscriber := { s with filter }

def poll (s : Subscriber) : Option Observation × Subscriber :=
  match s.queue with
  | [] => (none, s)
  | obs :: queue => (some obs, { s with queue, lastSeq := some obs.seq })

def accepts (s : Subscriber) (obs : Observation) : Bool := passes s.filter obs

def push (s : Subscriber) (obs : Observation) : Bool × Subscriber :=
  if !s.accepts obs then (false, s)
  else
    let s := if subscriberQueueCap ≤ s.queue.length then
        { s with queue := s.queue.tail, dropped := s.dropped + 1 }
      else s
    (true, { s with queue := s.queue ++ [obs] })

def replayFromHistory (s : Subscriber) (history : List Observation) (sinceSeq : Nat) : Subscriber :=
  history.foldl (fun s obs => if sinceSeq < obs.seq then (s.push obs).2 else s) s

end Subscriber

/-- As there, `nextSeq` and `nextSubscriberId` agree with the `u64`s up to 2^64. -/
structure StreamEngine where
  nextSeq : Nat
  history : List Observation
  subscribers : AList fun _ : Nat => Subscriber
  nextSubscriberId : Nat

namespace StreamEngine

def new : StreamEngine := { nextSeq := 0, history := [], subscribers := ∅, nextSubscriberId := 1 }

/-- `values_mut` -/
def mapSubscribers (f : Subscriber → Subscriber) (subs : AList fun _ : Nat => Subscriber) :
    AList fun _ : Nat => Subscriber where
  entries := subs.entries.map fun entry => ⟨entry.1, f entry.2⟩
  nodupKeys := by
    have keys : (subs.entries.map fun entry => (⟨entry.1, f entry.2⟩ : Sigma fun _ => Subscriber)).keys =
        subs.entries.keys := by
      unfold List.keys
      rw [List.map_map]
      rfl
    unfold List.NodupKeys
    rw [keys]
    exact subs.nodupKeys

def subscribe (e : StreamEngine) (sinceSeq : Nat) (filter : Option (List EventKind)) :
    Nat × StreamEngine :=
  let id := e.nextSubscriberId
  let sub := ((Subscriber.new id).withFilter filter).replayFromHistory e.history sinceSeq
  (id, { e with nextSubscriberId := id + 1, subscribers := e.subscribers.insert id sub })

def unsubscribe (e : StreamEngine) (handle : Nat) : Bool × StreamEngine :=
  (decide (handle ∈ e.subscribers), { e with subscribers := e.subscribers.erase handle })

def produce (e : StreamEngine) (obsFactory : Nat → Observation) : Nat × StreamEngine :=
  let obs := obsFactory e.nextSeq
  let history := (if historyCap ≤ e.history.length then e.history.tail else e.history) ++ [obs]
  (e.nextSeq, { e with
    nextSeq := e.nextSeq + 1
    history
    subscribers := mapSubscribers (fun sub => (sub.push obs).2) e.subscribers })

/-- `subscriber_mut(handle)`, and a poll of the subscriber that it finds. -/
def poll (e : StreamEngine) (handle : Nat) : Option Observation × StreamEngine :=
  match e.subscribers.lookup handle with
  | none => (none, e)
  | some sub =>
    (sub.poll.1, { e with subscribers := e.subscribers.insert handle sub.poll.2 })

end StreamEngine

end HidConnect.Kernel

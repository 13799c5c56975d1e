import HidConnect.Kernel.Stream

/-! What a new subscriber finds in its queue: the newest of the observations it asks for. -/
namespace HidConnect.Kernel

namespace Subscriber

theorem push_rejected {s : Subscriber} {obs : Observation} (rejected : s.accepts obs = false) :
    (s.push obs).2 = s := by
  simp [push, rejected]

theorem push_accepted {s : Subscriber} {obs : Observation} (accepted : s.accepts obs = true) :
    (s.push obs).2 = { s with
      queue := DropOldest.push subscriberQueueCap s.queue obs
      dropped := s.dropped + DropOldest.lost subscriberQueueCap s.queue } := by
  unfold push DropOldest.push DropOldest.lost
  rw [accepted, if_neg (by decide)]
  dsimp only
  split <;> rfl

@[simp] theorem filter_push (s : Subscriber) (obs : Observation) : (s.push obs).2.filter = s.filter := by
  cases accepted : s.accepts obs with
  | false => rw [push_rejected accepted]
  | true => rw [push_accepted accepted]

end Subscriber

def wanted (history : List Observation) (sinceSeq : Nat) (filter : Option (List EventKind)) :
    List Observation :=
  history.filter fun obs => decide (sinceSeq < obs.seq) && passes filter obs

namespace Subscriber

theorem queue_replay (s : Subscriber) (history : List Observation) (sinceSeq : Nat) :
    (s.replayFromHistory history sinceSeq).queue =
      (wanted history sinceSeq s.filter).foldl (DropOldest.push subscriberQueueCap) s.queue := by
  unfold replayFromHistory wanted
  induction history generalizing s with
  | nil => rfl
  | cons obs rest ih =>
    rw [List.foldl_cons, ih, List.filter_cons]
    by_cases later : sinceSeq < obs.seq
    · rw [if_pos later, filter_push]
      cases accepted : s.accepts obs with
      | false =>
        rw [push_rejected accepted, if_neg]
        rw [accepts] at accepted
        simp [accepted]
      | true =>
        rw [push_accepted accepted, if_pos, List.foldl_cons]
        rw [accepts] at accepted
        simp [later, accepted]
    · rw [if_neg later, if_neg]
      simp [later]

end Subscriber

namespace StreamEngine

theorem lookup_subscribe (e : StreamEngine) (sinceSeq : Nat) (filter : Option (List EventKind)) :
    (e.subscribe sinceSeq filter).2.subscribers.lookup (e.subscribe sinceSeq filter).1 =
      some (((Subscriber.new e.nextSubscriberId).withFilter filter).replayFromHistory e.history
        sinceSeq) :=
  AList.lookup_insert _

theorem queue_subscribe (e : StreamEngine) (sinceSeq : Nat) (filter : Option (List EventKind)) :
    ((e.subscribe sinceSeq filter).2.subscribers.lookup (e.subscribe sinceSeq filter).1).map
        Subscriber.queue =
      some ((wanted e.history sinceSeq filter).foldl (DropOldest.push subscriberQueueCap) []) := by
  rw [lookup_subscribe, Option.map_some, Subscriber.queue_replay]
  rfl

/-- A replay is complete exactly where what it is asked for fits into the queue. -/
theorem replay_complete_iff (e : StreamEngine) (sinceSeq : Nat) (filter : Option (List EventKind)) :
    ((e.subscribe sinceSeq filter).2.subscribers.lookup (e.subscribe sinceSeq filter).1).map
        Subscriber.queue = some (wanted e.history sinceSeq filter) ↔
      (wanted e.history sinceSeq filter).length ≤ subscriberQueueCap := by
  rw [queue_subscribe, Option.some_inj]
  exact DropOldest.foldl_push_eq_iff (by decide) _

def busy : Nat → StreamEngine
  | 0 => .new
  | n + 1 => ((busy n).produce fun seq => { Observation.initial with seq }).2

theorem busy_eq {n : Nat} (fits : n ≤ historyCap) :
    busy n = { StreamEngine.new with
      nextSeq := n
      history := (List.range n).map fun seq => { Observation.initial with seq } } := by
  induction n with
  | zero => rfl
  | succ n ih =>
    have room : ¬historyCap ≤ ((List.range n).map
        fun seq => { Observation.initial with seq }).length := by
      rw [List.length_map, List.length_range]
      omega
    rw [busy, ih (by omega), List.range_succ, List.map_append]
    unfold produce
    simp only [if_neg room]
    rfl

/-- The history still holds 257 observations after the first one, and the queue loses one of them. -/
theorem replay_loses_observation :
    ((busy 258).subscribe 0 none).1 = 1 ∧ (wanted (busy 258).history 0 none).length = 257 ∧
      (((busy 258).subscribe 0 none).2.subscribers.lookup 1).map Subscriber.queue ≠
        some (wanted (busy 258).history 0 none) := by
  have whole := busy_eq (n := 258) (by decide)
  have length : (wanted (busy 258).history 0 none).length = 257 := by
    rw [whole]
    decide +kernel
  have first : ((busy 258).subscribe 0 none).1 = 1 := by
    rw [whole]
    rfl
  refine ⟨first, length, ?_⟩
  have queue := queue_subscribe (busy 258) 0 none
  rw [first] at queue
  rw [queue]
  intro same
  have fits := (DropOldest.foldl_push_eq_iff (by decide) _).mp (Option.some.inj same)
  rw [length] at fits
  exact absurd fits (by decide)

end StreamEngine

end HidConnect.Kernel

import HidConnect.Library.Method
import HidConnect.Library.Run

/-! A thread that draws items from a source and sends them over a bounded channel until the first
error, and the consumer at the other end of it. -/
namespace Pump
open Fallible
variable {ε σ α : Type}

inductive Point (ε α : Type) where
  | drawing
  | sending (item : Outcome ε α)
  | returned
  deriving DecidableEq, Repr

structure State (ε σ α : Type) where
  source : σ
  point : Point ε α
  queue : List (Outcome ε α)
  bound : Nat
  listening : Bool
  received : List (Outcome ε α)

inductive Step where
  /-- The next step of the thread. -/
  | loop
  | receive
  | hangUp
  deriving DecidableEq, Repr

namespace Point

/-- An item that was drawn and is not sent yet. -/
def pending : Point ε α → List (Outcome ε α)
  | sending item => [item]
  | _ => []

/-- Where the loop goes once an item is sent. -/
def behind : Outcome ε α → Point ε α
  | .ok _ => drawing
  | _ => returned

end Point

namespace State

def spawn (source : σ) (bound : Nat) : State ε σ α :=
  { source, point := .drawing, queue := [], bound, listening := true, received := [] }

/-- A send waits for room; it fails once nobody listens. A panic takes the thread down. -/
def loop (m : Method ε σ α) (s : State ε σ α) : State ε σ α :=
  match s.point with
  | .drawing =>
    match m.run s.source with
    | (.panic, source) => { s with source, point := .returned }
    | (item, source) => { s with source, point := .sending item }
  | .sending item =>
    if s.listening = false then { s with point := .returned }
    else if s.queue.length < s.bound then
      { s with queue := s.queue ++ [item], point := .behind item }
    else s
  | .returned => s

/-- The oldest item of the channel, or one that is handed over by a waiting send. -/
def receive (s : State ε σ α) : State ε σ α :=
  if s.listening = false then s
  else
    match s.queue, s.point with
    | item :: rest, _ => { s with queue := rest, received := s.received ++ [item] }
    | [], .sending item => { s with point := .behind item, received := s.received ++ [item] }
    | [], _ => s

def step (m : Method ε σ α) (s : State ε σ α) : Step → State ε σ α
  | .loop => s.loop m
  | .receive => s.receive
  | .hangUp => { s with listening := false, queue := [] }

end State

/-- The outcomes of the first `n` calls, and the source behind them. -/
def drawn (m : Method ε σ α) : Nat → σ → List (Outcome ε α) × σ
  | 0, s => ([], s)
  | n + 1, s => ((drawn m n s).1 ++ [(m.run (drawn m n s).2).1], (m.run (drawn m n s).2).2)

/-- All are items, up to the last one, which may be an error. -/
def Ends (xs : List (Outcome ε α)) : Prop := ∀ x ∈ xs.dropLast, x.isOk = true

/-- What holds of every state that is reached, where `xs` has been drawn. -/
structure Carries (xs : List (Outcome ε α)) (s : State ε σ α) : Prop where
  ends : Ends xs
  bounded : s.queue.length ≤ s.bound
  front : s.received <+: xs
  whole : s.listening = true → s.received ++ s.queue ++ s.point.pending = xs
  goesOn : s.point = .drawing → ∀ x ∈ xs, x.isOk = true
  holds : ∀ item, s.point = .sending item → item ≠ .panic ∧ ∃ front, xs = front ++ [item]
  failed : s.point = .returned → s.listening = true → ∃ front e, xs = front ++ [.err e]

theorem carries_spawn (source : σ) (bound : Nat) :
    Carries [] (State.spawn source bound : State ε σ α) where
  ends := by simp [Ends]
  bounded := Nat.zero_le bound
  front := List.prefix_rfl
  whole _ := rfl
  goesOn _ := by simp
  holds := nofun
  failed := nofun

theorem Ends.snoc {xs : List (Outcome ε α)} (ok : ∀ x ∈ xs, x.isOk = true) (x : Outcome ε α) :
    Ends (xs ++ [x]) := by
  rw [Ends, List.dropLast_concat]
  exact ok

theorem Ends.all {front : List (Outcome ε α)} {a : α} (ends : Ends (front ++ [.ok a])) :
    ∀ x ∈ front ++ [.ok a], x.isOk = true := by
  rw [Ends, List.dropLast_concat] at ends
  simpa [or_imp, forall_and] using ends

theorem behind_goesOn {xs front : List (Outcome ε α)} {item : Outcome ε α} (ends : Ends xs)
    (same : xs = front ++ [item]) : (Point.behind item = .drawing → ∀ x ∈ xs, x.isOk = true) ∧
      (item ≠ .panic → Point.behind item = .returned → ∃ front e, xs = front ++ [.err e]) := by
  subst same
  cases item with
  | ok a => exact ⟨fun _ => ends.all, nofun⟩
  | err e => exact ⟨nofun, fun _ _ => ⟨front, e, rfl⟩⟩
  | panic => exact ⟨nofun, fun calm => absurd rfl calm⟩

theorem pending_behind (item : Outcome ε α) : (Point.behind item).pending = [] := by
  cases item <;> rfl

theorem behind_ne_sending (item other : Outcome ε α) : Point.behind item ≠ .sending other := by
  cases item <;> nofun

section Runs
variable {m : Method ε σ α} {start : σ} {s : State ε σ α}

/-- The thread has drawn the first items of its source. -/
def Inv (m : Method ε σ α) (start : σ) (s : State ε σ α) : Prop :=
  ∃ n, (drawn m n start).2 = s.source ∧ Carries (drawn m n start).1 s

theorem Inv.draw (calm : Method.NeverPanics m) (h : Inv m start s) (drawing : s.point = .drawing) :
    Inv m start (s.loop m) := by
  obtain ⟨n, source, carries⟩ := h
  have ok := carries.goesOn drawing
  have item := calm s.source
  have whole := carries.whole
  rw [drawing] at whole
  refine ⟨n + 1, ?_⟩
  rw [drawn, source]
  rcases run : m.run s.source with ⟨x, t⟩
  rw [run] at item
  have state : s.loop m = { s with source := t, point := .sending x } := by
    unfold State.loop
    rw [drawing]
    cases x <;> simp_all
  have calm' : x ≠ .panic := by
    rintro rfl
    contradiction
  rw [state]
  refine ⟨rfl, ?_⟩
  constructor
  case ends => exact Ends.snoc ok x
  case bounded => exact carries.bounded
  case front => exact carries.front.trans (List.prefix_append _ _)
  case whole =>
    intro listening
    rw [← whole listening]
    simp [Point.pending]
  case goesOn => exact nofun
  case holds =>
    rintro item ⟨⟩
    exact ⟨calm', _, rfl⟩
  case failed => exact nofun

theorem Inv.send (h : Inv m start s) {item : Outcome ε α} (sending : s.point = .sending item) :
    Inv m start (s.loop m) := by
  obtain ⟨n, source, carries⟩ := h
  obtain ⟨calm, front, same⟩ := carries.holds item sending
  obtain ⟨goesOn, failed⟩ := behind_goesOn carries.ends same
  unfold State.loop
  rw [sending]
  dsimp only
  split
  case isTrue deaf =>
    refine ⟨n, source, ?_⟩
    exact { carries with
      whole := fun listening => absurd listening (by simp [deaf])
      goesOn := nofun
      holds := nofun
      failed := fun _ listening => absurd listening (by simp [deaf]) }
  case isFalse =>
    split
    case isTrue room =>
      refine ⟨n, source, ?_⟩
      constructor
      case ends => exact carries.ends
      case bounded =>
        rw [List.length_append]
        exact room
      case front => exact carries.front
      case whole =>
        intro listening
        rw [← carries.whole listening, sending, pending_behind]
        simp [Point.pending]
      case goesOn => exact goesOn
      case holds => exact fun other at_other => absurd at_other (behind_ne_sending item other)
      case failed => exact fun returned _ => failed calm returned
    case isFalse => exact ⟨n, source, carries⟩

theorem Inv.loop (calm : Method.NeverPanics m) (h : Inv m start s) : Inv m start (s.loop m) := by
  cases point : s.point with
  | drawing => exact h.draw calm point
  | sending item => exact h.send point
  | returned =>
    rw [State.loop, point]
    exact h

theorem Inv.receive (h : Inv m start s) : Inv m start s.receive := by
  obtain ⟨n, source, carries⟩ := h
  unfold State.receive
  split
  case isTrue => exact ⟨n, source, carries⟩
  case isFalse heard =>
    have listening : s.listening = true := by simpa using heard
    have whole := carries.whole listening
    split
    case h_1 item rest queue =>
      refine ⟨n, source, ?_⟩
      rw [queue] at whole
      have bounded := carries.bounded
      rw [queue, List.length_cons] at bounded
      exact { carries with
        bounded := Nat.le_of_succ_le bounded
        front := ⟨rest ++ s.point.pending, by rw [← whole]; simp⟩
        whole := fun _ => by rw [← whole]; simp }
    case h_2 item queue sending =>
      obtain ⟨calm, front, same⟩ := carries.holds item sending
      obtain ⟨goesOn, failed⟩ := behind_goesOn carries.ends same
      refine ⟨n, source, ?_⟩
      rw [queue, sending] at whole
      constructor
      case ends => exact carries.ends
      case bounded => exact carries.bounded
      case front => exact ⟨[], by rw [← whole]; simp [Point.pending]⟩
      case whole =>
        intro _
        rw [← whole, queue, pending_behind]
        simp [Point.pending]
      case goesOn => exact goesOn
      case holds => exact fun other at_other => absurd at_other (behind_ne_sending item other)
      case failed => exact fun returned _ => failed calm returned
    case h_3 => exact ⟨n, source, carries⟩

theorem Inv.step (calm : Method.NeverPanics m) (h : Inv m start s) (a : Step) :
    Inv m start (s.step m a) := by
  cases a with
  | loop => exact h.loop calm
  | receive => exact h.receive
  | hangUp =>
    obtain ⟨n, source, carries⟩ := h
    exact ⟨n, source, { carries with
      bounded := Nat.zero_le _
      whole := nofun
      failed := fun _ listening => nomatch listening }⟩

theorem inv_after (calm : Method.NeverPanics m) (start : σ) (bound : Nat) (steps : List Step) :
    Inv m start (Run.after (State.step m) (State.spawn start bound) steps) :=
  Run.preserved (Inv m start) (fun _ a h => h.step calm a) ⟨0, rfl, carries_spawn start bound⟩ steps

theorem bound_step (m : Method ε σ α) (s : State ε σ α) (a : Step) : (s.step m a).bound = s.bound := by
  cases a with
  | loop =>
    rw [State.step]
    unfold State.loop
    split
    · split <;> rfl
    · split_ifs <;> rfl
    · rfl
  | receive =>
    rw [State.step]
    unfold State.receive
    split_ifs
    · rfl
    · split <;> rfl
  | hangUp => rfl

theorem queue_length_after (calm : Method.NeverPanics m) (start : σ) (bound : Nat)
    (steps : List Step) :
    (Run.after (State.step m) (State.spawn start bound) steps).queue.length ≤ bound := by
  have same : (Run.after (State.step m) (State.spawn start bound) steps).bound = bound :=
    Run.preserved (fun s => s.bound = bound) (fun s a h => (bound_step m s a).trans h) rfl steps
  obtain ⟨n, -, carries⟩ := inv_after calm start bound steps
  exact Nat.le_trans carries.bounded (Nat.le_of_eq same)

/-- What a source gives up to its first error. -/
inductive UntilError (m : Method ε σ α) : σ → List (Outcome ε α) → Prop
  | stop {s t : σ} {e : ε} (run : m.run s = (.err e, t)) : UntilError m s [.err e]
  | more {s t : σ} {a : α} {xs : List (Outcome ε α)} (run : m.run s = (.ok a, t))
      (rest : UntilError m t xs) : UntilError m s (.ok a :: xs)

theorem drawn_succ (m : Method ε σ α) (n : Nat) (start : σ) :
    drawn m (n + 1) start = ((m.run start).1 :: (drawn m n (m.run start).2).1,
      (drawn m n (m.run start).2).2) := by
  induction n with
  | zero => rfl
  | succ n ih =>
    rw [drawn, ih]
    rfl

theorem UntilError.drawn_prefix {xs : List (Outcome ε α)} (h : UntilError m start xs) (n : Nat)
    (ends : Ends (drawn m n start).1) : (drawn m n start).1 <+: xs := by
  induction h generalizing n with
  | stop run =>
    cases n with
    | zero => exact List.nil_prefix
    | succ n =>
      rw [drawn_succ, run] at ends ⊢
      cases n with
      | zero => exact List.prefix_rfl
      | succ n =>
        rw [drawn_succ] at ends
        simp [Ends] at ends
  | more run rest ih =>
    cases n with
    | zero => exact List.nil_prefix
    | succ n =>
      rw [drawn_succ, run] at ends ⊢
      refine (List.prefix_cons_inj _).mpr (ih n fun x hx => ends x ?_)
      rw [List.dropLast_cons_of_ne_nil (List.ne_nil_of_mem ((List.dropLast_sublist _).subset hx))]
      exact List.mem_cons_of_mem _ hx

theorem UntilError.only_last {xs front : List (Outcome ε α)} {e : ε} (h : UntilError m start xs)
    (starts : front ++ [.err e] <+: xs) : front ++ [.err e] = xs := by
  induction h generalizing front with
  | stop run =>
    cases front with
    | nil => exact starts.eq_of_length rfl
    | cons x front =>
      have short := starts.length_le
      simp at short
  | more run rest ih =>
    cases front with
    | nil => simp at starts
    | cons x front =>
      rw [List.cons_append, List.cons_prefix_cons] at starts
      rw [List.cons_append, starts.1, ih starts.2]

theorem Inv.received_prefix {xs : List (Outcome ε α)} (h : Inv m start s)
    (whole : UntilError m start xs) : s.received <+: xs ∧
      (s.point = .returned → s.listening = true → s.queue = [] → s.received = xs) := by
  obtain ⟨n, -, carries⟩ := h
  have starts := whole.drawn_prefix n carries.ends
  refine ⟨carries.front.trans starts, fun returned listening drained => ?_⟩
  obtain ⟨front, e, last⟩ := carries.failed returned listening
  have all := carries.whole listening
  rw [drained, returned] at all
  rw [last] at starts all
  rw [← whole.only_last starts, ← all]
  simp [Point.pending]

/-- As long as somebody listens, the thread or the consumer can go on until everything is delivered. -/
theorem moves (calm : Method.NeverPanics m) (listening : s.listening = true) :
    (s.point = .returned ∧ s.queue = []) ∨ (s.loop m).point ≠ s.point ∨
      s.receive.received ≠ s.received := by
  cases queue : s.queue with
  | cons item rest => exact .inr (.inr (by simp [State.receive, listening, queue]))
  | nil =>
    cases point : s.point with
    | returned => exact .inl ⟨rfl, rfl⟩
    | sending item => exact .inr (.inr (by simp [State.receive, listening, queue, point]))
    | drawing =>
      have item := calm s.source
      refine .inr (.inl ?_)
      rw [State.loop, point]
      rcases m.run s.source with ⟨x, t⟩
      cases x <;> simp_all

/-- No run comes to a stop before all of it is delivered. -/
theorem Inv.moves {xs : List (Outcome ε α)} (h : Inv m start s) (calm : Method.NeverPanics m)
    (whole : UntilError m start xs) (listening : s.listening = true) :
    (s.point = .returned ∧ s.received = xs) ∨ (s.loop m).point ≠ s.point ∨
      s.receive.received ≠ s.received := by
  obtain ⟨returned, drained⟩ | moved := Pump.moves calm listening
  · exact .inl ⟨returned, (h.received_prefix whole).2 returned listening drained⟩
  · exact .inr moved

/-- The steps of the loop that are left once nobody listens. -/
def Point.left : Point ε α → Nat
  | drawing => 2
  | sending _ => 1
  | returned => 0

theorem loop_deaf (m : Method ε σ α) (deaf : s.listening = false) :
    (s.loop m).listening = false ∧ (s.loop m).point.left ≤ s.point.left - 1 := by
  unfold State.loop
  cases point : s.point with
  | drawing =>
    rcases m.run s.source with ⟨x, t⟩
    cases x <;> exact ⟨deaf, by simp [Point.left]⟩
  | sending item => simp [deaf, Point.left]
  | returned => simp [deaf, Point.left, point]

theorem left_le (p : Point ε α) : p.left ≤ 2 := by
  cases p <;> simp [Point.left]

theorem returned_of_deaf (m : Method ε σ α) (deaf : s.listening = false) {steps : List Step}
    (enough : s.point.left ≤ steps.count .loop) :
    (Run.after (State.step m) s steps).point = .returned := by
  induction steps generalizing s with
  | nil =>
    cases point : s.point with
    | returned => exact point
    | _ => simp [point, Point.left] at enough
  | cons a rest ih =>
    cases a with
    | loop =>
      obtain ⟨deaf', left⟩ := loop_deaf m deaf
      rw [List.count_cons_self] at enough
      have fewer : (s.loop m).point.left ≤ rest.count .loop := by omega
      exact ih deaf' fewer
    | receive =>
      have same : s.receive = s := by rw [State.receive, if_pos deaf]
      rw [Run.after, State.step, same]
      exact ih deaf (by simpa using enough)
    | hangUp =>
      rw [Run.after, State.step]
      exact ih rfl (by simpa using enough)

/-- Whatever the bound of the channel and the order of the steps: the consumer gets these items, in order,
once, and all of them unless it hangs up; the thread is never stuck, and it ends when the consumer is
gone. -/
def Serves (m : Method ε σ α) (spawned : Nat → State ε σ α) (whole : List (Outcome ε α)) : Prop :=
  ∀ (bound : Nat) (steps : List Step),
    let step := State.step m
    let s := Run.after step (spawned bound) steps
    s.received <+: whole ∧ s.queue.length ≤ bound ∧
      (s.listening = true → (s.point = .returned ∧ s.received = whole) ∨
        (step s .loop).point ≠ s.point ∨ (step s .receive).received ≠ s.received) ∧
      (s.listening = false → ∀ more : List Step, 2 ≤ more.count .loop →
        (Run.after step s more).point = .returned)

theorem UntilError.serves {xs : List (Outcome ε α)} (whole : UntilError m start xs)
    (calm : Method.NeverPanics m) : Serves m (State.spawn start) xs := by
  intro bound steps
  have inv := inv_after calm start bound steps
  refine ⟨(inv.received_prefix whole).1, queue_length_after calm start bound steps,
    inv.moves calm whole, fun deaf more enough => ?_⟩
  exact returned_of_deaf m deaf (Nat.le_trans (left_le _) enough)

theorem exists_untilError (calm : Method.NeverPanics m) (size : σ → Nat)
    (shorter : ∀ {s t a}, m.run s = (.ok a, t) → size t < size s) (start : σ) :
    ∃ xs, UntilError m start xs := by
  induction left : size start using Nat.strongRecOn generalizing start with
  | ind n ih =>
    have item := calm start
    rcases run : m.run start with ⟨x, t⟩
    rw [run] at item
    cases x with
    | ok a =>
      obtain ⟨xs, rest⟩ := ih (size t) (left ▸ shorter run) t rfl
      exact ⟨.ok a :: xs, .more run rest⟩
    | err e => exact ⟨[.err e], .stop run⟩
    | panic => contradiction

end Runs

end Pump

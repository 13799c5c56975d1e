import HidConnect.Library.Run

/-! One value handed from a thread to another through a cell with a lock and a condition variable. The
taker waits while the cell is empty; the giver stores, wakes and unlocks. -/
namespace Handoff
variable {α : Type}

inductive Taker (α : Type) where
  /-- About to take the lock. -/
  | locking
  /-- Holds the lock, at the head of its loop. -/
  | looking
  /-- Waits, without the lock. -/
  | asleep
  /-- Holds the lock, behind its loop. -/
  | taking
  | returned (value : α)
  /-- Found the cell empty behind the loop. -/
  | crashed
  deriving DecidableEq, Repr

/-- From `storing` to `unlocking` the giver holds the lock. -/
inductive Giver (α : Type) where
  | idle
  | locking (value : α)
  | storing (value : α)
  | waking
  | unlocking
  | done
  deriving DecidableEq, Repr

/-- `asked` is the value that the giver was given, for the record. -/
structure State (α : Type) where
  cell : Option α
  locked : Bool
  taker : Taker α
  giver : Giver α
  asked : Option α
  deriving DecidableEq, Repr

inductive Turn where
  | take
  | give
  /-- The taker wakes up for no reason. -/
  | spurious
  deriving DecidableEq, Repr

namespace State

def new : State α := { cell := none, locked := false, taker := .locking, giver := .idle, asked := none }

def ask (s : State α) (value : α) : State α :=
  match s.giver with
  | .idle => { s with giver := .locking value, asked := some value }
  | _ => s

def take (s : State α) : State α :=
  match s.taker with
  | .locking => if s.locked then s else { s with locked := true, taker := .looking }
  | .looking =>
    match s.cell with
    | none => { s with locked := false, taker := .asleep }
    | some _ => { s with taker := .taking }
  | .taking =>
    match s.cell with
    | some value => { s with cell := none, locked := false, taker := .returned value }
    | none => { s with locked := false, taker := .crashed }
  | _ => s

def wake (s : State α) : State α :=
  match s.taker with
  | .asleep => { s with taker := .locking }
  | _ => s

def give (s : State α) : State α :=
  match s.giver with
  | .locking value => if s.locked then s else { s with locked := true, giver := .storing value }
  | .storing value => { s with cell := some value, giver := .waking }
  | .waking => { s.wake with giver := .unlocking }
  | .unlocking => { s with locked := false, giver := .done }
  | _ => s

def step (s : State α) : Turn → State α
  | .take => s.take
  | .give => s.give
  | .spurious => s.wake

end State

namespace Taker

def holds : Taker α → Bool
  | looking | taking => true
  | _ => false

/-- The turns that the taker has before it, once there is something to take. -/
def left : Taker α → Nat
  | locking => 3
  | looking => 2
  | taking => 1
  | _ => 0

end Taker

/-- The taker has not gone past its loop. -/
def Waits : Taker α → Prop
  | .locking | .looking | .asleep => True
  | _ => False

/-- The taker has not got the lock. -/
def Outside : Taker α → Prop
  | .locking | .asleep => True
  | _ => False

/-- What holds while the giver is where it is. -/
def Sound (s : State α) : Prop :=
  match s.giver with
  | .idle => s.asked = none ∧ s.cell = none ∧ Waits s.taker ∧ s.locked = s.taker.holds
  | .locking value =>
    s.asked = some value ∧ s.cell = none ∧ Waits s.taker ∧ s.locked = s.taker.holds
  | .storing value => s.asked = some value ∧ s.cell = none ∧ Outside s.taker ∧ s.locked = true
  | .waking => s.cell ≠ none ∧ s.asked = s.cell ∧ Outside s.taker ∧ s.locked = true
  | .unlocking => s.cell ≠ none ∧ s.asked = s.cell ∧ s.taker = .locking ∧ s.locked = true
  | .done =>
    (s.cell ≠ none ∧ s.asked = s.cell ∧ 0 < s.taker.left ∧ s.locked = s.taker.holds) ∨
      ∃ value, s.asked = some value ∧ s.taker = .returned value

theorem sound_new : Sound (State.new : State α) := ⟨rfl, rfl, trivial, rfl⟩

theorem sound_ask {s : State α} (sound : Sound s) (value : α) : Sound (s.ask value) := by
  obtain ⟨cell, locked, taker, giver, asked⟩ := s
  cases giver with
  | idle => exact ⟨rfl, sound.2⟩
  | _ => exact sound

theorem sound_take {s : State α} (sound : Sound s) : Sound s.take := by
  obtain ⟨cell, locked, taker, giver, asked⟩ := s
  cases taker with
  | locking =>
    cases locked with
    | true => exact sound
    | false => cases giver <;> simp_all [Sound, State.take, Waits, Outside, Taker.holds, Taker.left]
  | looking =>
    cases cell with
    | none => cases giver <;> simp_all [Sound, State.take, Waits, Outside, Taker.holds]
    | some value => cases giver <;> simp_all [Sound, State.take, Outside, Taker.holds, Taker.left]
  | taking =>
    cases cell with
    | none => cases giver <;> simp_all [Sound, Waits, Outside]
    | some value => cases giver <;> simp_all [Sound, State.take, Outside]
  | asleep => exact sound
  | returned value => exact sound
  | crashed => exact sound

theorem sound_wake {s : State α} (sound : Sound s) : Sound s.wake := by
  obtain ⟨cell, locked, taker, giver, asked⟩ := s
  cases taker with
  | asleep => cases giver <;> simp_all [Sound, State.wake, Waits, Outside, Taker.holds, Taker.left]
  | _ => exact sound

theorem sound_give {s : State α} (sound : Sound s) : Sound s.give := by
  obtain ⟨cell, locked, taker, giver, asked⟩ := s
  cases giver with
  | locking value =>
    cases locked with
    | true => exact sound
    | false =>
      cases taker <;> simp_all [Sound, State.give, Waits, Outside, Taker.holds]
  | storing value => simp_all [Sound, State.give]
  | waking => cases taker <;> simp_all [Sound, State.give, State.wake, Outside]
  | unlocking => simp_all [Sound, State.give, Taker.left, Taker.holds]
  | idle => exact sound
  | done => exact sound

theorem sound_step {s : State α} (sound : Sound s) (turn : Turn) : Sound (s.step turn) := by
  cases turn with
  | take => exact sound_take sound
  | give => exact sound_give sound
  | spurious => exact sound_wake sound

theorem Sound.asked_of_busy {s : State α} (sound : Sound s) (busy : s.giver ≠ .idle) :
    ∃ value, s.asked = some value := by
  obtain ⟨cell, locked, taker, giver, asked⟩ := s
  cases giver with
  | idle => contradiction
  | locking value => exact ⟨value, sound.1⟩
  | storing value => exact ⟨value, sound.1⟩
  | waking => exact Option.ne_none_iff_exists'.mp (sound.2.1 ▸ sound.1)
  | unlocking => exact Option.ne_none_iff_exists'.mp (sound.2.1 ▸ sound.1)
  | done =>
    rcases sound with ⟨full, same, _⟩ | ⟨value, asked, _⟩
    · exact Option.ne_none_iff_exists'.mp (same ▸ full)
    · exact ⟨value, asked⟩

theorem Sound.idle_iff {s : State α} (sound : Sound s) : s.giver = .idle ↔ s.asked = none := by
  constructor
  · intro idle
    rw [Sound, idle] at sound
    exact sound.1
  · intro none
    by_contra busy
    obtain ⟨value, asked⟩ := sound.asked_of_busy busy
    rw [none] at asked
    contradiction

theorem Sound.asked_ask {s : State α} (sound : Sound s) (value : α) :
    (s.ask value).asked = s.asked.or (some value) := by
  by_cases idle : s.giver = .idle
  · simp [State.ask, idle, sound.idle_iff.mp idle]
  · obtain ⟨first, asked⟩ := sound.asked_of_busy idle
    have same : s.ask value = s := by
      unfold State.ask
      split
      · contradiction
      · rfl
    rw [same, asked, Option.some_or]

theorem asked_step (s : State α) (turn : Turn) : (s.step turn).asked = s.asked := by
  obtain ⟨cell, locked, taker, giver, asked⟩ := s
  cases turn with
  | take => cases taker <;> cases cell <;> cases locked <;> rfl
  | give => cases giver <;> cases taker <;> cases locked <;> rfl
  | spurious => cases taker <;> rfl

/- What the taker comes back with. -/

theorem Sound.taken {s : State α} (sound : Sound s) :
    s.taker ≠ .crashed ∧ ∀ value, s.taker = .returned value → s.asked = some value := by
  obtain ⟨cell, locked, taker, giver, asked⟩ := s
  cases giver <;> cases taker <;> simp_all [Sound, Waits, Outside, Taker.left]

/-- With a value to give, one of the two can go on until both are done. -/
theorem Sound.moves {s : State α} (sound : Sound s) (busy : s.giver ≠ .idle) :
    (s.giver = .done ∧ ∃ value, s.taker = .returned value) ∨ s.take ≠ s ∨ s.give ≠ s := by
  obtain ⟨cell, locked, taker, giver, asked⟩ := s
  cases giver with
  | idle => contradiction
  | locking value =>
    cases locked with
    | false => exact .inr (.inr (by simp [State.give]))
    | true => cases taker <;> simp_all [Sound, Waits, Taker.holds, State.take]
  | storing value => exact .inr (.inr (by simp [State.give]))
  | waking => exact .inr (.inr (by simp [State.give]))
  | unlocking => exact .inr (.inr (by simp [State.give]))
  | done =>
    cases taker with
    | returned value => exact .inl ⟨rfl, value, rfl⟩
    | _ => cases cell <;> simp_all [Sound, Taker.left, Taker.holds, State.take]

/-- Once the giver is done nobody sleeps, and each turn of the taker brings it nearer. -/
theorem take_done {s : State α} (sound : Sound s) (done : s.giver = .done) :
    s.take.giver = .done ∧ s.take.asked = s.asked ∧ s.take.taker.left = s.taker.left - 1 := by
  obtain ⟨cell, locked, taker, giver, asked⟩ := s
  obtain rfl : giver = .done := done
  cases taker <;> cases cell <;> simp_all [Sound, State.take, Taker.left, Taker.holds]

theorem step_done {s : State α} (sound : Sound s) (done : s.giver = .done) {turn : Turn}
    (other : turn ≠ .take) : s.step turn = s := by
  obtain ⟨cell, locked, taker, giver, asked⟩ := s
  obtain rfl : giver = .done := done
  cases turn with
  | take => contradiction
  | give => rfl
  | spurious => cases taker <;> simp_all [Sound, State.step, State.wake, Taker.left]

/-- The wake-up is not lost: once the giver is done, three turns of the taker are enough, whatever
happens between them. -/
theorem returned_of_done {s : State α} (sound : Sound s) (done : s.giver = .done) {turns : List Turn}
    (enough : s.taker.left ≤ turns.count .take) :
    ∃ value, s.asked = some value ∧ (Run.after State.step s turns).taker = .returned value := by
  induction turns generalizing s with
  | nil =>
    obtain ⟨_, _, positive, _⟩ | ⟨value, asked, returned⟩ := (by simpa [Sound, done] using sound :
      (_ ∧ _ ∧ 0 < s.taker.left ∧ _) ∨ ∃ value, s.asked = some value ∧ s.taker = .returned value)
    · simp at enough
      omega
    · exact ⟨value, asked, returned⟩
  | cons turn rest ih =>
    by_cases take : turn = .take
    · subst take
      obtain ⟨done', asked, left⟩ := take_done sound done
      rw [List.count_cons_self] at enough
      have later := ih (sound_take sound) done' (by omega)
      rwa [asked] at later
    · rw [Run.after, step_done sound done take]
      exact ih sound done (by simpa [List.count_cons, take] using enough)

end Handoff

import Mathlib.Data.List.Basic

/-! Things that are opened, used and closed, one opening at a time. -/

/-- Which events open, use and close. -/
structure RoundProtocol (α : Type) where
  opens : α → Bool
  uses : α → Bool
  closes : α → Bool
  apart : ∀ a, uses a = true → closes a = false

namespace RoundProtocol
variable {α : Type} (b : RoundProtocol α)

/-- Opened, used any number of times and closed, again and again. The last time may be unfinished. -/
inductive Rounds : List α → Prop
  | none : Rounds []
  | unfinished {o : α} {us : List α} (opened : b.opens o = true) (used : ∀ u ∈ us, b.uses u = true) :
      Rounds (o :: us)
  | round {o c : α} {us rest : List α} (opened : b.opens o = true)
      (used : ∀ u ∈ us, b.uses u = true) (closed : b.closes c = true) (later : Rounds rest) :
      Rounds (o :: (us ++ c :: rest))

/-- What an event makes of something open or not; none if it is out of turn. -/
def step (isOpen : Bool) (a : α) : Option Bool :=
  if isOpen then
    if b.uses a then some true else if b.closes a then some false else none
  else if b.opens a then some true else none

def run (isOpen : Bool) (events : List α) : Option Bool := events.foldlM b.step isOpen

variable {b} {isOpen : Bool} {a : α} {xs ys : List α}

@[simp] theorem run_nil : b.run isOpen [] = some isOpen := rfl

@[simp] theorem run_cons : b.run isOpen (a :: xs) = (b.step isOpen a).bind fun o => b.run o xs := by
  simp [run]

theorem run_append : b.run isOpen (xs ++ ys) = (b.run isOpen xs).bind fun o => b.run o ys := by
  simp [run]

theorem step_opens (opens : b.opens a = true) : b.step false a = some true := by
  simp [step, opens]

theorem step_uses (uses : b.uses a = true) : b.step true a = some true := by
  simp [step, uses]

theorem step_closes (closes : b.closes a = true) : b.step true a = some false := by
  cases uses : b.uses a with
  | false => simp [step, uses, closes]
  | true =>
    rw [b.apart a uses] at closes
    contradiction

theorem run_uses (used : ∀ u ∈ xs, b.uses u = true) : b.run true xs = some true := by
  induction xs with
  | nil => simp
  | cons u rest ih =>
    have later := ih fun v hv => used v (List.mem_cons_of_mem _ hv)
    simp [step_uses (used u (List.mem_cons_self ..)), later]

theorem Rounds.use {o : α} (h : b.Rounds (o :: xs)) (used : b.uses a = true) : b.Rounds (o :: a :: xs) := by
  cases h with
  | unfinished opened others => exact .unfinished opened (List.forall_mem_cons.mpr ⟨used, others⟩)
  | round opened others closed later =>
    have longer := Rounds.round opened (List.forall_mem_cons.mpr ⟨used, others⟩) closed later
    exact longer

theorem rounds_of_run (xs : List α) :
    ((b.run false xs).isSome = true → b.Rounds xs) ∧
      ((b.run true xs).isSome = true → ∀ o, b.opens o = true → b.Rounds (o :: xs)) := by
  induction xs with
  | nil => exact ⟨fun _ => .none, fun _ o opened => .unfinished opened (List.forall_mem_nil _)⟩
  | cons a rest ih =>
    constructor
    · intro runs
      cases opens : b.opens a with
      | false => simp [step, opens] at runs
      | true =>
        rw [run_cons, step_opens opens] at runs
        exact ih.2 runs a opens
    · intro runs o opened
      cases uses : b.uses a with
      | true =>
        rw [run_cons, step_uses uses] at runs
        exact (ih.2 runs o opened).use uses
      | false =>
        cases closes : b.closes a with
        | false => simp [step, uses, closes] at runs
        | true =>
          rw [run_cons, step_closes closes] at runs
          have unused := Rounds.round opened (List.forall_mem_nil _) closes (ih.1 runs)
          exact unused

/-- The rounds are the runs in which no event is out of turn. -/
theorem rounds_iff : b.Rounds xs ↔ (b.run false xs).isSome = true := by
  constructor
  · intro rounds
    induction rounds with
    | none => simp
    | unfinished opened used => simp [step_opens opened, run_uses used]
    | round opened used closed later ih =>
      simp [step_opens opened, run_append, run_uses used, step_closes closed, ih]
  · exact (rounds_of_run xs).1

end RoundProtocol

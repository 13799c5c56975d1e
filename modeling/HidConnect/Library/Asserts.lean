import HidConnect.Library.Method

/-! Assertions: a method that panics where one fails, and the method without them. -/
namespace Fallible

namespace Method
variable {ε σ τ α β : Type}

/-- Panic unless the condition holds. -/
def assert (c : Prop) [Decidable c] : Method ε σ Unit := if c then pure () else crash

def Panics (m : Method ε σ α) (s : σ) : Prop := (m.run s).1.isPanic = true

theorem NeverPanics.not_panics {m : Method ε σ α} (h : NeverPanics m) (s : σ) : ¬Panics m s := by
  rw [Panics, h s]
  exact Bool.false_ne_true

theorem panics_assert_bind {c : Prop} [Decidable c] {f : Unit → Method ε σ β} {s : σ} :
    Panics (assert c >>= f) s ↔ ¬c ∨ Panics (f ()) s := by
  unfold assert
  by_cases holds : c
  · rw [if_pos holds]
    exact (or_iff_right (not_not_intro holds)).symm
  · rw [if_neg holds]
    exact iff_of_true rfl (.inl holds)

theorem panics_bind {m : Method ε σ α} (calm : NeverPanics m) {f : α → Method ε σ β} {s : σ} :
    Panics (m >>= f) s ↔ ∃ a t, m.run s = (.ok a, t) ∧ Panics (f a) t := by
  unfold Panics
  have here := calm s
  rcases hr : m.run s with ⟨r, t⟩
  rw [hr] at here
  cases r with
  | ok a =>
    rw [run_bind_ok hr]
    constructor
    · exact fun panics => ⟨a, t, rfl, panics⟩
    · rintro ⟨b, u, same, panics⟩
      cases same
      exact panics
  | err e =>
    rw [run_bind_err hr]
    apply iff_of_false Bool.false_ne_true
    rintro ⟨b, u, same, -⟩
    cases same
  | panic => cases here

theorem panics_bind_calm {m : Method ε σ α} {f : α → Method ε σ β} (calm : ∀ a, NeverPanics (f a))
    {s : σ} : Panics (m >>= f) s ↔ Panics m s := by
  unfold Panics
  rcases hr : m.run s with ⟨r, t⟩
  cases r with
  | ok a =>
    rw [run_bind_ok hr, calm a t]
    rfl
  | err e => rw [run_bind_err hr]; rfl
  | panic => rw [run_bind_panic hr]; rfl

/-- The first is the second with assertions: unless it panics it does the same. -/
def Asserts (m m' : Method ε σ α) : Prop := ∀ s, ¬Panics m s → m.run s = m'.run s

theorem asserts_same (m : Method ε σ α) : Asserts m m := fun _ _ => rfl

theorem asserts_assert {c : Prop} [Decidable c] {m m' : Method ε σ α} (h : Asserts m m') :
    Asserts (assert c >>= fun _ => m) m' := by
  intro s calm
  rw [panics_assert_bind, not_or, not_not] at calm
  rw [assert, if_pos calm.1]
  exact h s calm.2

theorem Asserts.bind {m m' : Method ε σ α} {f f' : α → Method ε σ β} (first : Asserts m m')
    (rest : ∀ a, Asserts (f a) (f' a)) : Asserts (m >>= f) (m' >>= f') := by
  intro s calm
  have calm' : ¬Panics m s := by
    intro panics
    refine calm ?_
    rcases hr : m.run s with ⟨r, t⟩
    rw [Panics, hr] at panics
    cases r with
    | panic => rw [Panics, run_bind_panic hr]; rfl
    | _ => cases panics
  have same := first s calm'
  rcases hr : m.run s with ⟨r, t⟩
  rw [hr] at same
  cases r with
  | ok a =>
    rw [Panics, run_bind_ok hr] at calm
    rw [run_bind_ok hr, run_bind_ok same.symm]
    exact rest a t calm
  | err e => rw [run_bind_err hr, run_bind_err same.symm]
  | panic => rw [run_bind_panic hr, run_bind_panic same.symm]

end Method

end Fallible

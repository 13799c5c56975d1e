import HidConnect.Library.Method

/-! The errors that a method can come back with, from the states that meet an invariant it keeps. -/
namespace Fallible

namespace Method
variable {ε σ τ α β : Type} {inv : σ → Prop} {E : ε → Prop}

/-- From a state that meets the invariant a call keeps it, and fails only with an error of this kind. -/
def FailsWithin (inv : σ → Prop) (E : ε → Prop) (m : Method ε σ α) : Prop :=
  ∀ s, inv s → (∀ e, (m.run s).1 = .err e → E e) ∧ inv (m.run s).2

theorem failsWithin_ok {m : Method ε σ α} (kept : ∀ s, inv s → inv (m.run s).2)
    (ok : ∀ s, (m.run s).1.isOk = true) : FailsWithin inv E m := by
  intro s good
  refine ⟨fun e failed => ?_, kept s good⟩
  have returned := ok s
  rw [failed] at returned
  contradiction

theorem failsWithin_pure (a : α) : FailsWithin inv E (pure a) :=
  failsWithin_ok (fun _ good => good) fun _ => rfl

theorem failsWithin_read : FailsWithin inv E read := failsWithin_ok (fun _ good => good) fun _ => rfl

theorem failsWithin_update {f : σ → σ} (kept : ∀ s, inv s → inv (f s)) :
    FailsWithin inv E (update f) := failsWithin_ok kept fun _ => rfl

theorem FailsWithin.bind {m : Method ε σ α} {f : α → Method ε σ β} (first : FailsWithin inv E m)
    (rest : ∀ a, FailsWithin inv E (f a)) : FailsWithin inv E (m >>= f) := by
  intro s good
  obtain ⟨errors, kept⟩ := first s good
  rw [run_bind]
  rcases hr : m.run s with ⟨r, t⟩
  rw [hr] at errors kept
  cases r with
  | ok a => exact rest a t kept
  | err e =>
    refine ⟨fun e' same => ?_, kept⟩
    cases same
    exact errors e rfl
  | panic =>
    refine ⟨fun e same => ?_, kept⟩
    cases same

theorem FailsWithin.ite {c : Prop} [Decidable c] {m n : Method ε σ α} (h : FailsWithin inv E m)
    (h' : FailsWithin inv E n) : FailsWithin inv E (if c then m else n) := by
  split
  · exact h
  · exact h'

theorem FailsWithin.discard {m : Method ε σ α} (h : FailsWithin inv E m) :
    FailsWithin inv E (discard m) := by
  intro s good
  obtain ⟨errors, kept⟩ := h s good
  rw [run_discard]
  refine ⟨fun e failed => ?_, kept⟩
  cases hr : (m.run s).1 with
  | ok a =>
    rw [hr] at failed
    contradiction
  | err e' =>
    rw [hr] at failed
    cases failed
    exact errors e hr
  | panic =>
    rw [hr] at failed
    contradiction

theorem FailsWithin.zoom {invWhole : τ → Prop} {get : τ → σ} {set : σ → τ → τ} {m : Method ε σ α}
    (h : FailsWithin inv E m) (part : ∀ t, invWhole t → inv (get t))
    (whole : ∀ t s, inv s → invWhole (set s t)) : FailsWithin invWhole E (zoom get set m) := by
  intro t good
  obtain ⟨errors, kept⟩ := h (get t) (part t good)
  exact ⟨errors, whole t _ kept⟩

end Method

end Fallible

import HidConnect.Library.Method
import HidConnect.Library.Run
import Mathlib.Algebra.BigOperators.Group.List.Basic

/-! Two methods over related states that come back alike, two machines that take turns alike, and what a
machine puts out. -/
namespace Fallible

/-- The same value, or related errors. -/
def Outcome.Alike {ε ε' α : Type} (E : ε → ε' → Prop) : Outcome ε α → Outcome ε' α → Prop
  | .ok a, .ok b => a = b
  | .err e, .err e' => E e e'
  | .panic, .panic => True
  | _, _ => False

namespace Method
variable {ε ε' σ τ α β : Type}

/-- From related states both come back alike, and leave related states. -/
def Simulates (R : σ → τ → Prop) (E : ε → ε' → Prop) (m : Method ε σ α) (m' : Method ε' τ α) : Prop :=
  ∀ s t, R s t → (m.run s).1.Alike E (m'.run t).1 ∧ R (m.run s).2 (m'.run t).2

variable {R : σ → τ → Prop} {E : ε → ε' → Prop}

theorem simulates_pure (a : α) : Simulates R E (pure a) (pure a) := fun _ _ related => ⟨rfl, related⟩

theorem simulates_fail {e : ε} {e' : ε'} (h : E e e') :
    Simulates R E (fail e : Method ε σ α) (fail e' : Method ε' τ α) := fun _ _ related => ⟨h, related⟩

theorem simulates_lift {r : Outcome ε α} {r' : Outcome ε' α} (h : r.Alike E r') :
    Simulates R E (lift r) (lift r') := fun _ _ related => ⟨h, related⟩

theorem Simulates.bind {m : Method ε σ α} {m' : Method ε' τ α} {f : α → Method ε σ β}
    {f' : α → Method ε' τ β} (h : Simulates R E m m') (h' : ∀ a, Simulates R E (f a) (f' a)) :
    Simulates R E (m >>= f) (m' >>= f') := by
  intro s t related
  obtain ⟨alike, after⟩ := h s t related
  rw [run_bind, run_bind]
  rcases hr : m.run s with ⟨r, u⟩
  rcases hr' : m'.run t with ⟨r', u'⟩
  rw [hr, hr'] at alike after
  cases r with
  | ok a =>
    cases r' with
    | ok b =>
      cases alike
      exact h' a u u' after
    | err e' => exact alike.elim
    | panic => exact alike.elim
  | err e =>
    cases r' with
    | ok b => exact alike.elim
    | err e' => exact ⟨alike, after⟩
    | panic => exact alike.elim
  | panic =>
    cases r' with
    | ok b => exact alike.elim
    | err e' => exact alike.elim
    | panic => exact ⟨trivial, after⟩

theorem Simulates.map {m : Method ε σ α} {m' : Method ε' τ α} (h : Simulates R E m m') (f : α → β) :
    Simulates R E (m >>= fun a => pure (f a)) (m' >>= fun a => pure (f a)) :=
  h.bind fun _ => simulates_pure _

theorem Simulates.ite {c : Prop} [Decidable c] {m n : Method ε σ α} {m' n' : Method ε' τ α}
    (h : Simulates R E m m') (h' : Simulates R E n n') :
    Simulates R E (if c then m else n) (if c then m' else n') := by
  split
  · exact h
  · exact h'

end Method
end Fallible

namespace Run
variable {σ τ ι ω : Type} {step : σ → ι → σ} {step' : τ → ι → τ}

def outputs (step : σ → ι → σ) (out : σ → ι → Option ω) : σ → List ι → List ω
  | _, [] => []
  | s, i :: rest => (out s i).toList ++ outputs step out (step s i) rest

/-- Where every step meeting the condition takes in what it puts out and keeps, so does a run. -/
theorem outputs_balance {M : Type} [AddCommMonoid M] {out : σ → ι → Option ω} {cond : σ → ι → Prop}
    (kept : σ → M) (taken : ι → M) (amount : ω → M)
    (balanced : ∀ s i, cond s i →
      ((out s i).toList.map amount).sum + kept (step s i) = kept s + taken i)
    {s : σ} {xs : List ι} (along : Along step cond s xs) :
    ((outputs step out s xs).map amount).sum + kept (after step s xs) =
      kept s + (xs.map taken).sum := by
  induction xs generalizing s with
  | nil => simp [outputs, after]
  | cons x rest ih =>
    have now := balanced s x along.1
    have later := ih along.2
    rw [outputs, List.map_append, List.sum_append, after, add_assoc, later, List.map_cons, List.sum_cons,
      ← add_assoc, now, add_assoc]

theorem outputs_quiet {out : σ → ι → Option ω} {turn : ι → Bool} {P : σ → Prop}
    (between : ∀ s i, P s → turn i = false → P (step s i) ∧ out s i = none) {s : σ} (holds : P s)
    {xs : List ι} (quiet : xs.countP turn = 0) :
    P (after step s xs) ∧ outputs step out s xs = [] := by
  induction xs generalizing s with
  | nil => exact ⟨holds, rfl⟩
  | cons i xs ih =>
    have idle : turn i = false := by
      cases h : turn i with
      | false => rfl
      | true => simp [h] at quiet
    obtain ⟨after, none⟩ := between s i holds idle
    rw [List.countP_cons_of_neg (by simp [idle])] at quiet
    obtain ⟨last, nothing⟩ := ih after quiet
    refine ⟨last, ?_⟩
    rw [outputs, none, nothing]
    rfl

/-- Two machines whose turns agree, whatever steps come between the turns of either, put out the same over
the same number of turns. -/
theorem outputs_agree {out : σ → ι → Option ω} {out' : τ → ι → Option ω} {turn : ι → Bool}
    {cond : σ → ι → Prop} {cond' : τ → ι → Prop} (R : σ → τ → Prop)
    (between : ∀ s t i, R s t → turn i = false → R (step s i) t ∧ out s i = none)
    (between' : ∀ s t i, R s t → turn i = false → R s (step' t i) ∧ out' t i = none)
    (turns : ∀ s t i j, R s t → turn i = true → turn j = true → cond s i → cond' t j →
      R (step s i) (step' t j) ∧ out s i = out' t j)
    {s : σ} {t : τ} (related : R s t) {xs ys : List ι} (count : xs.countP turn = ys.countP turn)
    (along : Along step cond s xs) (along' : Along step' cond' t ys) :
    R (after step s xs) (after step' t ys) ∧ outputs step out s xs = outputs step' out' t ys := by
  induction xs generalizing s t ys with
  | nil =>
    obtain ⟨last, nothing⟩ := outputs_quiet (between' s) related count.symm
    exact ⟨last, nothing.symm⟩
  | cons i xs ih =>
    cases h : turn i with
    | false =>
      obtain ⟨after, none⟩ := between s t i related h
      rw [List.countP_cons_of_neg (by simp [h])] at count
      obtain ⟨last, same⟩ := ih after count along.2 along'
      refine ⟨last, ?_⟩
      rw [outputs, none]
      exact same
    | true =>
      rw [List.countP_cons_of_pos h] at count
      -- the other machine comes to its own turn first
      induction ys generalizing t with
      | nil => cases count
      | cons j ys ih' =>
        cases h' : turn j with
        | false =>
          obtain ⟨after, none⟩ := between' s t j related h'
          rw [List.countP_cons_of_neg (by simp [h'])] at count
          obtain ⟨last, same⟩ := ih' after count along'.2
          refine ⟨last, ?_⟩
          rw [same, outputs.eq_2 step', none]
          rfl
        | true =>
          rw [List.countP_cons_of_pos h'] at count
          obtain ⟨after, out_⟩ := turns s t i j related h h' along.1 along'.1
          obtain ⟨last, same⟩ := ih after (Nat.succ.inj count) along.2 along'.2
          refine ⟨last, ?_⟩
          rw [outputs, outputs, out_, same]

end Run

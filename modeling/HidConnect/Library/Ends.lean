import HidConnect.Library.Method

/-! Postconditions of methods: one for the value, one for the error. A panic meets neither. -/
namespace Fallible
namespace Method
variable {ε σ α β : Type}

def Ends (Q : α → σ → Prop) (E : ε → σ → Prop) : Outcome ε α × σ → Prop
  | (.ok a, t) => Q a t
  | (.err e, t) => E e t
  | (.panic, _) => False

variable {E : ε → σ → Prop}

theorem Ends.mono {Q Q' : α → σ → Prop} {E' : ε → σ → Prop} {r : Outcome ε α × σ} (h : Ends Q E r)
    (value : ∀ a t, Q a t → Q' a t) (error : ∀ e t, E e t → E' e t) : Ends Q' E' r := by
  obtain ⟨r, t⟩ := r
  cases r with
  | ok a => exact value a t h
  | err e => exact error e t h
  | panic => exact h

theorem Ends.state {P : σ → Prop} {r : Outcome ε α × σ} (h : Ends (fun _ => P) (fun _ => P) r) :
    P r.2 := by
  obtain ⟨r, t⟩ := r
  cases r with
  | ok a => exact h
  | err e => exact h
  | panic => exact h.elim

theorem Ends.bind {m : Method ε σ α} {f : α → Method ε σ β} {Q : α → σ → Prop} {Q' : β → σ → Prop}
    {s : σ} (h : Ends Q E (m.run s)) (next : ∀ a t, Q a t → Ends Q' E ((f a).run t)) :
    Ends Q' E ((m >>= f).run s) := by
  rw [run_bind]
  rcases hr : m.run s with ⟨r, t⟩
  rw [hr] at h
  cases r with
  | ok a => exact next a t h
  | err e => exact h
  | panic => exact h

/-- The invariant of a loop speaks of the elements that are behind it. -/
theorem ends_forEach {f : α → Method ε σ Unit} (inv : List α → σ → Prop) {xs : List α}
    (turn : ∀ before a after s, xs = before ++ a :: after → inv before s →
      Ends (fun _ => inv (before ++ [a])) E ((f a).run s))
    {s : σ} (initial : inv [] s) : Ends (fun _ => inv xs) E ((forEach xs f).run s) := by
  suffices h : ∀ before after s, xs = before ++ after → inv before s →
      Ends (fun _ => inv xs) E ((forEach after f).run s) from h [] xs s rfl initial
  intro before after
  induction after generalizing before with
  | nil =>
    intro s whole here
    rw [List.append_nil] at whole
    subst whole
    exact here
  | cons a rest ih =>
    intro s whole here
    refine (turn before a rest s whole here).bind fun _ t there => ?_
    exact ih (before ++ [a]) t (by rw [whole, List.append_assoc, List.singleton_append]) there

end Method
end Fallible

import HidConnect.Library.Method

/-! A method beside another one over related states: what the first comes back with, the second comes
back with too. A strict tracking asks this of errors and panics, a lenient one of values alone. -/
namespace Fallible

structure Tracked {ε σ τ α : Type} (strict : Prop) (R : σ → τ → Prop) (x : Outcome ε α × σ)
    (y : Outcome ε α × τ) : Prop where
  ok : ∀ a s, x = (.ok a, s) → ∃ t, y = (.ok a, t) ∧ R s t
  err : strict → ∀ e s, x = (.err e, s) → ∃ t, y = (.err e, t) ∧ R s t
  panic : strict → x.1 = .panic → y.1 = .panic

namespace Method
variable {ε σ τ α β : Type} {strict : Prop} {R : σ → τ → Prop}

def Tracks (strict : Prop) (R : σ → τ → Prop) (m : Method ε σ α) (m' : Method ε τ α) : Prop :=
  ∀ s t, R s t → Tracked strict R (m.run s) (m'.run t)

theorem tracked_ok {a : α} {s : σ} {t : τ} (related : R s t) :
    Tracked strict R ((.ok a, s) : Outcome ε α × σ) (.ok a, t) where
  ok b s' same := by
    cases same
    exact ⟨t, rfl, related⟩
  err _ e s' same := by cases same
  panic _ same := by cases same

theorem tracked_err {e : ε} {s : σ} {t : τ} (related : R s t) :
    Tracked strict R ((.err e, s) : Outcome ε α × σ) (.err e, t) where
  ok b s' same := by cases same
  err _ e' s' same := by
    cases same
    exact ⟨t, rfl, related⟩
  panic _ same := by cases same

theorem tracked_panic {s : σ} {y : Outcome ε α × τ} (panics : strict → y.1 = .panic) :
    Tracked strict R ((.panic, s) : Outcome ε α × σ) y where
  ok b s' same := by cases same
  err _ e s' same := by cases same
  panic only _ := panics only

theorem tracks_pure (a : α) : Tracks strict R (pure a : Method ε σ α) (pure a) :=
  fun _ _ related => tracked_ok related

theorem tracks_fail (e : ε) : Tracks strict R (fail e : Method ε σ α) (fail e) :=
  fun _ _ related => tracked_err related

theorem tracks_update {f : σ → σ} {g : τ → τ} (h : ∀ s t, R s t → R (f s) (g t)) :
    Tracks strict R (update f : Method ε σ Unit) (update g) :=
  fun s t related => tracked_ok (h s t related)

theorem tracks_lift (r : Outcome ε α) : Tracks strict R (lift r : Method ε σ α) (lift r) := by
  intro s t related
  cases r with
  | ok a => exact tracked_ok related
  | err e => exact tracked_err related
  | panic => exact tracked_panic fun _ => rfl

theorem tracks_okOr (e : ε) (o : Option α) : Tracks strict R (okOr e o : Method ε σ α) (okOr e o) := by
  cases o with
  | none => exact tracks_fail e
  | some a => exact tracks_pure a

theorem tracks_panics {m : Method ε σ α} {m' : Method ε τ α} (h : ∀ s, (m.run s).1 = .panic)
    (h' : ∀ t, (m'.run t).1 = .panic) : Tracks strict R m m' := by
  intro s t _
  rcases run : m.run s with ⟨r, s'⟩
  obtain rfl : r = .panic := by simpa [run] using h s
  exact tracked_panic fun _ => h' t

theorem Tracks.bind {m : Method ε σ α} {m' : Method ε τ α} {f : α → Method ε σ β}
    {f' : α → Method ε τ β} (h : Tracks strict R m m') (h' : ∀ a, Tracks strict R (f a) (f' a)) :
    Tracks strict R (m >>= f) (m' >>= f') := by
  intro s t related
  obtain ⟨ok, err, panic⟩ := h s t related
  rcases run : m.run s with ⟨r, s'⟩
  cases r with
  | ok a =>
    obtain ⟨t', run', after⟩ := ok a s' run
    rw [run_bind_ok run, run_bind_ok run']
    exact h' a s' t' after
  | err e =>
    rw [run_bind_err run]
    constructor
    case ok => simp
    case err =>
      intro only e' s'' same
      cases same
      obtain ⟨t', run', after⟩ := err only e s' run
      exact ⟨t', run_bind_err run', after⟩
    case panic => simp
  | panic =>
    rw [run_bind_panic run]
    exact tracked_panic fun only => run_bind_panics (panic only (by rw [run]))

/-- What is read of the states may differ, as long as what is done with it does not. -/
theorem tracks_read_bind {f : σ → Method ε σ α} {f' : τ → Method ε τ α}
    (h : ∀ s t, R s t → Tracked strict R ((f s).run s) ((f' t).run t)) :
    Tracks strict R (read >>= f) (read >>= f') := h

theorem tracks_lift_bind {r : Outcome ε α} {f : α → Method ε σ β} {f' : α → Method ε τ β}
    (h : ∀ a, r = .ok a → Tracks strict R (f a) (f' a)) :
    Tracks strict R (lift r >>= f) (lift r >>= f') := by
  cases r with
  | ok a => exact h a rfl
  | err e => exact fun _ _ related => tracked_err related
  | panic => exact fun _ _ _ => tracked_panic fun _ => rfl

theorem run_bind_stops {m : Method ε σ α} {f : α → Method ε σ β} {s : σ}
    (stops : (m.run s).1.isOk = false) (g : α → β) : ((m >>= f).run s).1 = (m.run s).1.map g := by
  rcases run : m.run s with ⟨r, s'⟩
  rw [run] at stops
  cases r with
  | ok a => contradiction
  | err e => rw [run_bind_err run]; rfl
  | panic => rw [run_bind_panic run]; rfl

theorem discard_eq (m : Method ε σ α) : discard m = m >>= fun _ => pure () := by
  change Method.mk _ = Method.mk _
  congr 1
  funext s
  rcases m.run s with ⟨r, s'⟩
  cases r <;> rfl

theorem Tracks.discard {m : Method ε σ α} {m' : Method ε τ α} (h : Tracks strict R m m') :
    Tracks strict R (Method.discard m) (Method.discard m') := by
  rw [discard_eq, discard_eq]
  exact h.bind fun _ => tracks_pure ()

theorem Tracks.rollback {m : Method ε σ α} {m' : Method ε τ α} {cleanup : Method ε σ Unit}
    {cleanup' : Method ε τ Unit} (h : Tracks strict R m m')
    (h' : strict → ∀ s t, R s t → R (cleanup.run s).2 (cleanup'.run t).2) :
    Tracks strict R (Method.rollback m cleanup) (Method.rollback m' cleanup') := by
  intro s t related
  obtain ⟨ok, err, panic⟩ := h s t related
  rcases run : m.run s with ⟨r, u⟩
  cases r with
  | ok a =>
    obtain ⟨v, run', after⟩ := ok a u run
    simp only [Method.rollback, run, run']
    exact tracked_ok after
  | err e =>
    constructor
    case ok => simp [Method.rollback, run]
    case err =>
      intro only e' s' same
      obtain ⟨v, run', after⟩ := err only e u run
      simp only [Method.rollback, run, Prod.mk.injEq, Outcome.err.injEq] at same
      obtain ⟨rfl, rfl⟩ := same
      simp only [Method.rollback, run']
      exact ⟨_, rfl, h' only u v after⟩
    case panic => simp [Method.rollback, run]
  | panic =>
    simp only [Method.rollback, run]
    apply tracked_panic
    intro only
    have panics := panic only (by rw [run])
    rcases run' : m'.run t with ⟨r, v⟩
    rw [run'] at panics
    cases panics
    rfl

theorem tracks_forEach {f : α → Method ε σ Unit} {f' : α → Method ε τ Unit}
    (h : ∀ a, Tracks strict R (f a) (f' a)) (xs : List α) :
    Tracks strict R (forEach xs f) (forEach xs f') := by
  induction xs with
  | nil => exact tracks_pure ()
  | cons x rest ih => exact (h x).bind fun _ => ih

theorem tracks_zoom {σ' τ' : Type} {S : σ' → τ' → Prop} {get : σ' → σ} {set : σ → σ' → σ'}
    {get' : τ' → τ} {set' : τ → τ' → τ'} {m : Method ε σ α} {m' : Method ε τ α}
    (h : Tracks strict R m m') (inside : ∀ s t, S s t → R (get s) (get' t))
    (back : ∀ s t, S s t → ∀ u v, R u v → S (set u s) (set' v t)) :
    Tracks strict S (zoom get set m) (zoom get' set' m') := by
  intro s t related
  obtain ⟨ok, err, panic⟩ := h (get s) (get' t) (inside s t related)
  rw [run_zoom, run_zoom]
  rcases run : m.run (get s) with ⟨r, u⟩
  cases r with
  | ok a =>
    obtain ⟨v, run', after⟩ := ok a u run
    rw [run']
    exact tracked_ok (back s t related u v after)
  | err e =>
    constructor
    case ok => simp
    case err =>
      intro only e' s' same
      cases same
      obtain ⟨v, run', after⟩ := err only e u run
      rw [run']
      exact ⟨_, rfl, back s t related u v after⟩
    case panic => simp
  | panic => exact tracked_panic fun only => panic only (by rw [run])

end Method

end Fallible

import Mathlib.Order.Defs.Unbundled
import Mathlib.Data.List.Basic

/-! Methods that mutate a state and may fail or panic.
The state survives an error: what a call did before it failed stays done. -/
namespace Fallible

/-- How a call comes back. -/
inductive Outcome (ε α : Type) where
  | ok (value : α)
  | err (error : ε)
  | panic
  deriving DecidableEq, Repr

namespace Outcome
variable {ε α β : Type}

def isOk : Outcome ε α → Bool
  | ok _ => true
  | _ => false

def isPanic : Outcome ε α → Bool
  | panic => true
  | _ => false

def map (f : α → β) : Outcome ε α → Outcome ε β
  | ok a => ok (f a)
  | err e => err e
  | panic => panic

def mapErr {ε' : Type} (f : ε → ε') : Outcome ε α → Outcome ε' α
  | ok a => ok a
  | err e => err (f e)
  | panic => panic

@[simp] theorem isOk_ok (a : α) : (ok a : Outcome ε α).isOk = true := rfl
@[simp] theorem isOk_err (e : ε) : (err e : Outcome ε α).isOk = false := rfl
@[simp] theorem isOk_panic : (panic : Outcome ε α).isOk = false := rfl
@[simp] theorem isPanic_ok (a : α) : (ok a : Outcome ε α).isPanic = false := rfl
@[simp] theorem isPanic_err (e : ε) : (err e : Outcome ε α).isPanic = false := rfl
@[simp] theorem isPanic_panic : (panic : Outcome ε α).isPanic = true := rfl

@[simp] theorem isOk_map (f : α → β) (r : Outcome ε α) : (r.map f).isOk = r.isOk := by
  cases r <;> rfl

@[simp] theorem isPanic_map (f : α → β) (r : Outcome ε α) : (r.map f).isPanic = r.isPanic := by
  cases r <;> rfl

theorem isOk_iff {r : Outcome ε α} : r.isOk = true ↔ ∃ a, r = ok a := by
  cases r <;> simp

end Outcome

structure Method (ε σ α : Type) where
  run : σ → Outcome ε α × σ

namespace Method
variable {ε σ τ α β : Type}

instance : Monad (Method ε σ) where
  pure a := ⟨fun s => (.ok a, s)⟩
  bind m f := ⟨fun s =>
    match m.run s with
    | (.ok a, t) => (f a).run t
    | (.err e, t) => (.err e, t)
    | (.panic, t) => (.panic, t)⟩

/- The primitive methods. -/

def read : Method ε σ σ := ⟨fun s => (.ok s, s)⟩
def update (f : σ → σ) : Method ε σ Unit := ⟨fun s => (.ok (), f s)⟩
def fail (e : ε) : Method ε σ α := ⟨fun s => (.err e, s)⟩
def crash : Method ε σ α := ⟨fun s => (.panic, s)⟩

/-- An outcome computed without the state. -/
def lift (r : Outcome ε α) : Method ε σ α := ⟨fun s => (r, s)⟩

def okOr (e : ε) : Option α → Method ε σ α
  | some a => pure a
  | none => fail e

/-- Run a method of a component: `get` reads the component, `set` stores it back. -/
def zoom (get : τ → σ) (set : σ → τ → τ) (m : Method ε σ α) : Method ε τ α :=
  ⟨fun t => ((m.run (get t)).1, set (m.run (get t)).2 t)⟩

/-- Keep the outcome and drop the value. -/
def discard (m : Method ε σ α) : Method ε σ Unit :=
  ⟨fun s => ((m.run s).1.map fun _ => (), (m.run s).2)⟩

/-- Throw an error away; a panic is not an error. -/
def ignore (m : Method ε σ α) : Method ε σ Unit :=
  ⟨fun s =>
    match m.run s with
    | (.panic, t) => (.panic, t)
    | (_, t) => (.ok (), t)⟩

/-- On an error run `cleanup`, whose own errors are dropped, and return the first error. -/
def rollback (m : Method ε σ α) (cleanup : Method ε σ Unit) : Method ε σ α :=
  ⟨fun s =>
    match m.run s with
    | (.err e, t) => (.err e, (cleanup.run t).2)
    | r => r⟩

/-- A loop that stops at the first error. -/
def forEach : List α → (α → Method ε σ Unit) → Method ε σ Unit
  | [], _ => pure ()
  | a :: rest, f => f a >>= fun _ => forEach rest f

@[simp] theorem run_pure (a : α) (s : σ) : (pure a : Method ε σ α).run s = (.ok a, s) := rfl
@[simp] theorem run_read (s : σ) : (read : Method ε σ σ).run s = (.ok s, s) := rfl
@[simp] theorem run_update (f : σ → σ) (s : σ) :
    (update f : Method ε σ Unit).run s = (.ok (), f s) := rfl
@[simp] theorem run_fail (e : ε) (s : σ) : (fail e : Method ε σ α).run s = (.err e, s) := rfl
@[simp] theorem run_crash (s : σ) : (crash : Method ε σ α).run s = (.panic, s) := rfl
@[simp] theorem run_lift (r : Outcome ε α) (s : σ) : (lift r).run s = (r, s) := rfl
@[simp] theorem run_zoom (get : τ → σ) (set : σ → τ → τ) (m : Method ε σ α) (t : τ) :
    (zoom get set m).run t = ((m.run (get t)).1, set (m.run (get t)).2 t) := rfl
@[simp] theorem run_discard (m : Method ε σ α) (s : σ) :
    (discard m).run s = ((m.run s).1.map fun _ => (), (m.run s).2) := rfl
@[simp] theorem okOr_some (e : ε) (a : α) : (okOr e (some a) : Method ε σ α) = pure a := rfl
@[simp] theorem okOr_none (e : ε) : (okOr e none : Method ε σ α) = fail e := rfl
@[simp] theorem forEach_nil (f : α → Method ε σ Unit) : forEach [] f = pure () := rfl
@[simp] theorem forEach_cons (a : α) (rest : List α) (f : α → Method ε σ Unit) :
    forEach (a :: rest) f = f a >>= fun _ => forEach rest f := rfl

theorem run_bind (m : Method ε σ α) (f : α → Method ε σ β) (s : σ) :
    (m >>= f).run s =
      match m.run s with
      | (.ok a, t) => (f a).run t
      | (.err e, t) => (.err e, t)
      | (.panic, t) => (.panic, t) := rfl

theorem run_bind_ok {m : Method ε σ α} {f : α → Method ε σ β} {s t : σ} {a : α}
    (h : m.run s = (.ok a, t)) : (m >>= f).run s = (f a).run t := by
  rw [run_bind, h]

theorem run_bind_err {m : Method ε σ α} {f : α → Method ε σ β} {s t : σ} {e : ε}
    (h : m.run s = (.err e, t)) : (m >>= f).run s = (.err e, t) := by
  rw [run_bind, h]

theorem run_bind_panic {m : Method ε σ α} {f : α → Method ε σ β} {s t : σ}
    (h : m.run s = (.panic, t)) : (m >>= f).run s = (.panic, t) := by
  rw [run_bind, h]

theorem run_bind_panics {m : Method ε σ α} {f : α → Method ε σ β} {s : σ}
    (h : (m.run s).1 = .panic) : ((m >>= f).run s).1 = .panic := by
  rw [run_bind_panic (Prod.ext h rfl : m.run s = (.panic, (m.run s).2))]

/-- The rest of a composition only matters on the values that the first part returns. -/
theorem run_bind_congr {m : Method ε σ α} {f g : α → Method ε σ β} {s : σ}
    (h : ∀ a t, m.run s = (.ok a, t) → (f a).run t = (g a).run t) :
    (m >>= f).run s = (m >>= g).run s := by
  rw [run_bind, run_bind]
  rcases hr : m.run s with ⟨r, t⟩
  cases r with
  | ok a => exact h a t hr
  | err e => rfl
  | panic => rfl

theorem of_run_bind_ok {m : Method ε σ α} {f : α → Method ε σ β} {s u : σ} {b : β}
    (run : (m >>= f).run s = (.ok b, u)) : ∃ a t, m.run s = (.ok a, t) ∧ (f a).run t = (.ok b, u) := by
  rw [run_bind] at run
  rcases hr : m.run s with ⟨r, t⟩
  rw [hr] at run
  cases r with
  | ok a => exact ⟨a, t, rfl, run⟩
  | err e => cases congrArg Prod.fst run
  | panic => cases congrArg Prod.fst run

theorem isOk_run_bind (m : Method ε σ Unit) (m' : Method ε σ β) (s : σ) :
    ((m >>= fun _ => m').run s).1.isOk = true ↔
      (m.run s).1.isOk = true ∧ (m'.run (m.run s).2).1.isOk = true := by
  rw [run_bind]
  rcases m.run s with ⟨r, t⟩
  cases r with
  | ok _ => exact (and_iff_right rfl).symm
  | err e => exact iff_of_false Bool.false_ne_true fun h => Bool.false_ne_true h.1
  | panic => exact iff_of_false Bool.false_ne_true fun h => Bool.false_ne_true h.1

theorem run_rollback_ok {m : Method ε σ α} {cleanup : Method ε σ Unit} {s t : σ} {a : α}
    (h : m.run s = (.ok a, t)) : (rollback m cleanup).run s = (.ok a, t) := by
  simp [rollback, h]

theorem run_rollback_err {m : Method ε σ α} {cleanup : Method ε σ Unit} {s t : σ} {e : ε}
    (h : m.run s = (.err e, t)) : (rollback m cleanup).run s = (.err e, (cleanup.run t).2) := by
  simp [rollback, h]

theorem run_ignore {m : Method ε σ α} {s : σ} (calm : (m.run s).1.isPanic = false) :
    (ignore m).run s = (.ok (), (m.run s).2) := by
  unfold ignore
  rcases hr : m.run s with ⟨r, t⟩
  rw [hr] at calm
  cases r with
  | ok a => simp [hr]
  | err e => simp [hr]
  | panic => contradiction

@[simp] theorem pure_bind (a : α) (f : α → Method ε σ β) : (pure a >>= f) = f a := rfl
@[simp] theorem run_read_bind (f : σ → Method ε σ β) (s : σ) :
    (read >>= f).run s = (f s).run s := rfl
@[simp] theorem run_update_bind (g : σ → σ) (f : Unit → Method ε σ β) (s : σ) :
    (update g >>= f).run s = (f ()).run (g s) := rfl
@[simp] theorem run_fail_bind (e : ε) (f : α → Method ε σ β) (s : σ) :
    (fail e >>= f).run s = (.err e, s) := rfl
@[simp] theorem run_crash_bind (f : α → Method ε σ β) (s : σ) :
    (crash >>= f).run s = (.panic, s) := rfl
@[simp] theorem run_lift_ok_bind (a : α) (f : α → Method ε σ β) (s : σ) :
    (lift (.ok a) >>= f).run s = (f a).run s := rfl

theorem run_bind_pure (m : Method ε σ α) (b : β) (s : σ) :
    (m >>= fun _ => pure b).run s = ((m.run s).1.map fun _ => b, (m.run s).2) := by
  rw [run_bind]
  rcases m.run s with ⟨r, t⟩
  cases r <;> rfl

theorem bind_assoc {γ : Type} (m : Method ε σ α) (f : α → Method ε σ β) (g : β → Method ε σ γ) :
    ((m >>= f) >>= g) = (m >>= fun a => f a >>= g) := by
  change Method.mk _ = Method.mk _
  congr 1
  funext s
  simp only [run_bind]
  rcases m.run s with ⟨r, t⟩
  cases r <;> rfl

@[simp] theorem bind_pure_unit (m : Method ε σ Unit) : (m >>= fun _ => pure ()) = m := by
  change Method.mk _ = m
  obtain ⟨run⟩ := m
  congr 1
  funext s
  dsimp only
  rcases run s with ⟨r, t⟩
  cases r <;> rfl

theorem forEach_append (xs ys : List α) (f : α → Method ε σ Unit) :
    forEach (xs ++ ys) f = forEach xs f >>= fun _ => forEach ys f := by
  induction xs with
  | nil => rfl
  | cons x rest ih => simp only [List.cons_append, forEach_cons, ih, bind_assoc]

theorem forEach_map (xs : List β) (g : β → α) (f : α → Method ε σ Unit) :
    forEach (xs.map g) f = forEach xs (fun b => f (g b)) := by
  induction xs with
  | nil => rfl
  | cons x rest ih => simp only [List.map_cons, forEach_cons, ih]

/- Methods that never panic. -/

def NeverPanics (m : Method ε σ α) : Prop := ∀ s, (m.run s).1.isPanic = false

theorem neverPanics_pure (a : α) : NeverPanics (pure a : Method ε σ α) := fun _ => rfl
theorem neverPanics_read : NeverPanics (read : Method ε σ σ) := fun _ => rfl
theorem neverPanics_update (f : σ → σ) : NeverPanics (update f : Method ε σ Unit) := fun _ => rfl
theorem neverPanics_fail (e : ε) : NeverPanics (fail e : Method ε σ α) := fun _ => rfl
theorem neverPanics_lift {r : Outcome ε α} (h : r.isPanic = false) :
    NeverPanics (lift r : Method ε σ α) := fun _ => h

theorem neverPanics_okOr (e : ε) (o : Option α) : NeverPanics (okOr e o : Method ε σ α) := by
  cases o with
  | none => exact neverPanics_fail e
  | some a => exact neverPanics_pure a

/-- The rest of a composition only runs on the values that the first part returns. -/
theorem NeverPanics.bind_run {m : Method ε σ α} {f : α → Method ε σ β} (hm : NeverPanics m)
    (hf : ∀ s a t, m.run s = (.ok a, t) → NeverPanics (f a)) : NeverPanics (m >>= f) := by
  intro s
  have first := hm s
  rw [run_bind]
  rcases hr : m.run s with ⟨r, t⟩
  rw [hr] at first
  cases r with
  | ok a => exact hf s a t hr t
  | err e => rfl
  | panic => contradiction

theorem NeverPanics.bind {m : Method ε σ α} {f : α → Method ε σ β} (hm : NeverPanics m)
    (hf : ∀ a, NeverPanics (f a)) : NeverPanics (m >>= f) :=
  hm.bind_run fun _ a _ _ => hf a

theorem NeverPanics.zoom {get : τ → σ} {set : σ → τ → τ} {m : Method ε σ α} (h : NeverPanics m) :
    NeverPanics (zoom get set m) :=
  fun t => h (get t)

theorem NeverPanics.discard {m : Method ε σ α} (h : NeverPanics m) : NeverPanics (discard m) := by
  intro s
  rw [run_discard, Outcome.isPanic_map]
  exact h s

theorem NeverPanics.rollback {m : Method ε σ α} (h : NeverPanics m) (cleanup : Method ε σ Unit) :
    NeverPanics (rollback m cleanup) := by
  intro s
  have first := h s
  unfold Method.rollback
  rcases hr : m.run s with ⟨r, t⟩
  rw [hr] at first
  cases r with
  | ok a => simp [hr]
  | err e => simp [hr]
  | panic => contradiction

theorem neverPanics_forEach {f : α → Method ε σ Unit} (h : ∀ a, NeverPanics (f a)) (xs : List α) :
    NeverPanics (forEach xs f) := by
  induction xs with
  | nil => exact neverPanics_pure ()
  | cons x rest ih => exact (h x).bind fun _ => ih

/- What a method does to its state, whatever its outcome. -/

/-- Every call relates the state before to the state after. -/
def Keeps (R : σ → σ → Prop) (m : Method ε σ α) : Prop :=
  ∀ s, R s (m.run s).2

section Keeps
variable {R : σ → σ → Prop}

theorem keeps_update {f : σ → σ} (h : ∀ s, R s (f s)) : Keeps R (update f : Method ε σ Unit) := h

theorem keeps_discard {m : Method ε σ α} (hm : Keeps R m) : Keeps R (discard m) := hm

theorem keeps_ignore {m : Method ε σ α} (hm : Keeps R m) : Keeps R (ignore m) := by
  intro s
  have h := hm s
  unfold ignore
  rcases hr : m.run s with ⟨r, t⟩
  rw [hr] at h
  cases r <;> simpa [hr] using h

variable [IsPreorder σ R]

theorem keeps_pure (a : α) : Keeps R (pure a : Method ε σ α) := fun s => refl_of R s
theorem keeps_read : Keeps R (read : Method ε σ σ) := fun s => refl_of R s
theorem keeps_fail (e : ε) : Keeps R (fail e : Method ε σ α) := fun s => refl_of R s
theorem keeps_crash : Keeps R (crash : Method ε σ α) := fun s => refl_of R s

theorem Keeps.bind {m : Method ε σ α} {f : α → Method ε σ β} (hm : Keeps R m)
    (hf : ∀ a, Keeps R (f a)) : Keeps R (m >>= f) := by
  intro s
  have first := hm s
  rw [run_bind]
  rcases hr : m.run s with ⟨r, t⟩
  rw [hr] at first
  cases r with
  | ok a => exact trans_of R first (hf a t)
  | err e => exact first
  | panic => exact first

theorem Keeps.rollback {m : Method ε σ α} {cleanup : Method ε σ Unit} (hm : Keeps R m)
    (hc : Keeps R cleanup) : Keeps R (rollback m cleanup) := by
  intro s
  have h := hm s
  unfold Method.rollback
  rcases hr : m.run s with ⟨r, t⟩
  rw [hr] at h
  cases r with
  | ok a => simpa [hr] using h
  | err e => simpa [hr] using trans_of R h (hc t)
  | panic => simpa [hr] using h

theorem keeps_forEach {f : α → Method ε σ Unit} (xs : List α) (h : ∀ a ∈ xs, Keeps R (f a)) :
    Keeps R (forEach xs f) := by
  induction xs with
  | nil => exact keeps_pure ()
  | cons x rest ih =>
    exact (h x (List.mem_cons_self ..)).bind
      fun _ => ih fun a ha => h a (List.mem_cons_of_mem _ ha)

end Keeps

theorem keeps_zoom {R : σ → σ → Prop} {S : τ → τ → Prop} {get : τ → σ} {set : σ → τ → τ}
    {m : Method ε σ α} (whole : ∀ t s, R (get t) s → S t (set s t)) (h : Keeps R m) :
    Keeps S (zoom get set m) :=
  fun t => whole t _ (h (get t))

end Method

end Fallible

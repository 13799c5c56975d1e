import Mathlib.Data.List.Basic

/-! Runs of a step function, and conditions asked of every step of a run. -/
namespace Run
variable {σ ι : Type} {step : σ → ι → σ}

/-- The state after the inputs, taken in order. -/
def after (step : σ → ι → σ) : σ → List ι → σ
  | s, [] => s
  | s, i :: rest => after step (step s i) rest

/-- Each input meets the condition in the state it is taken in. -/
def Along (step : σ → ι → σ) (cond : σ → ι → Prop) : σ → List ι → Prop
  | _, [] => True
  | s, i :: rest => cond s i ∧ Along step cond (step s i) rest

instance decidableAlong {cond : σ → ι → Prop} [∀ s i, Decidable (cond s i)] :
    ∀ s xs, Decidable (Along step cond s xs)
  | _, [] => .isTrue trivial
  | s, i :: rest =>
    have : Decidable (Along step cond (step s i) rest) := decidableAlong (step s i) rest
    inferInstanceAs (Decidable (_ ∧ _))

theorem after_append (s : σ) (xs ys : List ι) :
    after step s (xs ++ ys) = after step (after step s xs) ys := by
  induction xs generalizing s with
  | nil => rfl
  | cons x rest ih => exact ih (step s x)

theorem along_of_inv {cond : σ → ι → Prop} (inv : σ → Prop) (kept : ∀ s i, inv s → inv (step s i))
    (given : ∀ s i, inv s → cond s i) {s : σ} (initial : inv s) (xs : List ι) :
    Along step cond s xs := by
  induction xs generalizing s with
  | nil => trivial
  | cons x rest ih => exact ⟨given s x initial, ih (kept s x initial)⟩

theorem along_congr_inv {cond cond' : σ → ι → Prop} (inv : σ → Prop)
    (kept : ∀ s i, inv s → inv (step s i)) (same : ∀ s i, inv s → (cond s i ↔ cond' s i)) {s : σ}
    (initial : inv s) (xs : List ι) : Along step cond s xs ↔ Along step cond' s xs := by
  induction xs generalizing s with
  | nil => exact Iff.rfl
  | cons x rest ih => exact and_congr (same s x initial) (ih (kept s x initial))

/-- Conditions that agree where an invariant holds, which is kept by the steps that meet them. -/
theorem along_congr_while {cond cond' : σ → ι → Prop} (inv : σ → Prop)
    (kept : ∀ s i, inv s → cond' s i → inv (step s i))
    (same : ∀ s i, inv s → (cond s i ↔ cond' s i)) {s : σ} (initial : inv s) (xs : List ι) :
    Along step cond s xs ↔ Along step cond' s xs := by
  induction xs generalizing s with
  | nil => exact Iff.rfl
  | cons x rest ih =>
    rw [Along, Along, same s x initial]
    exact and_congr_right fun met => ih (kept s x initial met)

theorem Along.imp {cond cond' : σ → ι → Prop} (weaker : ∀ s i, cond s i → cond' s i) {s : σ}
    {xs : List ι} (along : Along step cond s xs) : Along step cond' s xs := by
  induction xs generalizing s with
  | nil => trivial
  | cons x rest ih => exact ⟨weaker s x along.1, ih along.2⟩

theorem along_append {cond : σ → ι → Prop} (s : σ) (xs ys : List ι) :
    Along step cond s (xs ++ ys) ↔ Along step cond s xs ∧ Along step cond (after step s xs) ys := by
  induction xs generalizing s with
  | nil => exact (and_iff_right trivial).symm
  | cons x rest ih => rw [List.cons_append, Along, Along, ih, and_assoc, after]

theorem along_congr {cond cond' : σ → ι → Prop} (same : ∀ s i, cond s i ↔ cond' s i) (s : σ)
    (xs : List ι) : Along step cond s xs ↔ Along step cond' s xs :=
  along_congr_inv (fun _ => True) (fun _ _ _ => trivial) (fun s i _ => same s i) trivial xs

/- The inputs of a run that count. -/

/-- Those taken in a state that is meant. -/
def select (step : σ → ι → σ) (meant : σ → Bool) : σ → List ι → List ι
  | _, [] => []
  | s, i :: rest =>
    if meant s then i :: select step meant (step s i) rest else select step meant (step s i) rest

section Select
variable {meant : σ → Bool} {s : σ} {xs ys : List ι}

theorem select_append :
    select step meant s (xs ++ ys) =
      select step meant s xs ++ select step meant (after step s xs) ys := by
  induction xs generalizing s with
  | nil => rfl
  | cons x rest ih =>
    cases here : meant s <;> simp [select, after, here, ih]

theorem select_sublist : (select step meant s xs).Sublist xs := by
  induction xs generalizing s with
  | nil => exact List.Sublist.refl []
  | cons x rest ih =>
    rw [select]
    split
    · exact ih.cons_cons x
    · exact ih.cons x

theorem mem_select {x : ι} : x ∈ select step meant s xs ↔
    ∃ i, xs[i]? = some x ∧ meant (after step s (xs.take i)) = true := by
  induction xs generalizing s with
  | nil => simp [select]
  | cons y rest ih =>
    constructor
    · intro member
      rw [select] at member
      split at member
      · rename_i here
        rcases List.mem_cons.mp member with rfl | later
        · exact ⟨0, rfl, here⟩
        · obtain ⟨i, at', meant⟩ := ih.mp later
          exact ⟨i + 1, at', meant⟩
      · obtain ⟨i, at', meant⟩ := ih.mp member
        exact ⟨i + 1, at', meant⟩
    · rintro ⟨i, at', chosen⟩
      rw [select]
      cases i with
      | zero =>
        obtain rfl : y = x := Option.some.inj at'
        have here : meant s = true := chosen
        rw [if_pos here]
        exact List.mem_cons_self ..
      | succ i =>
        have later := ih.mpr ⟨i, at', chosen⟩
        split
        · exact List.mem_cons_of_mem _ later
        · exact later

theorem select_of_along (all : Along step (fun s _ => meant s = true) s xs) :
    select step meant s xs = xs := by
  induction xs generalizing s with
  | nil => rfl
  | cons x rest ih => rw [select, if_pos all.1, ih all.2]

end Select

theorem invariant {cond : σ → ι → Prop} (inv : σ → Prop)
    (kept : ∀ s i, inv s → cond s i → inv (step s i)) {s : σ} (initial : inv s) {xs : List ι}
    (along : Along step cond s xs) : inv (after step s xs) := by
  induction xs generalizing s with
  | nil => exact initial
  | cons x rest ih => exact ih (kept s x initial along.1) along.2

theorem preserved (inv : σ → Prop) (kept : ∀ s i, inv s → inv (step s i)) {s : σ} (initial : inv s)
    (xs : List ι) : inv (after step s xs) := by
  induction xs generalizing s with
  | nil => exact initial
  | cons x rest ih => exact ih (kept s x initial)

/-- Where each step keeps a property exactly if it meets the condition, a run keeps it exactly if all
of its steps do. -/
theorem along_iff {cond : σ → ι → Prop} (inv P : σ → Prop) (kept : ∀ s i, inv s → inv (step s i))
    (exactly : ∀ s i, inv s → (P s ∧ cond s i ↔ P (step s i))) {s : σ} (initial : inv s)
    (xs : List ι) : P s ∧ Along step cond s xs ↔ P (after step s xs) := by
  induction xs generalizing s with
  | nil => exact ⟨And.left, fun h => ⟨h, trivial⟩⟩
  | cons x rest ih =>
    rw [Along, ← and_assoc, exactly s x initial]
    exact ih (kept s x initial)

/-- Where the condition is what it takes for a step to keep the property, the property holds all along
a run within its bounds exactly if every step meets the condition. -/
theorem always_within_iff {within cond : σ → ι → Prop} (inv P : σ → Prop) (good : ∀ s, inv s → P s)
    (kept : ∀ s i, inv s → within s i → cond s i → inv (step s i))
    (broken : ∀ s i, inv s → within s i → ¬cond s i → ¬P (step s i)) {s : σ} (initial : inv s)
    {xs : List ι} (bounded : Along step within s xs) :
    (∀ n, P (after step s (xs.take n))) ↔ Along step cond s xs := by
  induction xs generalizing s with
  | nil =>
    refine iff_of_true (fun n => ?_) trivial
    rw [List.take_nil]
    exact good s initial
  | cons x rest ih =>
    constructor
    · intro always
      have met : cond s x := by
        by_contra unmet
        exact broken s x initial bounded.1 unmet (always 1)
      exact ⟨met, (ih (kept s x initial bounded.1 met) bounded.2).mp fun n => always (n + 1)⟩
    · rintro ⟨met, along⟩ n
      cases n with
      | zero => exact good s initial
      | succ n => exact (ih (kept s x initial bounded.1 met) bounded.2).mpr along n

theorem always_iff {cond : σ → ι → Prop} (inv P : σ → Prop) (good : ∀ s, inv s → P s)
    (kept : ∀ s i, inv s → cond s i → inv (step s i))
    (broken : ∀ s i, inv s → ¬cond s i → ¬P (step s i)) {s : σ} (initial : inv s)
    (xs : List ι) : (∀ n, P (after step s (xs.take n))) ↔ Along step cond s xs :=
  always_within_iff inv P good (fun s i h _ met => kept s i h met)
    (fun s i h _ unmet => broken s i h unmet) initial
    (along_of_inv (fun _ => True) (fun _ _ h => h) (fun _ _ h => h) trivial xs :
      Along step (fun _ _ => True) s xs)

end Run

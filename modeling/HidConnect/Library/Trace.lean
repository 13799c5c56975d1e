import Mathlib.Data.List.Basic

/-! Traces: what each event of a trace owes to the events before it. -/
namespace Trace
variable {α : Type} {Q : List α → α → Prop}

/-- Each event meets the condition, given the events before it. -/
def Upheld (Q : List α → α → Prop) (trace : List α) : Prop :=
  ∀ before event after, trace = before ++ event :: after → Q before event

theorem upheld_nil : Upheld Q [] := by
  intro before event after whole
  exact absurd whole.symm (by simp)

theorem upheld_snoc {trace : List α} {event : α} :
    Upheld Q (trace ++ [event]) ↔ Upheld Q trace ∧ Q trace event := by
  constructor
  · intro h
    refine ⟨fun before e after whole => ?_, h trace event [] rfl⟩
    exact h before e (after ++ [event]) (by rw [whole, List.append_assoc, List.cons_append])
  · rintro ⟨earlier, last⟩ before e after whole
    rcases List.eq_nil_or_concat after with rfl | ⟨after, e', rfl⟩
    · obtain ⟨rfl, same⟩ := List.append_inj' whole rfl
      cases same
      exact last
    · rw [List.concat_eq_append, ← List.cons_append, ← List.append_assoc] at whole
      exact earlier before e after (List.append_inj' whole rfl).1

theorem upheld_append {trace more : List α} (h : Upheld Q trace)
    (free : ∀ before, ∀ event ∈ more, Q before event) : Upheld Q (trace ++ more) := by
  induction more generalizing trace with
  | nil => rwa [List.append_nil]
  | cons event rest ih =>
    rw [List.append_cons]
    refine ih (upheld_snoc.mpr ⟨h, ?_⟩) fun before e known =>
      free before e (List.mem_cons_of_mem _ known)
    exact free _ event (List.mem_cons_self ..)

theorem Upheld.left {trace more : List α} (h : Upheld Q (trace ++ more)) : Upheld Q trace := by
  intro before event after whole
  exact h before event (after ++ more) (by rw [whole, List.append_assoc, List.cons_append])

theorem upheld_append_iff {trace more : List α} (free : ∀ before, ∀ event ∈ more, Q before event) :
    Upheld Q (trace ++ more) ↔ Upheld Q trace :=
  ⟨Upheld.left, fun h => upheld_append h free⟩

theorem filterMap_append_of_none {β : Type} {f : α → Option β} {trace more : List α}
    (free : ∀ event ∈ more, f event = none) : (trace ++ more).filterMap f = trace.filterMap f := by
  rw [List.filterMap_append, List.filterMap_eq_nil_iff.mpr free, List.append_nil]

end Trace

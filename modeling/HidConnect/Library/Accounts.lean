import Mathlib.Data.List.Basic

/-! Faults that wait for a report. A report tells one fault; its own fault, if it had to tell another
one, waits for the next. -/
namespace Accounts
open scoped List
variable {τ φ : Type}

/-- What happened up to a report since the one before it. `own` is the fault of the report itself. -/
structure Window (τ φ : Type) where
  report : τ
  failed : List φ
  own : Option φ

/-- A window with the fault that was carried over into it. -/
structure Account (τ φ : Type) where
  carried : Option φ
  window : Window τ φ

namespace Account

/-- The faults that are older than the report. -/
def early (a : Account τ φ) : List φ := a.carried.toList ++ a.window.failed

def due (a : Account τ φ) : List φ := a.early ++ a.window.own.toList

def reported (a : Account τ φ) : Option φ := a.due.head?

/-- The report's own fault waits if there was another one to tell. -/
def left (a : Account τ φ) : Option φ := if a.early = [] then none else a.window.own

theorem reported_of_early {a : Account τ φ} (some : a.early ≠ []) : a.reported = a.early.head? := by
  rw [reported, due, List.head?_append_of_ne_nil _ some]

theorem reported_of_none {a : Account τ φ} (none : a.early = []) : a.reported = a.window.own := by
  rw [reported, due, none, List.nil_append]
  cases a.window.own <;> rfl

theorem reported_of_carried {a : Account τ φ} {f : φ} (carried : a.carried = some f) :
    a.reported = some f := by
  rw [reported, due, early, carried]
  rfl

theorem reported_left (a : Account τ φ) : a.reported.toList ++ a.left.toList <+ a.due := by
  by_cases none : a.early = []
  · rw [reported_of_none none, left, if_pos none, due, none]
    simp
  · rw [reported_of_early none, left, if_neg none, due]
    refine List.Sublist.append_right ?_ _
    cases a.early with
    | nil => exact List.nil_sublist _
    | cons f rest => exact List.singleton_sublist.mpr (List.mem_cons_self ..)

end Account

def accounts : Option φ → List (Window τ φ) → List (Account τ φ)
  | _, [] => []
  | carried, w :: ws => ⟨carried, w⟩ :: accounts (Account.left ⟨carried, w⟩) ws

def faults (ws : List (Window τ φ)) : List φ := ws.flatMap fun w => w.failed ++ w.own.toList

/-- Induction on the windows: the faults told are some of the faults there were, each at most once
and in order. -/
theorem reported_sublist (carried : Option φ) (ws : List (Window τ φ)) :
    (accounts carried ws).filterMap Account.reported <+ carried.toList ++ faults ws := by
  induction ws generalizing carried with
  | nil => exact List.nil_sublist _
  | cons w ws ih =>
    have told := Account.reported_left ⟨carried, w⟩
    have later := ih (Account.left ⟨carried, w⟩)
    have split : (accounts carried (w :: ws)).filterMap Account.reported =
        (Account.reported ⟨carried, w⟩).toList ++
          (accounts (Account.left ⟨carried, w⟩) ws).filterMap Account.reported := by
      rw [accounts, List.filterMap_cons]
      cases Account.reported ⟨carried, w⟩ <;> rfl
    have whole : carried.toList ++ faults (w :: ws) = Account.due ⟨carried, w⟩ ++ faults ws := by
      simp only [faults, List.flatMap_cons, Account.due, Account.early, List.append_assoc]
    rw [split, whole]
    calc (Account.reported ⟨carried, w⟩).toList ++
          (accounts (Account.left ⟨carried, w⟩) ws).filterMap Account.reported
      _ <+ (Account.reported ⟨carried, w⟩).toList ++
          ((Account.left ⟨carried, w⟩).toList ++ faults ws) := later.append_left _
      _ <+ Account.due ⟨carried, w⟩ ++ faults ws := by
        rw [← List.append_assoc]
        exact told.append_right _

theorem carried_next {carried : Option φ} {ws : List (Window τ φ)} {i : Nat} {a b : Account τ φ}
    (here : (accounts carried ws)[i]? = some a) (next : (accounts carried ws)[i + 1]? = some b) :
    b.carried = a.left := by
  induction ws generalizing carried i with
  | nil => cases here
  | cons w ws ih =>
    cases i with
    | zero =>
      cases here
      rcases ws with _ | ⟨w', ws⟩
      · cases next
      · cases next
        rfl
    | succ i => exact ih here next

end Accounts

import Mathlib.Algebra.Group.Nat.Defs
import Mathlib.Data.List.Basic

/-! Atomic variables as the values stored in them, in modification order, and counters that wrap. -/

structure Atomic (α : Type) where
  stored : List α
  some : stored ≠ []

namespace Atomic
variable {α : Type}

def new (a : α) : Atomic α := ⟨[a], List.cons_ne_nil a []⟩

def store (v : Atomic α) (a : α) : Atomic α := ⟨v.stored ++ [a], by simp⟩

/-- What the thread loads that does all the stores. -/
def latest (v : Atomic α) : α := v.stored.getLast v.some

/-- A load of another thread may give any value that is not older than one the thread has seen: the
coherence of a single variable, which a relaxed load has too. -/
def Loads (v : Atomic α) (seen i : Nat) : Prop := seen ≤ i ∧ i < v.stored.length

instance (v : Atomic α) (seen i : Nat) : Decidable (v.Loads seen i) :=
  inferInstanceAs (Decidable (_ ∧ _))

/-- The variable has counted up from zero so many times. -/
def Counts (v : Atomic UInt64) (n : Nat) : Prop :=
  v.stored = (List.range (n + 1)).map UInt64.ofNat

theorem counts_new : Counts (new 0) 0 := rfl

namespace Counts
variable {v : Atomic UInt64} {n : Nat}

theorem length (h : v.Counts n) : v.stored.length = n + 1 := by
  rw [h, List.length_map, List.length_range]

theorem latest (h : v.Counts n) : v.latest = UInt64.ofNat n := by
  have last : v.stored.getLast? = .some (UInt64.ofNat n) := by
    rw [h, List.range_succ, List.map_append, List.map_singleton, List.getLast?_concat]
  exact (List.getLast_eq_iff_getLast?_eq_some v.some).mpr last

theorem store (h : v.Counts n) : (v.store (UInt64.ofNat n + 1)).Counts (n + 1) := by
  change v.stored ++ [UInt64.ofNat n + 1] = _
  rw [h, List.range_succ (n := n + 1), List.map_append, List.map_singleton, UInt64.ofNat_add]
  rfl

theorem get (h : v.Counts n) {i : Nat} (le : i ≤ n) : v.stored[i]? = .some (UInt64.ofNat i) := by
  rw [h, List.getElem?_map, List.getElem?_range (Nat.lt_succ_of_le le), Option.map_some]

end Counts

theorem toNat_distance {i n : Nat} (le : i ≤ n) (near : n < i + 2 ^ 64) :
    (UInt64.ofNat n - UInt64.ofNat i).toNat = n - i := by
  rw [UInt64.toNat_sub, UInt64.toNat_ofNat', UInt64.toNat_ofNat']
  omega

theorem ofNat_eq_iff {i n : Nat} (le : i ≤ n) (near : n < i + 2 ^ 64) :
    UInt64.ofNat n = UInt64.ofNat i ↔ n = i := by
  constructor
  · intro same
    have apart := toNat_distance le near
    rw [same, UInt64.sub_self] at apart
    have none : 0 = n - i := apart
    omega
  · rintro rfl
    rfl

end Atomic

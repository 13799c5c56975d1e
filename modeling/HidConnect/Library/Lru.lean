import Mathlib.Data.List.Nodup

/-! Maps of bounded size that forget the key whose last use is longest ago. -/

/-- The keys are in the order of their last use, the one used longest ago first. -/
structure Lru (κ ν : Type) [DecidableEq κ] (cap : Nat) where
  order : List κ
  value : κ → Option ν
  distinct : order.Nodup
  bounded : order.length ≤ cap
  held : ∀ k, (value k).isSome = true ↔ k ∈ order

namespace Lru
variable {κ ν : Type} [DecidableEq κ] {cap : Nat}

def empty : Lru κ ν cap where
  order := []
  value _ := none
  distinct := List.nodup_nil
  bounded := Nat.zero_le cap
  held k := by simp

/-- The key is used now; where that makes too many, the first keys are forgotten. -/
def used (order : List κ) (cap : Nat) (k : κ) : List κ :=
  (order.erase k ++ [k]).drop ((order.erase k ++ [k]).length - cap)

theorem mem_of_mem_used {order : List κ} {k x : κ} (h : x ∈ used order cap k) : x ∈ order ∨ x = k := by
  have either : x ∈ order.erase k ++ [k] := List.mem_of_mem_drop h
  rw [List.mem_append, List.mem_singleton] at either
  exact either.imp_left List.mem_of_mem_erase

theorem nodup_used {order : List κ} (distinct : order.Nodup) (k : κ) : (used order cap k).Nodup := by
  refine List.Nodup.sublist (List.drop_sublist _ _) ?_
  refine (distinct.erase k).append (List.nodup_singleton k) ?_
  rw [List.disjoint_singleton]
  exact distinct.not_mem_erase

theorem used_of_room {order : List κ} {k : κ} (room : (order.erase k).length < cap) :
    used order cap k = order.erase k ++ [k] := by
  have none : (order.erase k ++ [k]).length - cap = 0 := by
    rw [List.length_append, List.length_singleton]
    omega
  rw [used, none, List.drop_zero]

theorem used_of_full {first k : κ} {rest : List κ} (full : (first :: rest).length = cap)
    (other : k ∉ first :: rest) : used (first :: rest) cap k = rest ++ [k] := by
  have one : (first :: rest ++ [k]).length - cap = 1 := by
    rw [List.length_append, full, List.length_singleton]
    omega
  rw [used, List.erase_of_not_mem other, one]
  rfl

def put (m : Lru κ ν cap) (k : κ) (v : ν) : Lru κ ν cap where
  order := used m.order cap k
  value x := if x ∈ used m.order cap k then (if x = k then some v else m.value x) else none
  distinct := nodup_used m.distinct k
  bounded := by
    rw [used, List.length_drop]
    omega
  held x := by
    split
    case isTrue kept =>
      refine iff_of_true ?_ kept
      split
      case isTrue => rfl
      case isFalse other => exact (m.held x).mpr ((mem_of_mem_used kept).resolve_right other)
    case isFalse gone => exact iff_of_false Bool.false_ne_true gone

@[simp] theorem order_put (m : Lru κ ν cap) (k : κ) (v : ν) :
    (m.put k v).order = used m.order cap k := rfl

theorem value_eq_none {m : Lru κ ν cap} {k : κ} (unknown : k ∉ m.order) : m.value k = none := by
  rw [← Option.not_isSome_iff_eq_none, m.held]
  exact unknown

theorem value_put_of_room {m : Lru κ ν cap} {k : κ} (room : (m.order.erase k).length < cap) (v : ν)
    (x : κ) : (m.put k v).value x = if x = k then some v else m.value x := by
  unfold put
  dsimp only
  rw [used_of_room room]
  split
  case isTrue => rfl
  case isFalse gone =>
    have other : x ≠ k := by
      rintro rfl
      exact gone (List.mem_append_right _ (List.mem_singleton_self x))
    have unknown : x ∉ m.order := fun known =>
      gone (List.mem_append_left _ ((List.mem_erase_of_ne other).mpr known))
    rw [if_neg other, value_eq_none unknown]

theorem value_put_of_full {m : Lru κ ν cap} {first k : κ} {rest : List κ} (order : m.order = first :: rest)
    (full : m.order.length = cap) (other : k ∉ m.order) (v : ν) (x : κ) : (m.put k v).value x =
      if x = first then none else if x = k then some v else m.value x := by
  have distinct := m.distinct
  have forgets : used m.order cap k = rest ++ [k] := by
    rw [order] at full other ⊢
    exact used_of_full full other
  rw [order] at distinct other
  unfold put
  dsimp only
  rw [forgets]
  by_cases evicted : x = first
  · have gone : x ∉ rest ++ [k] := by
      rw [evicted, List.mem_append, List.mem_singleton]
      rintro (again | rfl)
      · exact (List.nodup_cons.mp distinct).1 again
      · exact other (List.mem_cons_self ..)
    rw [if_neg gone, if_pos evicted]
  · rw [if_neg evicted]
    split
    case isTrue => rfl
    case isFalse gone =>
      rw [List.mem_append, List.mem_singleton, not_or] at gone
      have unknown : x ∉ m.order := by
        rw [order, List.mem_cons, not_or]
        exact ⟨evicted, gone.1⟩
      rw [if_neg gone.2, value_eq_none unknown]

theorem mem_used_self (order : List κ) (k : κ) (room : 0 < cap) : k ∈ used order cap k := by
  have short : (order.erase k ++ [k]).length - cap ≤ (order.erase k).length := by
    rw [List.length_append, List.length_singleton]
    omega
  rw [used, List.drop_append_of_le_length short]
  exact List.mem_append_right _ (List.mem_singleton_self k)

theorem value_put_self (m : Lru κ ν cap) (k : κ) (v : ν) (room : 0 < cap) :
    (m.put k v).value k = some v := by
  unfold put
  dsimp only
  rw [if_pos (mem_used_self m.order k room), if_pos rfl]

theorem value_of_put {m : Lru κ ν cap} {k x : κ} {v w : ν} (held : (m.put k v).value x = some w)
    (other : x ≠ k) : m.value x = some w := by
  unfold put at held
  dsimp only at held
  split at held
  case isTrue => exact held
  case isFalse => contradiction

inductive Op (κ ν : Type) where
  | use (k : κ)
  | change (k : κ) (f : Option ν → ν)

def step (m : Lru κ ν cap) : Op κ ν → Lru κ ν cap
  | .use k =>
    match m.value k with
    | some v => m.put k v
    | none => m
  | .change k f => m.put k (f (m.value k))

def answers : Lru κ ν cap → List (Op κ ν) → List (Option ν)
  | _, [] => []
  | m, .use k :: rest => m.value k :: answers (m.step (.use k)) rest
  | m, .change k f :: rest => answers (m.step (.change k f)) rest

end Lru

import Mathlib.Data.List.AList
import Mathlib.Data.List.FinRange
import Mathlib.Order.WellFounded

/-! A fixed number of slots, each of them free or bound to a key. One key means that a slot is free. -/
namespace Slots
variable {n : Nat} {κ : Type}

/-- No key is bound twice. -/
def Apart (free : κ) (keys : Fin n → κ) : Prop := ∀ i j, keys i ≠ free → keys i = keys j → i = j

variable {keys : Fin n → κ} {free k : κ}

section Table
variable [DecidableEq κ] {ν : Type} {name : Fin n → ν} {table : AList fun _ : κ => ν}

/-- A table of the bound keys, each with the name of its slot. -/
def Holds (free : κ) (name : Fin n → ν) (keys : Fin n → κ) (table : AList fun _ : κ => ν) : Prop :=
  ∀ k v, table.lookup k = some v ↔ k ≠ free ∧ ∃ i, name i = v ∧ keys i = k

theorem holds_free : Holds free name (fun _ => free) ∅ := by
  intro k v
  rw [AList.lookup_empty]
  constructor
  · intro none
    cases none
  · rintro ⟨taken, _, _, same⟩
    exact absurd same.symm taken

theorem Holds.mem (h : Holds free name keys table) (k : κ) :
    k ∈ table ↔ k ≠ free ∧ ∃ i, keys i = k := by
  rw [← AList.lookup_isSome, Option.isSome_iff_exists]
  constructor
  · rintro ⟨v, found⟩
    obtain ⟨taken, i, _, bound⟩ := (h k v).mp found
    exact ⟨taken, i, bound⟩
  · rintro ⟨taken, i, bound⟩
    exact ⟨name i, (h k (name i)).mpr ⟨taken, i, rfl, bound⟩⟩

theorem Holds.lookup (h : Holds free name keys table) {i : Fin n} (taken : keys i ≠ free) :
    table.lookup (keys i) = some (name i) := (h _ _).mpr ⟨taken, i, rfl, rfl⟩

theorem Holds.apart (h : Holds free name keys table) (apart : Function.Injective name) :
    Apart free keys := by
  intro i j taken same
  have one := h.lookup taken
  have other := h.lookup (same ▸ taken : keys j ≠ free)
  rw [← same, one] at other
  exact apart (Option.some.inj other)

theorem Holds.insert (h : Holds free name keys table) {i : Fin n} (taken : keys i ≠ free) :
    Holds free name keys (table.insert (keys i) (name i)) := by
  intro k v
  by_cases same : k = keys i
  · rw [same, AList.lookup_insert, ← h.lookup taken]
    exact h (keys i) v
  · rw [AList.lookup_insert_ne same]
    exact h k v

theorem Holds.bind (h : Holds free name keys table) (taken : k ≠ free) (new : ∀ j, keys j ≠ k)
    {i : Fin n} (vacant : keys i = free) :
    Holds free name (Function.update keys i k) (table.insert k (name i)) := by
  have others (j : Fin n) (k' : κ) (apart : k' ≠ k) (taken' : k' ≠ free) :
      Function.update keys i k j = k' ↔ keys j = k' := by
    by_cases at_i : j = i
    · rw [at_i, Function.update_self, vacant]
      exact iff_of_false apart.symm taken'.symm
    · rw [Function.update_of_ne at_i]
  have only (j : Fin n) : Function.update keys i k j = k ↔ j = i := by
    by_cases at_i : j = i
    · rw [at_i, Function.update_self]
      exact iff_of_true rfl rfl
    · rw [Function.update_of_ne at_i]
      exact iff_of_false (new j) at_i
  intro k' v
  by_cases same : k' = k
  · rw [same, AList.lookup_insert]
    simp [only, taken]
  · rw [AList.lookup_insert_ne same, h k' v]
    exact and_congr_right fun taken' => exists_congr fun j =>
      and_congr_right fun _ => (others j k' same taken').symm

theorem Holds.release (h : Holds free name keys table) (apart : Function.Injective name) {i : Fin n}
    (taken : keys i ≠ free) : Holds free name (Function.update keys i free) (table.erase (keys i)) := by
  have others (j : Fin n) (k' : κ) (taken' : k' ≠ free) :
      Function.update keys i free j = k' ↔ j ≠ i ∧ keys j = k' := by
    by_cases at_i : j = i
    · rw [at_i, Function.update_self]
      exact iff_of_false taken'.symm fun both => both.1 rfl
    · rw [Function.update_of_ne at_i]
      exact (and_iff_right at_i).symm
  intro k' v
  by_cases same : k' = keys i
  · rw [same, AList.lookup_erase]
    refine iff_of_false (Option.some_ne_none v).symm ?_
    rintro ⟨_, j, _, bound⟩
    obtain ⟨ne, own⟩ := (others j _ taken).mp bound
    exact ne (h.apart apart j i (own ▸ taken) own)
  · rw [AList.lookup_erase_ne same, h k' v]
    refine and_congr_right fun taken' => exists_congr fun j => and_congr_right fun _ => ?_
    rw [others j k' taken']
    exact ⟨fun own => ⟨fun eq => same (eq ▸ own.symm), own⟩, And.right⟩

end Table

theorem exists_lowest {i : Fin n} (taken : keys i ≠ free) :
    ∃ first, keys first ≠ free ∧ ∀ j < first, keys j = free := by
  obtain ⟨first, bound, least⟩ := wellFounded_lt.has_min {j | keys j ≠ free} ⟨i, taken⟩
  exact ⟨first, bound, fun j below => not_not.mp fun also => least j also below⟩

section Finding
variable [DecidableEq κ]

/-- The first slot with this key, which may be the free one. -/
def find (keys : Fin n → κ) (k : κ) : Option (Fin n) :=
  (List.finRange n).find? fun i => decide (keys i = k)

def used (free : κ) (keys : Fin n → κ) : Nat :=
  ((List.finRange n).filter fun i => decide (keys i ≠ free)).length

variable {i : Fin n}

theorem key_of_find (found : find keys k = some i) : keys i = k := by
  unfold find at found
  exact of_decide_eq_true (List.find?_some (p := fun i => decide (keys i = k)) found)

theorem lower_of_find (found : find keys k = some i) : ∀ j < i, keys j ≠ k := by
  obtain ⟨-, n, bound, here, before⟩ := List.find?_eq_some_iff_getElem.mp found
  rw [List.getElem_finRange] at here
  intro j below
  have earlier : j.val < n := by
    rw [← here] at below
    exact below
  simpa using before j.val earlier

theorem find_eq_none : find keys k = none ↔ ∀ i, keys i ≠ k := by
  rw [find, List.find?_eq_none]
  simp [List.mem_finRange]

theorem used_eq_iff : used free keys = n ↔ ∀ i, keys i ≠ free := by
  have all := List.length_filter_eq_length_iff (p := fun i => decide (keys i ≠ free))
    (l := List.finRange n)
  rw [List.length_finRange] at all
  rw [used, all]
  simp [List.mem_finRange]

/-- A list of what is bound has as many entries as there are slots in use. -/
theorem Apart.used_eq (h : Apart free keys) {ν : κ → Type} (table : AList ν)
    (agree : ∀ k, k ∈ table ↔ k ≠ free ∧ ∃ i, keys i = k) : used free keys = table.keys.length := by
  have each : (((List.finRange n).filter fun i => decide (keys i ≠ free)).map keys).Nodup := by
    refine List.Nodup.map_on ?_ ((List.nodup_finRange n).filter _)
    intro i taken j _ same
    exact h i j (of_decide_eq_true (List.mem_filter.mp taken).2) same
  have perm := (List.perm_ext_iff_of_nodup each table.keys_nodup).mpr fun k => by
    rw [← AList.mem_keys, agree, List.mem_map]
    constructor
    · rintro ⟨i, taken, rfl⟩
      exact ⟨of_decide_eq_true (List.mem_filter.mp taken).2, i, rfl⟩
    · rintro ⟨taken, i, rfl⟩
      exact ⟨i, List.mem_filter.mpr ⟨List.mem_finRange i, decide_eq_true taken⟩, rfl⟩
  have lengths := perm.length_eq
  rwa [List.length_map] at lengths

end Finding

end Slots

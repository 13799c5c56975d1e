import Mathlib.Logic.Function.Basic

/-! Items under ids, each with a key and a tag, and an index that leads from a key to one item. -/

@[ext] structure Catalogue (κ ι τ : Type) where
  index : κ → Option ι
  items : ι → Option (κ × τ)

namespace Catalogue
variable {κ ι τ : Type}

/-- What the index leads to, if that is still there. -/
def found (c : Catalogue κ ι τ) (k : κ) : Option (κ × τ) := (c.index k).bind c.items

def Holds (c : Catalogue κ ι τ) (k : κ) (tag : τ) : Prop := ∃ id, c.items id = some (k, tag)

/-- The index leads to items of the key itself. -/
def Pointed (c : Catalogue κ ι τ) : Prop :=
  ∀ k id e, c.index k = some id → c.items id = some e → e.1 = k

/-- The index leads to an item with the first tag if the key has one, else to one with the second tag
if it has one of these, and else nowhere. -/
def Best (first second : τ) (c : Catalogue κ ι τ) (k : κ) : Prop :=
  match c.found k with
  | none => ¬c.Holds k first ∧ ¬c.Holds k second
  | some e => e.1 = k ∧ (e.2 = first ∨ e.2 = second ∧ ¬c.Holds k first)

variable {first second tag : τ} {c c' : Catalogue κ ι τ} {k : κ} {id : ι}

theorem best_of_none (none : c.found k = none) :
    Best first second c k ↔ ¬c.Holds k first ∧ ¬c.Holds k second := by
  rw [Best, none]

theorem best_of_some {e : κ × τ} (some : c.found k = some e) :
    Best first second c k ↔ e.1 = k ∧ (e.2 = first ∨ e.2 = second ∧ ¬c.Holds k first) := by
  rw [Best, some]

theorem Best.shrink (best : Best first second c k) (same : c'.found k = c.found k)
    (fewer : ∀ tag, tag = first ∨ tag = second → c'.Holds k tag → c.Holds k tag) :
    Best first second c' k := by
  unfold Best at best ⊢
  rw [same]
  cases found : c.found k with
  | none =>
    rw [found] at best
    exact ⟨mt (fewer first (.inl rfl)) best.1, mt (fewer second (.inr rfl)) best.2⟩
  | some e =>
    rw [found] at best
    exact ⟨best.1, best.2.imp_right fun other => ⟨other.1, mt (fewer first (.inl rfl)) other.2⟩⟩

section Changes
variable [DecidableEq ι]

/-- A new item, by which its key is found from now on. -/
def put [DecidableEq κ] (c : Catalogue κ ι τ) (id : ι) (k : κ) (tag : τ) : Catalogue κ ι τ where
  index := Function.update c.index k (some id)
  items := Function.update c.items id (some (k, tag))

def drop (c : Catalogue κ ι τ) (id : ι) : Catalogue κ ι τ :=
  { c with items := Function.update c.items id none }

def retag (c : Catalogue κ ι τ) (id : ι) (tag : τ) : Catalogue κ ι τ :=
  { c with items := Function.update c.items id ((c.items id).map fun e => (e.1, tag)) }

@[simp] theorem put_index [DecidableEq κ] :
    (c.put id k tag).index = Function.update c.index k (some id) := rfl

@[simp] theorem put_items [DecidableEq κ] :
    (c.put id k tag).items = Function.update c.items id (some (k, tag)) := rfl

@[simp] theorem drop_index : (c.drop id).index = c.index := rfl

@[simp] theorem drop_items : (c.drop id).items = Function.update c.items id none := rfl

@[simp] theorem retag_index : (c.retag id tag).index = c.index := rfl

@[simp] theorem retag_items : (c.retag id tag).items =
    Function.update c.items id ((c.items id).map fun e => (e.1, tag)) := rfl

theorem Pointed.put [DecidableEq κ] (pointed : c.Pointed) (unlisted : ∀ k, c.index k ≠ some id) :
    (c.put id k tag).Pointed := by
  intro k' i e listed item
  rw [put_index, Function.update_apply] at listed
  rw [put_items, Function.update_apply] at item
  split at listed
  case isTrue same =>
    cases listed
    rw [if_pos rfl] at item
    cases item
    exact same.symm
  case isFalse other =>
    have apart : i ≠ id := by
      rintro rfl
      exact unlisted k' listed
    rw [if_neg apart] at item
    exact pointed k' i e listed item

theorem Pointed.drop (pointed : c.Pointed) (id : ι) : (c.drop id).Pointed := by
  intro k i e listed item
  rw [drop_items, Function.update_apply] at item
  split at item
  case isTrue => cases item
  case isFalse => exact pointed k i e listed item

theorem Pointed.retag (pointed : c.Pointed) (id : ι) (tag : τ) : (c.retag id tag).Pointed := by
  intro k i e listed item
  rw [retag_items, Function.update_apply] at item
  split at item
  case isTrue same =>
    subst same
    obtain ⟨e', held, rfl⟩ := Option.map_eq_some_iff.mp item
    exact pointed k i e' listed held
  case isFalse => exact pointed k i e listed item

theorem holds_put [DecidableEq κ] (unused : c.items id = none) {k' : κ} {tag' : τ} :
    (c.put id k tag).Holds k' tag' ↔ k = k' ∧ tag = tag' ∨ c.Holds k' tag' := by
  unfold Holds
  rw [put_items]
  constructor
  · rintro ⟨other, held⟩
    by_cases same : other = id
    · rw [same, Function.update_self] at held
      cases held
      exact .inl ⟨rfl, rfl⟩
    · rw [Function.update_of_ne same] at held
      exact .inr ⟨other, held⟩
  · rintro (⟨rfl, rfl⟩ | ⟨other, held⟩)
    · exact ⟨id, Function.update_self ..⟩
    · refine ⟨other, ?_⟩
      rw [Function.update_of_ne, held]
      rintro rfl
      rw [held] at unused
      cases unused

theorem best_put_self [DecidableEq κ] (unused : c.items id = none) :
    Best first second (c.put id k tag) k ↔ tag = first ∨ tag = second ∧ ¬c.Holds k first := by
  have found : (c.put id k tag).found k = some (k, tag) := by
    rw [Catalogue.found, put_index, put_items, Function.update_self, Option.bind_some,
      Function.update_self]
  rw [best_of_some found, holds_put unused]
  simp only [true_and, not_or]
  constructor
  · rintro (same | ⟨same, -, none⟩)
    · exact .inl same
    · exact .inr ⟨same, none⟩
  · rintro (same | ⟨same, none⟩)
    · exact .inl same
    · by_cases also : tag = first
      · exact .inl also
      · exact .inr ⟨same, also, none⟩

theorem best_put_other [DecidableEq κ] (unused : c.items id = none)
    (unlisted : ∀ k, c.index k ≠ some id) {k' : κ} (other : k' ≠ k) :
    Best first second (c.put id k tag) k' ↔ Best first second c k' := by
  have same : (c.put id k tag).found k' = c.found k' := by
    rw [Catalogue.found, Catalogue.found, put_index, put_items, Function.update_of_ne other]
    cases listed : c.index k' with
    | none => rfl
    | some i =>
      rw [Option.bind_some, Option.bind_some, Function.update_of_ne]
      rintro rfl
      exact unlisted k' listed
  have held : ∀ tag', (c.put id k tag).Holds k' tag' ↔ c.Holds k' tag' := fun tag' => by
    rw [holds_put unused, or_iff_right fun both => other both.1.symm]
  rw [Best, Best, same]
  simp only [held]

theorem holds_of_drop (held : (c.drop id).Holds k tag) : c.Holds k tag := by
  obtain ⟨other, held⟩ := held
  rw [drop_items] at held
  by_cases same : other = id
  · rw [same, Function.update_self] at held
    cases held
  · rw [Function.update_of_ne same] at held
    exact ⟨other, held⟩

/-- The index leads nowhere for the key of the item that is lost, if it led there. -/
theorem best_drop (best : Best first second c k) :
    Best first second (c.drop id) k ↔
      (c.index k = some id → ¬(c.drop id).Holds k first ∧ ¬(c.drop id).Holds k second) := by
  by_cases here : c.index k = some id
  · have nowhere : (c.drop id).found k = none := by
      rw [found, drop_index, drop_items, here, Option.bind_some, Function.update_self]
    rw [best_of_none nowhere]
    exact ⟨fun none _ => none, fun none => none here⟩
  · refine iff_of_true (best.shrink ?_ fun _ _ => holds_of_drop) fun there => absurd there here
    rw [found, found, drop_index, drop_items]
    cases listed : c.index k with
    | none => rfl
    | some i =>
      rw [Option.bind_some, Option.bind_some, Function.update_of_ne]
      rintro rfl
      exact here listed

theorem found_retag_other (elsewhere : c.index k ≠ some id) : (c.retag id tag).found k = c.found k := by
  rw [found, found, retag_index, retag_items]
  cases listed : c.index k with
  | none => rfl
  | some i =>
    rw [Option.bind_some, Option.bind_some, Function.update_of_ne]
    rintro rfl
    exact elsewhere listed

theorem found_retag_self (here : c.index k = some id) :
    (c.retag id tag).found k = (c.items id).map fun e => (e.1, tag) := by
  rw [found, retag_index, retag_items, here, Option.bind_some, Function.update_self]

theorem holds_of_retag {tag' : τ} (held : (c.retag id tag).Holds k tag') :
    c.Holds k tag' ∨ tag' = tag ∧ ∃ e, c.items id = some e ∧ e.1 = k := by
  obtain ⟨other, held⟩ := held
  rw [retag_items] at held
  by_cases same : other = id
  · rw [same, Function.update_self] at held
    obtain ⟨e, item, same⟩ := Option.map_eq_some_iff.mp held
    cases same
    exact .inr ⟨rfl, e, item, rfl⟩
  · rw [Function.update_of_ne same] at held
    exact .inl ⟨other, held⟩

theorem best_retag_first (pointed : c.Pointed) (best : Best first second c k) {own : κ}
    (listed : c.index own = some id) : Best first second (c.retag id first) k := by
  by_cases here : c.index k = some id
  · cases item : c.items id with
    | none =>
      refine best.shrink ?_ fun tag _ held => ?_
      · rw [found_retag_self here, item, found, here, Option.bind_some, item]
        rfl
      · rcases holds_of_retag held with held | ⟨-, e, also, -⟩
        · exact held
        · rw [item] at also
          cases also
    | some e =>
      have found : (c.retag id first).found k = some (e.1, first) := by
        rw [found_retag_self here, item]
        rfl
      exact (best_of_some found).mpr ⟨pointed k id e here item, .inl rfl⟩
  · refine best.shrink (found_retag_other here) fun tag _ held => ?_
    rcases holds_of_retag held with held | ⟨-, e, item, same⟩
    · exact held
    · have owned := pointed own id e listed item
      rw [← same, owned] at here
      exact absurd listed here

theorem best_retag_useless (best : Best first second c k) (useless : tag ≠ first ∧ tag ≠ second)
    {e : κ × τ} (item : c.items id = some e) :
    Best first second (c.retag id tag) k ↔ c.index k ≠ some id := by
  constructor
  · intro best here
    have found : (c.retag id tag).found k = some (e.1, tag) := by
      rw [found_retag_self here, item]
      rfl
    rcases ((best_of_some found).mp best).2 with same | ⟨same, -⟩
    · exact useless.1 same
    · exact useless.2 same
  · intro here
    refine best.shrink (found_retag_other here) fun tag' wanted held => ?_
    rcases holds_of_retag held with held | ⟨rfl, -⟩
    · exact held
    · rcases wanted with same | same
      · exact absurd same useless.1
      · exact absurd same useless.2

end Changes
end Catalogue

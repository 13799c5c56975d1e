import Mathlib.Data.List.DropRight

/-! Queues of bounded length that make room by dropping their oldest element. -/
namespace DropOldest
variable {α : Type} {cap : Nat}

def push (cap : Nat) (queue : List α) (x : α) : List α :=
  (if cap ≤ queue.length then queue.tail else queue) ++ [x]

/-- How many elements a push drops. -/
def lost (cap : Nat) (queue : List α) : Nat := if cap ≤ queue.length then 1 else 0

theorem length_push (positive : 0 < cap) (queue : List α) (x : α) :
    (push cap queue x).length + lost cap queue = queue.length + 1 := by
  unfold push lost
  split
  case isTrue full =>
    rw [List.length_append, List.length_tail, List.length_singleton]
    omega
  case isFalse => simp

theorem length_push_le (positive : 0 < cap) {queue : List α} (bounded : queue.length ≤ cap) (x : α) :
    (push cap queue x).length ≤ cap := by
  have account := length_push positive queue x
  unfold lost at account
  split at account <;> omega

theorem push_suffix {queue xs : List α} (h : queue <:+ xs) (x : α) :
    push cap queue x <:+ xs ++ [x] := by
  obtain ⟨earlier, rfl⟩ := h
  unfold push
  rw [List.append_assoc]
  refine List.IsSuffix.trans ?_ (List.suffix_append _ _)
  split
  · obtain ⟨first, same⟩ := List.tail_suffix queue
    exact ⟨first, by rw [← List.append_assoc, same]⟩
  · exact List.suffix_rfl

theorem push_sublist {queue xs : List α} (h : queue.Sublist xs) (x : α) :
    (push cap queue x).Sublist (xs ++ [x]) := by
  unfold push
  apply List.Sublist.append_right
  split
  · exact (List.tail_sublist queue).trans h
  · exact h

theorem foldl_push (positive : 0 < cap) {queue : List α} (bounded : queue.length ≤ cap) (xs : List α) :
    xs.foldl (push cap) queue = (queue ++ xs).rtake cap := by
  induction xs generalizing queue with
  | nil =>
    have all : queue.length - cap = 0 := Nat.sub_eq_zero_of_le bounded
    rw [List.append_nil, List.rtake, all]
    rfl
  | cons x rest ih =>
    rw [List.foldl_cons, ih (length_push_le positive bounded x)]
    unfold push List.rtake
    split
    case isFalse => rw [List.append_assoc, List.singleton_append]
    case isTrue full =>
      -- the queue is full, so its first element is not among the newest ones either
      cases queue with
      | nil => exact absurd full (Nat.not_le_of_lt positive)
      | cons first queue =>
        have more : (first :: queue ++ x :: rest).length - cap =
            (queue ++ [x] ++ rest).length - cap + 1 := by
          simp at full ⊢
          omega
        rw [more, List.tail_cons, List.append_assoc, List.singleton_append]
        rfl

theorem suffix_foldl_push (positive : 0 < cap) {newest xs : List α} (last : newest <:+ xs)
    (fits : newest.length ≤ cap) : newest <:+ xs.foldl (push cap) [] := by
  have none : ([] : List α).length ≤ cap := Nat.zero_le cap
  rw [foldl_push positive none, List.nil_append]
  apply List.suffix_of_suffix_length_le last (List.drop_suffix _ xs)
  have shorter := last.length_le
  rw [List.length_drop]
  omega

theorem foldl_push_eq_iff (positive : 0 < cap) (xs : List α) :
    xs.foldl (push cap) [] = xs ↔ xs.length ≤ cap := by
  have none : ([] : List α).length ≤ cap := Nat.zero_le cap
  rw [foldl_push positive none, List.nil_append, List.rtake]
  constructor
  · intro same
    have length := congrArg List.length same
    rw [List.length_drop] at length
    omega
  · intro fits
    rw [Nat.sub_eq_zero_of_le fits, List.drop_zero]

end DropOldest

import Mathlib.Data.List.GetD
import Mathlib.Data.List.Infix
import Mathlib.Order.Monotone.Basic

/-!
# Places of the pieces of a list

A list that is put together from pieces has each of them at the total length of
the pieces before it.  If no piece is empty, different pieces have different
places, in their order.
-/

namespace Foundation

universe u

variable {α : Type u}

/-- The place of a piece: the total length of those before it. -/
def offsetOf (pieces : List (List α)) (index : Nat) : Nat :=
  (pieces.take index).flatten.length

variable {pieces : List (List α)}

@[simp] theorem offsetOf_zero : offsetOf pieces 0 = 0 := rfl

theorem offsetOf_length :
    offsetOf pieces pieces.length = pieces.flatten.length := by
  rw [offsetOf, List.take_length]

theorem take_succ_flatten {index : Nat} (bound : index < pieces.length) :
    (pieces.take (index + 1)).flatten =
      (pieces.take index).flatten ++ pieces.getD index [] := by
  rw [List.take_succ_eq_append_getElem bound, List.flatten_append,
    List.flatten_singleton, List.getD_eq_getElem _ _ bound]

/-- The next piece begins where a piece ends. -/
theorem offsetOf_succ {index : Nat} (bound : index < pieces.length) :
    offsetOf pieces (index + 1) =
      offsetOf pieces index + (pieces.getD index []).length := by
  rw [offsetOf, take_succ_flatten bound, List.length_append, offsetOf]

theorem getD_ne_nil
    (nonempty : ∀ piece ∈ pieces, piece ≠ []) {index : Nat}
    (bound : index < pieces.length) : pieces.getD index [] ≠ [] := by
  rw [List.getD_eq_getElem _ _ bound]
  exact nonempty _ (List.getElem_mem bound)

/-- Later pieces have later places. -/
theorem offsetOf_add_length_le
    {index later : Nat} (before : index < later)
    (bound : later ≤ pieces.length) :
    offsetOf pieces index + (pieces.getD index []).length ≤
      offsetOf pieces later := by
  rw [← offsetOf_succ (before.trans_le bound)]
  have isPrefix : pieces.take (index + 1) <+: pieces.take later :=
    List.take_prefix_take_left (by omega)
  exact isPrefix.flatten.length_le

theorem offsetOf_lt
    (nonempty : ∀ piece ∈ pieces, piece ≠ []) {index later : Nat}
    (before : index < later) (bound : later ≤ pieces.length) :
    offsetOf pieces index < offsetOf pieces later := by
  have covered := offsetOf_add_length_le before bound
  have positive :=
    List.length_pos_of_ne_nil (getD_ne_nil nonempty (before.trans_le bound))
  omega

/-- A place belongs to one piece. -/
theorem offsetOf_inj
    (nonempty : ∀ piece ∈ pieces, piece ≠ []) {index other : Nat}
    (bound : index ≤ pieces.length) (otherBound : other ≤ pieces.length)
    (same : offsetOf pieces index = offsetOf pieces other) : index = other := by
  rcases Nat.lt_trichotomy index other with before | equal | after
  · exact absurd same (offsetOf_lt nonempty before otherBound).ne
  · exact equal
  · exact absurd same (offsetOf_lt nonempty after bound).ne'

end Foundation

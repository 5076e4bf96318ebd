import Mathlib.Data.List.Infix

/-!
# Streams that arrive in pieces

The reading end of a stream: every read returns a piece of what is still to
come, not empty and not longer than asked for, and an empty piece when the
stream has ended.  How much of the stream has arrived at each read is left
open.
-/

namespace Foundation

universe u

/-- The rest of a stream, and how much of it has arrived at each read. -/
structure Inflow (α : Type u) where
  incoming : List α
  available : Nat → Nat

namespace Inflow

variable {α : Type u}

/-- Read a piece of a length at most. -/
def recv (inflow : Inflow α) (limit : Nat) : List α × Inflow α :=
  let count := min limit (max 1 (inflow.available 0))
  (inflow.incoming.take count,
    ⟨inflow.incoming.drop count, fun read => inflow.available (read + 1)⟩)

theorem recv_append (inflow : Inflow α) (limit : Nat) :
    (inflow.recv limit).1 ++ (inflow.recv limit).2.incoming =
      inflow.incoming :=
  List.take_append_drop _ _

theorem length_recv_le (inflow : Inflow α) (limit : Nat) :
    (inflow.recv limit).1.length ≤ limit :=
  (List.length_take_le _ _).trans (Nat.min_le_left _ _)

/-- Only a stream that has ended has no more pieces. -/
theorem recv_eq_nil_iff (inflow : Inflow α) {limit : Nat} (asks : 0 < limit) :
    (inflow.recv limit).1 = [] ↔ inflow.incoming = [] := by
  have positive : min limit (max 1 (inflow.available 0)) ≠ 0 := by omega
  simp [recv, List.take_eq_nil_iff, positive]

end Inflow

end Foundation

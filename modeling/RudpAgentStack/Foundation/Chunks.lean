import Mathlib.Data.List.Basic

/-!
# Data in chunks

A stream is read in chunks until a read returns nothing.  A state that is
updated with the chunks, one after the other, is the state updated with all
data at once, if updating is a homomorphism over concatenation.
-/

namespace Foundation

variable {α σ : Type}

/-- The chunks read from data, at most `size` elements at a time, until a read
returns nothing. -/
def readChunks (size : Nat) (data : List α) : List (List α) :=
  if data.take size = [] then []
  else data.take size :: readChunks size (data.drop size)
termination_by data.length
decreasing_by
  rename_i more
  rw [List.take_eq_nil_iff, not_or] at more
  have nonempty := List.length_pos_iff.mpr more.2
  rw [List.length_drop]
  omega

/-- Reading in chunks loses nothing. -/
theorem flatten_readChunks {size : Nat} (positive : 0 < size) (data : List α) :
    (readChunks size data).flatten = data := by
  fun_induction readChunks size data with
  | case1 data ended =>
      rw [List.take_eq_nil_iff] at ended
      exact (ended.resolve_left (Nat.ne_of_gt positive)).symm
  | case2 data more inductionHypothesis =>
      rw [List.flatten_cons, inductionHypothesis, List.take_append_drop]

/-- Updating a state is a homomorphism over concatenation. -/
structure Incremental (update : σ → List α → σ) : Prop where
  nil : ∀ state, update state [] = state
  append : ∀ state first second,
    update (update state first) second = update state (first ++ second)

namespace Incremental

variable {update : σ → List α → σ} (incremental : Incremental update)

include incremental

/-- Chunks update a state as the data they are chunks of. -/
theorem foldl (chunks : List (List α)) (state : σ) :
    chunks.foldl update state = update state chunks.flatten := by
  induction chunks generalizing state with
  | nil => exact (incremental.nil state).symm
  | cons chunk chunks inductionHypothesis =>
      rw [List.foldl_cons, inductionHypothesis, incremental.append,
        List.flatten_cons]

/-- Chunks that are read update a state as all data at once. -/
theorem foldl_readChunks
    {size : Nat} (positive : 0 < size) (data : List α) (state : σ) :
    (readChunks size data).foldl update state = update state data := by
  rw [incremental.foldl, flatten_readChunks positive]

end Incremental

end Foundation

import Mathlib.Data.List.Induction
import Mathlib.Data.List.Infix
import Mathlib.Tactic.Ring

/-!
# Cutting messages into segments and putting them together again

A message is cut into slices of bounded size, the last of which is marked.
Reassembly appends the contents of segments to a pending message and completes
it at a marked segment.  Reassembling the segments of a list of messages gives
these messages back, and reassembling a prefix of the segments gives a prefix
of the messages.
-/

namespace Foundation

universe u

variable {α : Type u}

/-- Consecutive slices of a list.  An empty list has one empty slice. -/
def slices (size : Nat) (message : List α) : List (List α) :=
  (List.range ((max message.length 1 + (size - 1)) / size)).map fun index =>
    (message.drop (index * size)).take size

/-- The first slices of a list are a prefix of it. -/
private theorem flatten_range_slices
    (size count : Nat) (message : List α) :
    ((List.range count).map fun index =>
        (message.drop (index * size)).take size).flatten =
      message.take (count * size) := by
  induction count with
  | zero => simp
  | succ count inductionHypothesis =>
      rw [List.range_succ, List.map_append, List.flatten_append,
        inductionHypothesis, Nat.succ_mul, List.take_add]
      simp

/-- The slices of a list put it together again. -/
theorem flatten_slices
    {size : Nat} (positive : 0 < size) (message : List α) :
    (slices size message).flatten = message := by
  rw [slices, flatten_range_slices]
  apply List.take_of_length_le
  have covered :
      max message.length 1 ≤
        (max message.length 1 + (size - 1)) / size * size := by
    have := Nat.div_add_mod (max message.length 1 + (size - 1)) size
    have := Nat.mod_lt (max message.length 1 + (size - 1)) positive
    rw [mul_comm]
    omega
  omega

/-- Every list has at least one slice. -/
theorem slices_ne_nil
    {size : Nat} (positive : 0 < size) (message : List α) :
    slices size message ≠ [] := by
  have atLeastOne : 0 < (max message.length 1 + (size - 1)) / size :=
    Nat.div_pos (by omega) positive
  simp only [slices, ne_eq, List.map_eq_nil_iff, List.range_eq_nil]
  omega

/-- No slice is longer than the chosen size. -/
theorem length_le_of_mem_slices
    {size : Nat} {message slice : List α}
    (member : slice ∈ slices size message) :
    slice.length ≤ size := by
  obtain ⟨index, _, rfl⟩ := List.mem_map.mp member
  exact List.length_take_le _ _

/-- A segment carries a slice and says whether it ends its message. -/
abbrev Segment (α : Type u) := List α × Bool

/-- Mark the last slice of a message. -/
def markLast : List (List α) → List (Segment α)
  | [] => []
  | slice :: rest => (slice, rest.isEmpty) :: markLast rest

@[simp] theorem markLast_nil : markLast ([] : List (List α)) = [] := rfl

@[simp] theorem markLast_cons (slice : List α) (rest : List (List α)) :
    markLast (slice :: rest) = (slice, rest.isEmpty) :: markLast rest := rfl

/-- Completed messages and the contents of the message under way. -/
@[ext] structure Reassembly (α : Type u) where
  /-- The completed messages, in order. -/
  messages : List (List α)
  /-- The contents received of the next message. -/
  pending : List α

namespace Reassembly

/-- Nothing has been received. -/
def start : Reassembly α := ⟨[], []⟩

/-- Take one more segment. -/
def feed (state : Reassembly α) (segment : Segment α) : Reassembly α :=
  if segment.2 then ⟨state.messages ++ [state.pending ++ segment.1], []⟩
  else ⟨state.messages, state.pending ++ segment.1⟩

/-- Take a list of segments. -/
def feedAll (state : Reassembly α) (segments : List (Segment α)) :
    Reassembly α :=
  segments.foldl feed state

@[simp] theorem feedAll_nil (state : Reassembly α) :
    state.feedAll [] = state := rfl

@[simp] theorem feedAll_cons
    (state : Reassembly α) (segment : Segment α) (rest : List (Segment α)) :
    state.feedAll (segment :: rest) = (state.feed segment).feedAll rest := rfl

@[simp] theorem feedAll_append
    (state : Reassembly α) (first second : List (Segment α)) :
    state.feedAll (first ++ second) = (state.feedAll first).feedAll second := by
  simp [feedAll]

/-- Everything received so far, completed messages first. -/
def contents (state : Reassembly α) : List α :=
  state.messages.flatten ++ state.pending

/-- Reassembly neither loses nor repeats contents. -/
theorem contents_feed (state : Reassembly α) (segment : Segment α) :
    (state.feed segment).contents = state.contents ++ segment.1 := by
  unfold feed contents
  split <;> simp

/-- What was received is the concatenation of what was fed. -/
theorem contents_feedAll
    (state : Reassembly α) (segments : List (Segment α)) :
    (state.feedAll segments).contents =
      state.contents ++ (segments.map Prod.fst).flatten := by
  induction segments generalizing state with
  | nil => simp
  | cons segment rest inductionHypothesis =>
      rw [feedAll_cons, inductionHypothesis, contents_feed]
      simp

/-- Completed messages are never taken back. -/
theorem messages_prefix_feed (state : Reassembly α) (segment : Segment α) :
    state.messages <+: (state.feed segment).messages := by
  unfold feed
  split
  · exact List.prefix_append _ _
  · exact List.prefix_rfl

theorem messages_prefix_feedAll
    (state : Reassembly α) (segments : List (Segment α)) :
    state.messages <+: (state.feedAll segments).messages := by
  induction segments generalizing state with
  | nil => exact List.prefix_rfl
  | cons segment rest inductionHypothesis =>
      exact (state.messages_prefix_feed segment).trans
        (inductionHypothesis (state.feed segment))

/-- The segments of one message complete exactly that message. -/
theorem feedAll_markLast
    (state : Reassembly α)
    {parts : List (List α)}
    (nonempty : parts ≠ []) :
    state.feedAll (markLast parts) =
      ⟨state.messages ++ [state.pending ++ parts.flatten], []⟩ := by
  induction parts generalizing state with
  | nil => exact absurd rfl nonempty
  | cons slice rest inductionHypothesis =>
      rw [markLast_cons, feedAll_cons]
      cases rest with
      | nil => simp [feed]
      | cons next rest =>
          rw [inductionHypothesis _ (by simp)]
          simp [feed]

/-- Reassembling a prefix of a sequence of segments completes a prefix of the
messages that the whole sequence completes. -/
theorem messages_feedAll_prefix_of_prefix
    (state : Reassembly α)
    {shorter longer : List (Segment α)}
    (isPrefix : shorter <+: longer) :
    (state.feedAll shorter).messages <+: (state.feedAll longer).messages := by
  obtain ⟨rest, rfl⟩ := isPrefix
  rw [feedAll_append]
  exact messages_prefix_feedAll _ rest

end Reassembly

end Foundation

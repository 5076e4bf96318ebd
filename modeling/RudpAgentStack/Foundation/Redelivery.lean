import RudpAgentStack.Foundation.Framing

/-!
# Reassembly with failing completions

Completing a message may fail.  Then the contents of the marked segment stay in
the pending message, and the segment is fed once more later.  Contents fed more
than once end up in the message; nothing is lost.  So the messages come out
right exactly if the contents of every failed completion are empty.
-/

namespace Foundation

universe u

variable {α : Type u}

namespace Reassembly

/-- A failed completion: the contents are kept, the message is not
completed. -/
def feedFailing (state : Reassembly α) (segment : Segment α) : Reassembly α :=
  ⟨state.messages, state.pending ++ segment.1⟩

/-- What is left of feeding the first segments, where completions have failed
with the contents in `repeated`.  The surplus is what failed completions of the
next segment have left in the pending message. -/
structure Redelivered
    (segments : List (Segment α)) (count : Nat) (state : Reassembly α)
    (repeated : List (List α)) : Prop where
  count_le : count ≤ segments.length
  surplus : ∃ surplus,
    state.pending =
      (start.feedAll (segments.take count)).pending ++ surplus ∧
    (surplus ≠ [] → ∃ contents, segments[count]? = some (contents, true)) ∧
    state.messages.flatten.length + surplus.length =
      (start.feedAll (segments.take count)).messages.flatten.length +
        repeated.flatten.length ∧
    (repeated.flatten = [] →
      state.messages = (start.feedAll (segments.take count)).messages)

namespace Redelivered

variable {segments : List (Segment α)} {count : Nat} {state : Reassembly α}
  {repeated : List (List α)} {segment : Segment α}

theorem start (segments : List (Segment α)) :
    Redelivered segments 0 Reassembly.start [] :=
  ⟨Nat.zero_le _, [], rfl, fun nonempty => absurd rfl nonempty, rfl,
    fun _ => rfl⟩

/-- A failed completion. -/
theorem feedFailing (redelivered : Redelivered segments count state repeated)
    (next : segments[count]? = some segment) (marked : segment.2 = true) :
    Redelivered segments count (state.feedFailing segment)
      (repeated ++ [segment.1]) := by
  obtain ⟨bound, surplus, pending, _, lengths, right⟩ := redelivered
  refine ⟨bound, surplus ++ segment.1, ?_, ?_, ?_, ?_⟩
  · rw [Reassembly.feedFailing, pending, List.append_assoc]
  · intro _
    exact ⟨segment.1, by rw [next, ← marked]⟩
  · simp only [Reassembly.feedFailing, List.length_append,
      List.flatten_append, List.flatten_singleton]
    omega
  · intro nothing
    rw [List.flatten_append, List.append_eq_nil_iff] at nothing
    exact right nothing.1

/-- The next segment is fed. -/
theorem feed (redelivered : Redelivered segments count state repeated)
    (next : segments[count]? = some segment) :
    Redelivered segments (count + 1) (state.feed segment) repeated := by
  obtain ⟨bound, surplus, pending, waiting, lengths, right⟩ := redelivered
  have inside := (List.getElem?_eq_some_iff.mp next).1
  have fed : Reassembly.start.feedAll (segments.take (count + 1)) =
      (Reassembly.start.feedAll (segments.take count)).feed segment := by
    rw [List.take_add_one, next, Option.toList_some, feedAll_append,
      feedAll_cons, feedAll_nil]
  cases marked : segment.2 with
  | true =>
      -- the surplus goes into the message
      refine ⟨inside, [], ?_, fun nonempty => absurd rfl nonempty, ?_, ?_⟩
      · simp [fed, Reassembly.feed, marked]
      · simp only [fed, Reassembly.feed, marked, if_true, pending,
          List.flatten_append, List.flatten_singleton, List.length_append,
          List.length_nil]
        omega
      · intro nothing
        have messages := right nothing
        rw [messages, nothing] at lengths
        have none : surplus = [] := by
          rw [← List.length_eq_zero_iff]
          simpa using lengths
        simp only [fed, Reassembly.feed, marked, if_true, pending, none,
          messages, List.append_nil]
  | false =>
      have none : surplus = [] := by
        by_contra nonempty
        obtain ⟨contents, final⟩ := waiting nonempty
        rw [next, Option.some.injEq] at final
        rw [final] at marked
        exact absurd marked (by simp)
      subst none
      refine ⟨inside, [], ?_, fun nonempty => absurd rfl nonempty, ?_, ?_⟩
      · simp [fed, Reassembly.feed, marked, pending]
      · simpa [fed, Reassembly.feed, marked] using lengths
      · simpa [fed, Reassembly.feed, marked] using right

/-- Once all segments are fed, the messages are right exactly if the failed
completions had no contents. -/
theorem messages_eq_iff
    (redelivered : Redelivered segments segments.length state repeated) :
    state.messages = (Reassembly.start.feedAll segments).messages ↔
      ∀ contents ∈ repeated, contents = [] := by
  obtain ⟨_, surplus, _, waiting, lengths, right⟩ := redelivered
  rw [List.take_length] at lengths right
  have none : surplus = [] := by
    by_contra nonempty
    obtain ⟨contents, beyond⟩ := waiting nonempty
    rw [List.getElem?_eq_none le_rfl] at beyond
    exact absurd beyond (by simp)
  rw [← List.flatten_eq_nil_iff]
  constructor
  · intro messages
    rw [messages, none, List.length_nil] at lengths
    rw [← List.length_eq_zero_iff]
    omega
  · exact right

end Redelivered

end Reassembly

end Foundation

import Mathlib.Data.List.Infix
import Mathlib.Data.List.TakeWhile

/-!
# Splitting at separators

A list is cut at the first place where a separator stands, or at every such
place from the left.  For a separator of one element, the part before the first
cut is the longest prefix without it.
-/

namespace Foundation

universe u

variable {α : Type u} [DecidableEq α]

/-- The parts of a list before and after the first place of a separator. -/
def partition? (separator : List α) : List α → Option (List α × List α)
  | [] => if separator = [] then some ([], []) else none
  | element :: rest =>
      if separator.isPrefixOf (element :: rest) then
        some ([], (element :: rest).drop separator.length)
      else
        (partition? separator rest).map fun (before, after) =>
          (element :: before, after)

/-- Cut a list at a separator, at most so many times. -/
def cutAt (separator : List α) : (fuel : Nat) → List α → List (List α)
  | 0, list => [list]
  | fuel + 1, list =>
      match partition? separator list with
      | none => [list]
      | some (before, after) => before :: cutAt separator fuel after

/-- Cut a list at every place of a separator, from the left. -/
def cut (separator list : List α) : List (List α) :=
  cutAt separator list.length list

section Partition

variable {separator text before after : List α}

theorem partition?_cons_of_match
    {element : α} {rest : List α} (isPrefix : separator <+: element :: rest) :
    partition? separator (element :: rest) =
      some ([], (element :: rest).drop separator.length) := by
  rw [partition?, if_pos]
  rwa [List.isPrefixOf_iff_prefix]

theorem partition?_cons_of_mismatch
    {element : α} {rest : List α}
    (noPrefix : ¬ separator <+: element :: rest) :
    partition? separator (element :: rest) =
      (partition? separator rest).map fun (before, after) =>
        (element :: before, after) := by
  rw [partition?, if_neg]
  rwa [List.isPrefixOf_iff_prefix]

/-- A separator at the start. -/
theorem partition?_self
    (nonempty : separator ≠ []) (rest : List α) :
    partition? separator (separator ++ rest) = some ([], rest) := by
  obtain ⟨element, others, rfl⟩ := List.exists_cons_of_ne_nil nonempty
  have isPrefix : element :: others <+: element :: (others ++ rest) :=
    List.prefix_append (element :: others) rest
  rw [List.cons_append, partition?_cons_of_match isPrefix,
    ← List.cons_append, List.drop_left]

/-- Elements that do not start the separator are passed over. -/
theorem partition?_append_of_not_mem
    {element : α} {others : List α} (absent : element ∉ before)
    (text : List α) :
    partition? (element :: others) (before ++ text) =
      (partition? (element :: others) text).map fun (first, second) =>
        (before ++ first, second) := by
  induction before with
  | nil => simp
  | cons head before inductionHypothesis =>
      rw [List.mem_cons, not_or] at absent
      rw [List.cons_append, partition?_cons_of_mismatch,
        inductionHypothesis absent.2, Option.map_map]
      · rfl
      · rintro ⟨_, same⟩
        exact absent.1 (List.cons.inj same).1

/-- The parts and the separator make up the list. -/
theorem append_of_partition?
    (found : partition? separator text = some (before, after)) :
    before ++ separator ++ after = text := by
  induction text generalizing before with
  | nil =>
      unfold partition? at found
      split at found
      · next empty =>
          cases found
          rw [empty]
          rfl
      · cases found
  | cons element text inductionHypothesis =>
      by_cases isPrefix : separator <+: element :: text
      · rw [partition?_cons_of_match isPrefix] at found
        cases found
        rw [List.nil_append, List.prefix_iff_eq_append.mp isPrefix]
      · rw [partition?_cons_of_mismatch isPrefix, Option.map_eq_some_iff]
          at found
        obtain ⟨⟨first, second⟩, found, same⟩ := found
        cases same
        rw [List.cons_append, List.cons_append, inductionHypothesis found]

/-- What follows does not move the first place of the separator. -/
theorem partition?_append_of_some
    (found : partition? separator text = some (before, after))
    (more : List α) :
    partition? separator (text ++ more) = some (before, after ++ more) := by
  induction text generalizing before with
  | nil =>
      unfold partition? at found
      split at found
      · next empty =>
          cases found
          subst empty
          cases more <;> simp [partition?]
      · cases found
  | cons element text inductionHypothesis =>
      by_cases isPrefix : separator <+: element :: text
      · rw [partition?_cons_of_match isPrefix] at found
        cases found
        have stillPrefix : separator <+: element :: (text ++ more) :=
          isPrefix.trans (List.prefix_append _ more)
        rw [List.cons_append, partition?_cons_of_match stillPrefix,
          ← List.cons_append, List.drop_append_of_le_length isPrefix.length_le]
      · rw [partition?_cons_of_mismatch isPrefix, Option.map_eq_some_iff]
          at found
        obtain ⟨⟨first, second⟩, found, same⟩ := found
        cases same
        rw [List.cons_append, partition?_cons_of_mismatch,
          inductionHypothesis found]
        · rfl
        · intro spanning
          have short : separator.length ≤ (element :: text).length := by
            rw [← append_of_partition? found]
            simp only [List.length_cons, List.length_append]
            omega
          exact isPrefix (List.prefix_of_prefix_length_le spanning
            (List.prefix_append (element :: text) more) short)

/-- An element that is not in the separator keeps what is before it apart from
what follows. -/
theorem partition?_append_of_none
    (notFound : partition? separator text = none) {element : α}
    (absent : element ∉ separator) (more : List α) :
    partition? separator (text ++ element :: more) =
      (partition? separator (element :: more)).map fun (first, second) =>
        (text ++ first, second) := by
  induction text with
  | nil => simp
  | cons head text inductionHypothesis =>
      by_cases isPrefix : separator <+: head :: text
      · rw [partition?_cons_of_match isPrefix] at notFound
        cases notFound
      · rw [partition?_cons_of_mismatch isPrefix, Option.map_eq_none_iff]
          at notFound
        rw [List.cons_append, partition?_cons_of_mismatch,
          inductionHypothesis notFound, Option.map_map]
        · rfl
        · intro spanning
          rw [← List.cons_append] at spanning
          rcases List.prefix_or_prefix_of_prefix spanning
              (List.prefix_append (head :: text) _) with within | beyond
          · exact isPrefix within
          · obtain ⟨tail, rfl⟩ := beyond
            rw [List.prefix_append_right_inj] at spanning
            cases tail with
            | nil => exact isPrefix (by simp)
            | cons first tail =>
                obtain ⟨_, same⟩ := spanning
                refine absent (List.mem_append_right _ ?_)
                rw [← (List.cons.inj same).1]
                exact List.mem_cons_self

/-! ## Cuts -/

/-- The first part of a list that is cut. -/
theorem head?_cut (separator text : List α) :
    (cut separator text).head? =
      some (((partition? separator text).map Prod.fst).getD text) := by
  unfold cut
  cases text with
  | nil =>
      unfold partition?
      split <;> rfl
  | cons element text =>
      rw [List.length_cons, cutAt]
      cases partition? separator (element :: text) <;> rfl

/-- The part before the first place of a single element. -/
theorem head?_splitOn (element : α) (text : List α) :
    (text.splitOn element).head? = some (text.takeWhile (· ≠ element)) := by
  have split := List.takeWhile_append_dropWhile (p := (· ≠ element)) (l := text)
  have absent : element ∉ text.takeWhile (· ≠ element) := by
    intro member
    simpa using List.mem_takeWhile_imp member
  cases rest : text.dropWhile (· ≠ element) with
  | nil =>
      rw [rest, List.append_nil] at split
      rw [split] at absent ⊢
      rw [List.splitOn_eq_singleton absent, List.head?_cons]
  | cons head rest' =>
      have isElement : head = element := by
        have nonempty : text.dropWhile (· ≠ element) ≠ [] := by
          rw [rest]
          exact List.cons_ne_nil _ _
        have stops := List.head_dropWhile_not _ nonempty
        simp only [rest, List.head_cons] at stops
        simpa using stops
      rw [rest, isElement] at split
      conv_lhs => rw [← split]
      rw [List.splitOn_append_cons_self_of_not_mem absent, List.head?_cons]

end Partition

end Foundation

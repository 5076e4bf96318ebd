import Mathlib.Data.List.Infix

/-!
# Phrases in composed texts

A text is put between two fixed ones.  Where a phrase cannot reach from the
text into what surrounds it, it occurs in the whole exactly when it occurs in
the text.
-/

namespace Foundation

universe u

variable {α : Type u} {phrase left right text : List α}

/-- A phrase in a text of two parts is in one of them, or begins in the first
and ends in the second. -/
theorem infix_append_iff :
    phrase <:+: left ++ right ↔
      phrase <:+: left ∨ phrase <:+: right ∨
        ∃ head tail, head ≠ [] ∧ tail ≠ [] ∧ phrase = head ++ tail ∧
          head <:+ left ∧ tail <+: right := by
  constructor
  · rintro ⟨before, behind, split⟩
    rcases List.append_eq_append_iff.mp split with
      ⟨rest, left_eq, -⟩ | ⟨tail, leftEnds, right_eq⟩
    · exact .inl ⟨before, rest, left_eq.symm⟩
    rcases List.append_eq_append_iff.mp leftEnds with
      ⟨head, left_eq, phrase_eq⟩ | ⟨gap, before_eq, tail_eq⟩
    · subst left_eq phrase_eq right_eq
      by_cases noHead : head = []
      · subst noHead
        exact .inr (.inl ((List.prefix_append _ _).isInfix))
      by_cases noTail : tail = []
      · subst noTail
        rw [List.append_nil]
        exact .inl ((List.suffix_append _ _).isInfix)
      · exact .inr (.inr ⟨head, tail, noHead, noTail, rfl,
          List.suffix_append _ _, List.prefix_append _ _⟩)
    · refine .inr (.inl ⟨gap, behind, ?_⟩)
      rw [right_eq, tail_eq]
  · rintro (inLeft | inRight | ⟨head, tail, -, -, rfl, ⟨before, rfl⟩,
      ⟨behind, rfl⟩⟩)
    · exact List.infix_append_of_infix_left inLeft
    · exact List.infix_append_of_infix_right inRight
    · refine ⟨before, behind, ?_⟩
      simp only [List.append_assoc]

/-- No phrase begins at the end of a text. -/
def NoneBegins (phrase text : List α) : Prop :=
  ∀ length ∈ List.range phrase.length, ¬ phrase.take (length + 1) <:+ text

/-- No phrase ends at the beginning of a text. -/
def NoneEnds (phrase text : List α) : Prop :=
  ∀ length ∈ List.range phrase.length, ¬ phrase.drop length <+: text

instance [DecidableEq α] : Decidable (NoneBegins phrase text) :=
  inferInstanceAs (Decidable (∀ _ ∈ _, _))

instance [DecidableEq α] : Decidable (NoneEnds phrase text) :=
  inferInstanceAs (Decidable (∀ _ ∈ _, _))

/-- A text at the end of which no phrase begins has none in it that reaches
beyond it. -/
theorem NoneBegins.infix_append_iff
    (noneBegins : NoneBegins phrase left) (absent : ¬ phrase <:+: left) :
    phrase <:+: left ++ right ↔ phrase <:+: right := by
  rw [Foundation.infix_append_iff]
  refine ⟨?_, fun inRight => .inr (.inl inRight)⟩
  rintro (inLeft | inRight | ⟨head, tail, nonempty, -, rfl, ends, -⟩)
  · exact absurd inLeft absent
  · exact inRight
  · have positive := List.length_pos_of_ne_nil nonempty
    refine absurd ?_ (noneBegins (head.length - 1) ?_)
    · rw [Nat.sub_add_cancel positive, List.take_left]
      exact ends
    · rw [List.mem_range, List.length_append]
      omega

theorem NoneEnds.infix_append_iff
    (noneEnds : NoneEnds phrase right) (absent : ¬ phrase <:+: right) :
    phrase <:+: left ++ right ↔ phrase <:+: left := by
  rw [Foundation.infix_append_iff]
  refine ⟨?_, .inl⟩
  rintro (inLeft | inRight | ⟨head, tail, -, nonempty, rfl, -, begins⟩)
  · exact inLeft
  · exact absurd inRight absent
  · have positive := List.length_pos_of_ne_nil nonempty
    refine absurd ?_ (noneEnds head.length ?_)
    · rw [List.drop_left]
      exact begins
    · rw [List.mem_range, List.length_append]
      omega

/-- Whether a phrase ends at the beginning of a text is seen from how the text
starts. -/
theorem NoneEnds.of_start
    {start : List α}
    (apart : ∀ length ∈ List.range phrase.length,
      ¬ phrase.drop length <+: start ∧ ¬ start <+: phrase.drop length)
    (rest : List α) : NoneEnds phrase (start ++ rest) := by
  intro length short begins
  obtain ⟨longer, shorter⟩ := apart length short
  rcases List.prefix_or_prefix_of_prefix begins (List.prefix_append start rest)
    with within | beyond
  · exact longer within
  · exact shorter beyond

/-- A phrase is in no text that lacks one of its elements. -/
theorem not_infix_of_not_mem
    {element : α} (member : element ∈ phrase) (lacks : element ∉ text) :
    ¬ phrase <:+: text :=
  fun occurs => lacks (occurs.subset member)

end Foundation

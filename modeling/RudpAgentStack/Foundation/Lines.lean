import RudpAgentStack.Foundation.Text

/-!
# Two ways to cut a text into lines

`splitlines` cuts a text at many characters and drops them, a file object only
at `\n`, which it keeps.  Without `\r` the first cuts what the second yields
further.
-/

namespace Foundation

namespace Text

/-! ## Universal newlines -/

/-- Reading in text mode leaves no `\r`. -/
theorem return_not_mem_universalNewlines (text : Text) :
    (0x0D : CodePoint) ∉ universalNewlines text := by
  induction text using universalNewlines.induct with
  | case1 => simp [universalNewlines]
  | case2 point =>
      rw [universalNewlines]
      split <;> simp_all [eq_comm]
  | case3 point next rest pair inductionHypothesis =>
      rw [universalNewlines, if_pos pair]
      simpa using inductionHypothesis
  | case4 point next rest pair inductionHypothesis =>
      rw [universalNewlines, if_neg pair]
      split <;> simp_all [eq_comm]

/-- Reading in text mode brings in no other character than `\n`. -/
theorem mem_of_mem_universalNewlines {text : Text} {point : CodePoint}
    (member : point ∈ universalNewlines text) :
    point ∈ text ∨ point = 0x0A := by
  induction text using universalNewlines.induct with
  | case1 => cases member
  | case2 first =>
      rw [universalNewlines] at member
      split at member <;> simp_all
  | case3 first next rest pair inductionHypothesis =>
      rw [universalNewlines, if_pos pair, List.mem_cons] at member
      rcases member with rfl | later
      · exact .inr rfl
      · rcases inductionHypothesis later with old | new
        · exact .inl (by simp [old])
        · exact .inr new
  | case4 first next rest pair inductionHypothesis =>
      rw [universalNewlines, if_neg pair, List.mem_cons] at member
      rcases member with same | later
      · split at same <;> simp_all
      · rcases inductionHypothesis later with old | new
        · exact .inl (List.mem_cons_of_mem _ old)
        · exact .inr new

/-! ## Pieces -/

/-- The text has no character at which `splitlines` breaks. -/
def Unbroken (text : Text) : Prop :=
  ∀ point ∈ text, isLineBreak point = false

instance (text : Text) : Decidable (Unbroken text) :=
  inferInstanceAs (Decidable (∀ point ∈ text, isLineBreak point = false))

theorem splitlinesFrom_cons
    (line : Text) {point : CodePoint} (rest : Text) (noReturn : point ≠ 0x0D) :
    splitlinesFrom false line (point :: rest) =
      if isLineBreak point then line :: splitlinesFrom false [] rest
      else splitlinesFrom false (line ++ [point]) rest := by
  cases rest with
  | nil => simp [splitlinesFrom]
  | cons next rest =>
      rw [splitlinesFrom, if_neg fun pair => noReturn pair.1]
      simp

/-- Without a break the rest belongs to the current line. -/
theorem splitlinesFrom_unbroken
    {line text : Text} (unbroken : Unbroken text)
    (nonempty : line ++ text ≠ []) :
    splitlinesFrom false line text = [line ++ text] := by
  induction text generalizing line with
  | nil =>
      rw [List.append_nil] at nonempty ⊢
      rw [splitlinesFrom, if_neg nonempty]
  | cons point text inductionHypothesis =>
      obtain ⟨noBreak, unbroken⟩ := List.forall_mem_cons.mp unbroken
      have noReturn : point ≠ 0x0D := by
        rintro rfl
        cases noBreak
      rw [splitlinesFrom_cons line text noReturn, if_neg (by simp [noBreak]),
        inductionHypothesis unbroken (by simp), List.append_assoc,
        List.singleton_append]

/-- The first break ends the current line. -/
theorem splitlinesFrom_break
    {line body : Text} {point : CodePoint} (rest : Text)
    (unbroken : Unbroken body) (isBreak : isLineBreak point = true)
    (noReturn : point ≠ 0x0D) :
    splitlinesFrom false line (body ++ point :: rest) =
      (line ++ body) :: splitlines rest := by
  induction body generalizing line with
  | nil =>
      rw [List.nil_append, splitlinesFrom_cons line rest noReturn,
        if_pos isBreak, List.append_nil]
      rfl
  | cons first body inductionHypothesis =>
      obtain ⟨noBreak, unbroken⟩ := List.forall_mem_cons.mp unbroken
      have other : first ≠ 0x0D := by
        rintro rfl
        cases noBreak
      rw [List.cons_append, splitlinesFrom_cons line _ other,
        if_neg (by simp [noBreak]), inductionHypothesis unbroken,
        List.append_assoc, List.singleton_append]

/-- A text that is not empty and has no break is one piece. -/
theorem splitlines_of_unbroken
    {text : Text} (unbroken : Unbroken text) (nonempty : text ≠ []) :
    splitlines text = [text] :=
  splitlinesFrom_unbroken unbroken nonempty

/-- A text that has a break is a piece, a break and the rest. -/
theorem exists_break {text : Text} (broken : ¬Unbroken text) :
    ∃ body point rest, text = body ++ point :: rest ∧ Unbroken body ∧
      isLineBreak point = true := by
  induction text with
  | nil => exact absurd nofun broken
  | cons first text inductionHypothesis =>
      by_cases isBreak : isLineBreak first = true
      · exact ⟨[], first, text, rfl, nofun, isBreak⟩
      · rw [Bool.not_eq_true] at isBreak
        obtain ⟨body, point, rest, rfl, unbroken, found⟩ :=
          inductionHypothesis fun unbroken =>
            broken (List.forall_mem_cons.mpr ⟨isBreak, unbroken⟩)
        exact ⟨first :: body, point, rest, rfl,
          List.forall_mem_cons.mpr ⟨isBreak, unbroken⟩, found⟩

/-- A text without `\r` is empty, one piece, or a piece, a break and the
rest. -/
@[elab_as_elim]
theorem splitlines_cases
    {motive : (text : Text) → (0x0D : CodePoint) ∉ text → Prop}
    (empty : motive [] (by simp))
    (last : ∀ text noReturn, text ≠ [] → Unbroken text →
      splitlines text = [text] → motive text noReturn)
    (broken : ∀ body point rest noReturn noReturnAfter, Unbroken body →
      isLineBreak point = true →
      splitlines (body ++ point :: rest) = body :: splitlines rest →
      motive rest noReturnAfter → motive (body ++ point :: rest) noReturn)
    (text : Text) (noReturn : (0x0D : CodePoint) ∉ text) :
    motive text noReturn := by
  induction length_eq : text.length using Nat.strong_induction_on
    generalizing text with
  | h length inductionHypothesis =>
      by_cases unbroken : Unbroken text
      · by_cases nonempty : text = []
        · subst nonempty
          exact empty
        · exact last text noReturn nonempty unbroken
            (splitlines_of_unbroken unbroken nonempty)
      · obtain ⟨body, point, rest, rfl, unbroken, isBreak⟩ :=
          exists_break unbroken
        have absent := noReturn
        simp only [List.mem_append, List.mem_cons, not_or] at absent
        refine broken body point rest noReturn absent.2.2 unbroken isBreak
          (splitlinesFrom_break rest unbroken isBreak (Ne.symm absent.2.1)) ?_
        refine inductionHypothesis rest.length ?_ rest absent.2.2 rfl
        rw [← length_eq, List.length_append, List.length_cons]
        omega

/-- Pieces have no breaks. -/
theorem unbroken_of_mem_splitlines
    {text piece : Text} (noReturn : (0x0D : CodePoint) ∉ text)
    (member : piece ∈ splitlines text) : Unbroken piece := by
  induction text, noReturn using splitlines_cases with
  | empty => cases member
  | last text _ nonempty unbroken split_eq =>
      rw [split_eq, List.mem_singleton] at member
      exact member ▸ unbroken
  | broken body point rest _ _ unbroken isBreak split_eq
      inductionHypothesis =>
      rw [split_eq] at member
      rcases List.mem_cons.mp member with rfl | later
      · exact unbroken
      · exact inductionHypothesis later

/-- Pieces are parts of the text. -/
theorem infix_of_mem_splitlines
    {text piece : Text} (noReturn : (0x0D : CodePoint) ∉ text)
    (member : piece ∈ splitlines text) : piece <:+: text := by
  induction text, noReturn using splitlines_cases with
  | empty => cases member
  | last text _ nonempty unbroken split_eq =>
      rw [split_eq, List.mem_singleton] at member
      exact member ▸ List.infix_rfl
  | broken body point rest _ _ unbroken isBreak split_eq
      inductionHypothesis =>
      rw [split_eq] at member
      rcases List.mem_cons.mp member with rfl | later
      · exact (List.prefix_append _ _).isInfix
      · have inRest := inductionHypothesis later
        exact inRest.trans
          ((List.suffix_cons point rest).trans
            (List.suffix_append body _)).isInfix

/-- Only the empty text has no pieces. -/
theorem splitlines_eq_nil_iff
    {text : Text} (noReturn : (0x0D : CodePoint) ∉ text) :
    splitlines text = [] ↔ text = [] := by
  induction text, noReturn using splitlines_cases with
  | empty => exact iff_of_true rfl rfl
  | last text _ nonempty unbroken split_eq => simp [split_eq, nonempty]
  | broken body point rest _ _ unbroken isBreak split_eq
      inductionHypothesis => simp [split_eq]

/-- A part without a separator lies on one side of it. -/
theorem infix_append_cons
    {α : Type} {part before after : List α} {point : α}
    (absent : point ∉ part) (isPart : part <:+: before ++ point :: after) :
    part <:+: before ∨ part <:+: after := by
  induction before with
  | nil =>
      rcases List.infix_cons_iff.mp isPart with isPrefix | later
      · cases part with
        | nil => exact .inl List.infix_rfl
        | cons first part =>
            obtain ⟨rfl, _⟩ := List.cons_prefix_cons.mp isPrefix
            simp at absent
      · exact .inr later
  | cons first before inductionHypothesis =>
      rw [List.cons_append] at isPart
      rcases List.infix_cons_iff.mp isPart with isPrefix | later
      · left
        rw [← List.cons_append] at isPrefix
        have upToPoint : first :: before ++ [point] <+:
            first :: before ++ point :: after :=
          ⟨after, by rw [List.append_assoc, List.singleton_append]⟩
        rcases List.prefix_or_prefix_of_prefix isPrefix upToPoint with
          short | long
        · rcases List.prefix_concat_iff.mp short with rfl | inBefore
          · simp at absent
          · exact inBefore.isInfix
        · exact absurd (long.subset (by simp)) absent
      · rcases inductionHypothesis later with inBefore | inAfter
        · exact .inl (inBefore.trans (List.suffix_cons _ _).isInfix)
        · exact .inr inAfter

/-- A text contains what has no break exactly when one of its pieces does. -/
theorem contains_iff_exists_piece
    {text query : Text} (noReturn : (0x0D : CodePoint) ∉ text)
    (nonempty : text ≠ []) (unbroken : Unbroken query) :
    contains text query = true ↔
      ∃ piece ∈ splitlines text, contains piece query = true := by
  simp only [contains, decide_eq_true_eq]
  constructor
  · intro inText
    induction text, noReturn using splitlines_cases with
    | empty => exact absurd rfl nonempty
    | last text _ _ _ split_eq => exact ⟨text, by simp [split_eq], inText⟩
    | broken body point rest _ noReturn _ isBreak split_eq
        inductionHypothesis =>
        rw [split_eq]
        have absent : point ∉ query := by
          intro member
          rw [unbroken point member] at isBreak
          cases isBreak
        rcases infix_append_cons absent inText with inBody | inRest
        · exact ⟨body, by simp, inBody⟩
        · by_cases empty : rest = []
          · subst empty
            rw [List.eq_nil_of_infix_nil inRest]
            exact ⟨body, by simp, List.nil_infix⟩
          · obtain ⟨piece, member, inPiece⟩ :=
              inductionHypothesis empty inRest
            exact ⟨piece, List.mem_cons_of_mem _ member, inPiece⟩
  · rintro ⟨piece, member, inPiece⟩
    exact inPiece.trans (infix_of_mem_splitlines noReturn member)

/-! ## File lines -/

theorem splitlinesFrom_newline
    {line body : Text} (rest : Text) (noReturn : (0x0D : CodePoint) ∉ body) :
    splitlinesFrom false line (body ++ 0x0A :: rest) =
      splitlinesFrom false line (body ++ [0x0A]) ++ splitlines rest := by
  induction body generalizing line with
  | nil =>
      simp only [List.nil_append, splitlinesFrom_cons line _ (show
        (0x0A : CodePoint) ≠ 0x0D by decide)]
      rw [if_pos (by decide), if_pos (by decide)]
      rfl
  | cons point body inductionHypothesis =>
      simp only [List.mem_cons, not_or] at noReturn
      simp only [List.cons_append,
        splitlinesFrom_cons line _ (Ne.symm noReturn.1)]
      split
      · rw [inductionHypothesis noReturn.2, List.cons_append]
      · exact inductionHypothesis noReturn.2

/-- Without `\r`, the pieces of a text are those of its file lines. -/
theorem splitlines_eq_flatMap_fileLinesFrom
    (line text : Text) (noReturn : (0x0D : CodePoint) ∉ line ++ text) :
    splitlines (line ++ text) =
      (fileLinesFrom line text).flatMap (splitlines ·) := by
  induction text generalizing line with
  | nil =>
      rw [fileLinesFrom, List.append_nil]
      split
      · next empty => rw [empty]; rfl
      · rw [List.flatMap_singleton]
  | cons point text inductionHypothesis =>
      rw [fileLinesFrom]
      split
      · next newline =>
          subst newline
          simp only [List.mem_append, List.mem_cons, not_or] at noReturn
          rw [List.flatMap_cons, splitlines, splitlinesFrom_newline text
            noReturn.1, ← inductionHypothesis [] noReturn.2.2]
          rfl
      · rw [← inductionHypothesis _ (by simpa using noReturn), List.append_assoc,
          List.singleton_append]

theorem splitlines_eq_flatMap
    {text : Text} (noReturn : (0x0D : CodePoint) ∉ text) :
    splitlines text = (fileLines text).flatMap (splitlines ·) :=
  splitlines_eq_flatMap_fileLinesFrom [] text noReturn

/-- A file line is not empty, and a `\n` in it is its last character. -/
theorem of_mem_fileLinesFrom
    {line text fileLine : Text} (noNewline : (0x0A : CodePoint) ∉ line)
    (member : fileLine ∈ fileLinesFrom line text) :
    fileLine ≠ [] ∧ ∃ body, (0x0A : CodePoint) ∉ body ∧
      (fileLine = body ∨ fileLine = body ++ [0x0A]) := by
  induction text generalizing line with
  | nil =>
      rw [fileLinesFrom] at member
      split at member
      · cases member
      · next nonempty =>
          rw [List.mem_singleton] at member
          exact ⟨member ▸ nonempty, line, noNewline, .inl member⟩
  | cons point text inductionHypothesis =>
      rw [fileLinesFrom] at member
      split at member
      · next newline =>
          rcases List.mem_cons.mp member with rfl | later
          · exact ⟨by simp, line, noNewline, .inr (by rw [newline])⟩
          · exact inductionHypothesis (by simp) later
      · next other =>
          exact inductionHypothesis
            (by simpa [noNewline] using Ne.symm other) member

theorem of_mem_fileLines
    {text fileLine : Text} (member : fileLine ∈ fileLines text) :
    fileLine ≠ [] ∧ ∃ body, (0x0A : CodePoint) ∉ body ∧
      (fileLine = body ∨ fileLine = body ++ [0x0A]) :=
  of_mem_fileLinesFrom (by simp) member

/-- A file line has the characters of the text. -/
theorem fileLinesFrom_flatten (line text : Text) :
    (fileLinesFrom line text).flatten = line ++ text := by
  induction text generalizing line with
  | nil =>
      rw [fileLinesFrom]
      split <;> simp_all
  | cons point text inductionHypothesis =>
      rw [fileLinesFrom]
      split <;> simp [inductionHypothesis]

theorem mem_of_mem_fileLines
    {text fileLine : Text} {point : CodePoint}
    (isLine : fileLine ∈ fileLines text) (member : point ∈ fileLine) :
    point ∈ text := by
  have all := List.mem_flatten.mpr ⟨fileLine, isLine, member⟩
  rwa [fileLines, fileLinesFrom_flatten, List.nil_append] at all

end Text

end Foundation

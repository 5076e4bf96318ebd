import RudpAgentStack.Foundation.Lines

/-!
# Lines that contain a query

The lines with a query, found among the pieces of a text and among its file
lines, and joined with `\n`: the two results agree exactly when no file line
with the query has a break.
-/

namespace Foundation

namespace Text

/-! ## Lines with a query -/

/-- The lines that contain a query. -/
def linesWith (query : Text) (lines : List Text) : List Text :=
  lines.filter fun line => contains line query

/-- No piece of a line without the query contains it. -/
theorem linesWith_splitlines_eq_nil
    {line query : Text} (noReturn : (0x0D : CodePoint) ∉ line)
    (absent : ¬contains line query = true) :
    linesWith query (splitlines line) = [] := by
  refine List.filter_eq_nil_iff.mpr fun piece member inPiece => absent ?_
  simp only [contains, decide_eq_true_eq] at inPiece ⊢
  exact inPiece.trans (infix_of_mem_splitlines noReturn member)

/-- Where the file lines with the query have no breaks, both cuts find the
same lines. -/
theorem linesWith_splitlines
    {text query : Text} (noReturn : (0x0D : CodePoint) ∉ text)
    (unbroken : ∀ line ∈ linesWith query (fileLines text), Unbroken line) :
    linesWith query (splitlines text) = linesWith query (fileLines text) := by
  have alike : ∀ line ∈ fileLines text,
      linesWith query (splitlines line) = linesWith query [line] := by
    intro line isLine
    have lineNoReturn : (0x0D : CodePoint) ∉ line := fun member =>
      noReturn (mem_of_mem_fileLines isLine member)
    by_cases found : contains line query = true
    · rw [splitlines_of_unbroken
        (unbroken line (List.mem_filter.mpr ⟨isLine, found⟩))
        (of_mem_fileLines isLine).1]
    · rw [linesWith_splitlines_eq_nil lineNoReturn found]
      exact (List.filter_eq_nil_iff.mpr (by simpa using found)).symm
  rw [splitlines_eq_flatMap noReturn]
  calc linesWith query ((fileLines text).flatMap (splitlines ·))
    _ = (fileLines text).flatMap fun line =>
          linesWith query (splitlines line) := List.filter_flatMap
    _ = (fileLines text).flatMap fun line => linesWith query [line] :=
          List.flatMap_congr alike
    _ = linesWith query ((fileLines text).flatMap fun line => [line]) :=
          List.filter_flatMap.symm
    _ = linesWith query (fileLines text) := by rw [List.flatMap_singleton']

/-! ## Joining -/

theorem mem_join {separator : Text} {parts : List Text} {point : CodePoint}
    (member : point ∈ join separator parts) :
    point ∈ separator ∨ ∃ part ∈ parts, point ∈ part := by
  unfold join at member
  induction parts with
  | nil => cases member
  | cons part parts inductionHypothesis =>
      by_cases last : parts = []
      · subst last
        rw [List.intercalate_singleton] at member
        exact .inr ⟨part, by simp, member⟩
      · rw [List.intercalate_cons_of_ne_nil last] at member
        simp only [List.mem_append] at member
        rcases member with (inPart | inSeparator) | later
        · exact .inr ⟨part, by simp, inPart⟩
        · exact .inl inSeparator
        · rcases inductionHypothesis later with inSeparator | inParts
          · exact .inl inSeparator
          · obtain ⟨other, isPart, inOther⟩ := inParts
            exact .inr ⟨other, List.mem_cons_of_mem _ isPart, inOther⟩

theorem mem_join_of_mem {separator part : Text} {parts : List Text}
    {point : CodePoint} (isPart : part ∈ parts) (member : point ∈ part) :
    point ∈ join separator parts := by
  unfold join
  induction parts with
  | nil => cases isPart
  | cons first parts inductionHypothesis =>
      by_cases last : parts = []
      · subst last
        rw [List.intercalate_singleton]
        rw [List.mem_singleton] at isPart
        exact isPart ▸ member
      · rw [List.intercalate_cons_of_ne_nil last]
        rcases List.mem_cons.mp isPart with rfl | later
        · simp [member]
        · simp [inductionHypothesis later]

/-- The separators that join parts are one fewer than the parts. -/
theorem count_join (point : CodePoint) {parts : List Text}
    (nonempty : parts ≠ []) :
    (join [point] parts).count point + 1 =
      (parts.map (·.count point)).sum + parts.length := by
  unfold join
  induction parts with
  | nil => exact absurd rfl nonempty
  | cons part parts inductionHypothesis =>
      by_cases last : parts = []
      · subst last
        simp [List.intercalate_singleton]
      · have shorter := inductionHypothesis last
        rw [List.intercalate_cons_of_ne_nil last]
        simp only [List.count_append, List.count_singleton_self, List.map_cons,
          List.sum_cons, List.length_cons]
        omega

/-- A line with no break but a final `\n` is one piece. -/
theorem length_splitlines_le_one
    {line body : Text} (nonempty : line ≠ []) (unbroken : Unbroken body)
    (isLine : line = body ∨ line = body ++ [0x0A]) :
    (splitlines line).length ≤ 1 := by
  rcases isLine with rfl | rfl
  · rw [splitlines_of_unbroken unbroken nonempty, List.length_singleton]
  · have split_eq : splitlines (body ++ [0x0A]) = body :: splitlines [] :=
      splitlinesFrom_break [] unbroken (by decide) (by decide)
    rw [split_eq]
    rfl

/-- Where lines with the query are one piece, there are no more pieces with the
query than lines. -/
theorem length_linesWith_splitlines_le
    {text query : Text} (noReturn : (0x0D : CodePoint) ∉ text)
    (short : ∀ line ∈ linesWith query (fileLines text),
      (splitlines line).length ≤ 1) :
    (linesWith query (splitlines text)).length ≤
      (linesWith query (fileLines text)).length := by
  rw [splitlines_eq_flatMap noReturn]
  have lines : ∀ line ∈ fileLines text, (0x0D : CodePoint) ∉ line :=
    fun line isLine member => noReturn (mem_of_mem_fileLines isLine member)
  generalize fileLines text = fileLines at short lines
  induction fileLines with
  | nil => rfl
  | cons line rest inductionHypothesis =>
      rw [List.forall_mem_cons] at lines
      rw [List.flatMap_cons, linesWith, List.filter_append, List.length_append]
      by_cases found : contains line query = true
      · have cons_eq : linesWith query (line :: rest) =
            line :: linesWith query rest := List.filter_cons_of_pos found
        rw [cons_eq, List.forall_mem_cons] at short
        have tailBound := inductionHypothesis short.2 lines.2
        have headBound := (List.length_filter_le (contains · query)
          (splitlines line)).trans short.1
        rw [cons_eq, List.length_cons]
        unfold linesWith at tailBound ⊢
        omega
      · have cons_eq : linesWith query (line :: rest) = linesWith query rest :=
          List.filter_cons_of_neg found
        rw [cons_eq] at short ⊢
        have noPieces := linesWith_splitlines_eq_nil lines.1 found
        have tailBound := inductionHypothesis short lines.2
        unfold linesWith at noPieces tailBound ⊢
        rw [noPieces, List.length_nil, Nat.zero_add]
        exact tailBound

/-- Where the joined lines agree, the file lines with the query have no break
but a final `\n`. -/
theorem eq_newline_of_join_eq
    {text query : Text} (noReturn : (0x0D : CodePoint) ∉ text)
    (same : join [0x0A] (linesWith query (splitlines text)) =
      join [0x0A] (linesWith query (fileLines text)))
    {line : Text} (isLine : line ∈ linesWith query (fileLines text))
    {point : CodePoint} (member : point ∈ line)
    (isBreak : isLineBreak point = true) : point = 0x0A := by
  have joined : point ∈ join [0x0A] (linesWith query (splitlines text)) := by
    rw [same]
    exact mem_join_of_mem isLine member
  rcases mem_join joined with inSeparator | ⟨piece, isPiece, inPiece⟩
  · exact List.mem_singleton.mp inSeparator
  · have unbroken := unbroken_of_mem_splitlines noReturn
      (List.mem_filter.mp isPiece).1 point inPiece
    rw [unbroken] at isBreak
    cases isBreak

/-- The joined lines with the query agree exactly when no file line with the
query has a break. -/
theorem join_linesWith_eq_iff
    (query : Text) {text : Text} (noReturn : (0x0D : CodePoint) ∉ text) :
    join [0x0A] (linesWith query (splitlines text)) =
        join [0x0A] (linesWith query (fileLines text)) ↔
      ∀ line ∈ linesWith query (fileLines text), Unbroken line := by
  constructor
  · intro same line isLine point inLine
    by_contra isBreak
    rw [Bool.not_eq_false] at isBreak
    have newline := eq_newline_of_join_eq noReturn same isLine inLine isBreak
    subst newline
    have short : ∀ line ∈ linesWith query (fileLines text),
        (splitlines line).length ≤ 1 := by
      intro line isLine
      obtain ⟨nonempty, body, noNewline, shape⟩ :=
        of_mem_fileLines (List.mem_filter.mp isLine).1
      refine length_splitlines_le_one nonempty ?_ shape
      intro point inBody
      by_contra isBreak
      rw [Bool.not_eq_false] at isBreak
      have inLine : point ∈ line := by
        rcases shape with rfl | rfl
        · exact inBody
        · exact List.mem_append_left _ inBody
      have newline := eq_newline_of_join_eq noReturn same isLine inLine isBreak
      exact noNewline (newline ▸ inBody)
    -- The joined file lines have more newlines than the joined pieces.
    have fewer := length_linesWith_splitlines_le noReturn short
    have joined : (0x0A : CodePoint) ∈
        join [0x0A] (linesWith query (splitlines text)) := by
      rw [same]
      exact mem_join_of_mem isLine inLine
    have somePiece : linesWith query (splitlines text) ≠ [] := by
      intro none
      rw [none] at joined
      cases joined
    have counted := count_join 0x0A (List.ne_nil_of_mem isLine)
    have countedPieces := count_join 0x0A somePiece
    have noneInPieces : ((linesWith query (splitlines text)).map
        (·.count (0x0A : CodePoint))).sum = 0 := by
      refine List.sum_eq_zero_iff_forall_eq_nat.mpr fun count isCount => ?_
      obtain ⟨piece, isPiece, rfl⟩ := List.mem_map.mp isCount
      refine List.count_eq_zero.mpr fun inPiece => ?_
      have unbroken := unbroken_of_mem_splitlines noReturn
        (List.mem_filter.mp isPiece).1 _ inPiece
      cases unbroken
    have oneInLine : ((linesWith query (fileLines text)).map
        (·.count (0x0A : CodePoint))).sum ≠ 0 := by
      intro none
      have inLines := List.sum_eq_zero_iff_forall_eq_nat.mp none _
        (List.mem_map_of_mem isLine)
      exact List.count_eq_zero.mp inLines inLine
    rw [same] at countedPieces
    omega
  · intro unbroken
    rw [linesWith_splitlines noReturn unbroken]

end Text

end Foundation

import RudpAgentStack.Foundation.Lines
import Mathlib.Data.List.DropRight

/-!
# Numbered lines that contain a query

The first lines with a query, numbered and trimmed, as a search lists them
among the pieces of a text and among its file lines.  While every file line is
one piece, both listings run in step.  Behind the first line of several pieces
the pieces are late, so that only listings of blank lines can still agree.
-/

namespace Foundation

namespace Text

/-! ## Trimming -/

/-- Only white space. -/
def Blank (text : Text) : Prop := ∀ point ∈ text, isSpace point = true

instance (text : Text) : Decidable (Blank text) :=
  inferInstanceAs (Decidable (∀ point ∈ text, isSpace point = true))

theorem isSpace_of_isLineBreak {point : CodePoint}
    (isBreak : isLineBreak point = true) : isSpace point = true := by
  simp only [isLineBreak, decide_eq_true_eq, List.mem_cons,
    List.not_mem_nil, or_false] at isBreak
  rcases isBreak with rfl | rfl | rfl | rfl | rfl | rfl | rfl | rfl | rfl | rfl
    <;> decide

theorem blank_iff_dropWhile_eq_nil {text : Text} :
    Blank text ↔ text.dropWhile isSpace = [] :=
  List.dropWhile_eq_nil_iff.symm

theorem strip_eq_rdropWhile (text : Text) :
    strip text = (text.dropWhile isSpace).rdropWhile isSpace := rfl

theorem strip_eq_nil_iff {text : Text} : strip text = [] ↔ Blank text := by
  rw [strip_eq_rdropWhile, List.rdropWhile_eq_nil_iff]
  constructor
  · intro trimmed point member
    rw [← List.takeWhile_append_dropWhile (p := isSpace) (l := text),
      List.mem_append] at member
    rcases member with leading | later
    · exact List.mem_takeWhile_imp leading
    · exact trimmed point later
  · intro blank point member
    exact blank point (List.dropWhile_subset _ member)

theorem dropWhile_append_of_not_blank
    {before : Text} (notBlank : ¬Blank before) (after : Text) :
    (before ++ after).dropWhile isSpace =
      before.dropWhile isSpace ++ after := by
  rw [blank_iff_dropWhile_eq_nil] at notBlank
  rw [List.dropWhile_append, if_neg (by simpa using notBlank)]

theorem rdropWhile_append_of_not_blank
    (before : Text) {after : Text} (notBlank : ¬Blank after) :
    (before ++ after).rdropWhile isSpace =
      before ++ after.rdropWhile isSpace := by
  have reversed : ¬Blank after.reverse := by
    simpa [Blank] using notBlank
  unfold List.rdropWhile
  rw [List.reverse_append, dropWhile_append_of_not_blank reversed,
    List.reverse_append, List.reverse_reverse]

/-- White space at the end is trimmed. -/
theorem strip_append_blank (text : Text) {space : Text} (blank : Blank space) :
    strip (text ++ space) = strip text := by
  by_cases textBlank : Blank text
  · have bothBlank : Blank (text ++ space) :=
      List.forall_mem_append.mpr ⟨textBlank, blank⟩
    rw [strip_eq_nil_iff.mpr bothBlank, strip_eq_nil_iff.mpr textBlank]
  · rw [strip_eq_rdropWhile, strip_eq_rdropWhile,
      dropWhile_append_of_not_blank textBlank]
    unfold List.rdropWhile
    rw [List.reverse_append, List.dropWhile_append_of_pos]
    exact fun point member => blank point (List.mem_reverse.mp member)

/-- What stands between characters that are not white space stays. -/
theorem mem_strip_of_between
    {before after : Text} (point : CodePoint)
    (notBlank : ¬Blank before) (notBlankAfter : ¬Blank after) :
    point ∈ strip (before ++ point :: after) := by
  have split_eq : before ++ point :: after =
      (before ++ [point]) ++ after := by simp
  rw [strip_eq_rdropWhile, dropWhile_append_of_not_blank notBlank,
    ← List.singleton_append, ← List.append_assoc,
    rdropWhile_append_of_not_blank _ notBlankAfter]
  simp

theorem mem_of_mem_strip {text : Text} {point : CodePoint}
    (member : point ∈ strip text) : point ∈ text := by
  rw [strip_eq_rdropWhile] at member
  exact List.dropWhile_subset _ ((List.rdropWhile_prefix _ _).subset member)

/-- A piece and the line it starts are trimmed alike exactly when the rest of
the line is white space. -/
theorem strip_append_eq_iff
    {piece rest : Text} {point : CodePoint} (unbroken : Unbroken piece)
    (isBreak : isLineBreak point = true) :
    strip (piece ++ point :: rest) = strip piece ↔ Blank rest := by
  constructor
  · intro same
    by_contra notBlank
    by_cases blank : Blank piece
    · rw [strip_eq_nil_iff.mpr blank, strip_eq_nil_iff] at same
      exact notBlank fun other member => same other (by simp [member])
    · have between := mem_strip_of_between point blank notBlank
      rw [same] at between
      rw [unbroken point (mem_of_mem_strip between)] at isBreak
      cases isBreak
  · intro blank
    exact strip_append_blank piece
      (List.forall_mem_cons.mpr ⟨isSpace_of_isLineBreak isBreak, blank⟩)

/-! ## Listings -/

/-- The lines with a query, numbered from an index on and trimmed, as many as
the budget allows. -/
def listed (query : Text) :
    (budget index : Nat) → List Text → List (Nat × Text)
  | 0, _, _ => []
  | _ + 1, _, [] => []
  | budget + 1, index, line :: lines =>
      if contains line query then
        (index + 1, strip line) :: listed query budget (index + 1) lines
      else listed query (budget + 1) (index + 1) lines

variable {query : Text}

@[simp] theorem listed_zero (index : Nat) (lines : List Text) :
    listed query 0 index lines = [] := by
  cases lines <;> rfl

theorem listed_cons (budget index : Nat) (line : Text) (lines : List Text) :
    listed query (budget + 1) index (line :: lines) =
      if contains line query then
        (index + 1, strip line) :: listed query budget (index + 1) lines
      else listed query (budget + 1) (index + 1) lines := rfl

/-- All lines with a query, numbered from an index on and trimmed. -/
def matching (query : Text) (index : Nat) (lines : List Text) :
    List (Nat × Text) :=
  ((lines.zipIdx (index + 1)).filter fun numbered =>
    contains numbered.1 query).map fun numbered =>
      (numbered.2, strip numbered.1)

theorem matching_cons (index : Nat) (line : Text) (lines : List Text) :
    matching query index (line :: lines) =
      if contains line query then
        (index + 1, strip line) :: matching query (index + 1) lines
      else matching query (index + 1) lines := by
  simp only [matching, List.zipIdx_cons, List.filter_cons]
  split <;> rfl

/-- A listing is the beginning of all lines with the query. -/
theorem listed_eq_take (budget index : Nat) (lines : List Text) :
    listed query budget index lines =
      (matching query index lines).take budget := by
  induction lines generalizing budget index with
  | nil => cases budget <;> rfl
  | cons line lines inductionHypothesis =>
      cases budget with
      | zero => rfl
      | succ budget =>
          rw [listed_cons, matching_cons]
          split
          · rw [List.take_succ_cons, inductionHypothesis]
          · apply inductionHypothesis

theorem length_matching (query : Text) (index : Nat) (lines : List Text) :
    (matching query index lines).length =
      lines.countP fun line => contains line query := by
  induction lines generalizing index with
  | nil => rfl
  | cons line lines inductionHypothesis =>
      rw [matching_cons, List.countP_cons]
      split
      · rw [List.length_cons, inductionHypothesis]
      · apply inductionHypothesis

/-- Numbers are greater than the index. -/
theorem lt_of_mem_listed
    {budget index : Nat} {lines : List Text} {entry : Nat × Text}
    (member : entry ∈ listed query budget index lines) : index < entry.1 := by
  induction lines generalizing budget index with
  | nil => cases budget <;> cases member
  | cons line lines inductionHypothesis =>
      cases budget with
      | zero => cases member
      | succ budget =>
          rw [listed_cons] at member
          split at member
          · rcases List.mem_cons.mp member with rfl | later
            · exact Nat.lt_succ_self index
            · exact (Nat.lt_succ_self index).trans (inductionHypothesis later)
          · exact (Nat.lt_succ_self index).trans (inductionHypothesis member)

/-- What is listed is a trimmed line. -/
theorem mem_listed
    {budget index : Nat} {lines : List Text}
    {found : Nat × Text} (member : found ∈ listed query budget index lines) :
    ∃ line ∈ lines, found.2 = strip line := by
  induction lines generalizing budget index with
  | nil => cases budget <;> cases member
  | cons line lines inductionHypothesis =>
      cases budget with
      | zero => cases member
      | succ budget =>
          rw [listed_cons] at member
          split at member
          · rcases List.mem_cons.mp member with rfl | later
            · exact ⟨line, by simp, rfl⟩
            · obtain ⟨other, isLine, same⟩ := inductionHypothesis later
              exact ⟨other, List.mem_cons_of_mem _ isLine, same⟩
          · obtain ⟨other, isLine, same⟩ := inductionHypothesis member
            exact ⟨other, List.mem_cons_of_mem _ isLine, same⟩

theorem listed_eq_nil_iff {budget index : Nat} {lines : List Text} :
    listed query (budget + 1) index lines = [] ↔
      ∀ line ∈ lines, ¬contains line query = true := by
  induction lines generalizing index with
  | nil => exact iff_of_true rfl nofun
  | cons line lines inductionHypothesis =>
      rw [listed_cons, List.forall_mem_cons]
      split
      · next found => simp [found]
      · next absent =>
          rw [inductionHypothesis, and_iff_right absent]

/-- Two listings agree when they agree on the first line and on the rest. -/
theorem listed_cons_eq_iff
    {budget index : Nat} {line other : Text} {lines others : List Text} :
    listed query (budget + 1) index (line :: lines) =
        listed query (budget + 1) index (other :: others) ↔
      (contains line query = true ↔ contains other query = true) ∧
        (contains other query = true → strip line = strip other) ∧
        listed query (if contains other query then budget else budget + 1)
            (index + 1) lines =
          listed query (if contains other query then budget else budget + 1)
            (index + 1) others := by
  -- A listing of later lines cannot start with the number of this one.
  have noHead : ∀ {text : Text} {tail : List (Nat × Text)} {lines},
      (index + 1, text) :: tail ≠
        listed query (budget + 1) (index + 1) lines := by
    intro text tail lines same
    have member : (index + 1, text) ∈
        listed query (budget + 1) (index + 1) lines := by simp [← same]
    exact lt_irrefl _ (lt_of_mem_listed member)
  rw [listed_cons, listed_cons]
  by_cases found : contains line query = true <;>
    by_cases foundOther : contains other query = true
  · simp [found, foundOther]
  · simp [found, foundOther, noHead]
  · simp [found, foundOther, noHead.symm]
  · simp [found, foundOther]

/-! ## Listings of pieces and of file lines -/

/-- As long as the budget lasts, pieces and lines with the query stand at the
same places and the lines are blank. -/
def BlankInStep (query : Text) : (budget : Nat) → (pieces lines : List Text) →
    Prop
  | 0, _, _ => True
  | budget + 1, piece :: pieces, line :: lines =>
      (contains piece query = true ↔ contains line query = true) ∧
        (contains line query = true → Blank line) ∧
        BlankInStep query (if contains line query then budget else budget + 1)
          pieces lines
  | _ + 1, _, _ => False

@[simp] theorem blankInStep_zero (pieces lines : List Text) :
    BlankInStep query 0 pieces lines := by
  cases lines <;> cases pieces <;> trivial

/-- The listing of the pieces of file lines agrees with that of the lines.  As
long as lines are one piece, the listings run in step.  A line of several
pieces must start with the piece that is listed for it and be blank after it;
from then on nothing may contain the query, unless only blank lines are
listed. -/
def ListedAlike (query : Text) : (budget : Nat) → List Text → Prop
  | 0, _ => True
  | _ + 1, [] => True
  | budget + 1, line :: lines =>
      let left := if contains line query then budget else budget + 1
      match splitlines line with
      | piece :: next :: later =>
          (contains line query = true → contains piece query = true ∧
            Blank (line.drop piece.length)) ∧
          ((∀ text ∈ next :: later ++ lines, ¬contains text query = true) ∨
            BlankInStep query left
              (next :: later ++ lines.flatMap (splitlines ·)) lines)
      | _ => ListedAlike query left lines

/-- A part of a blank line is blank. -/
theorem blank_of_mem_splitlines
    {line piece : Text} (noReturn : (0x0D : CodePoint) ∉ line)
    (blank : Blank line) (member : piece ∈ splitlines line) : Blank piece :=
  fun point inPiece =>
    blank point ((infix_of_mem_splitlines noReturn member).subset inPiece)

/-- Behind a line of several pieces, of which the late ones with the query are
blank, the listings agree when nothing is left to list or all is blank. -/
theorem listed_late_eq_iff
    (budget index : Nat) {pieces lines : List Text} (late : pieces ≠ [])
    (unbroken : Unbroken query)
    (noReturn : ∀ line ∈ lines, (0x0D : CodePoint) ∉ line)
    (nonempty : ∀ line ∈ lines, line ≠ [])
    (blank : ∀ piece ∈ pieces, contains piece query = true → Blank piece) :
    listed query budget index (pieces ++ lines.flatMap (splitlines ·)) =
        listed query budget index lines ↔
      (∀ text ∈ pieces ++ lines, ¬contains text query = true) ∨
        BlankInStep query budget (pieces ++ lines.flatMap (splitlines ·))
          lines := by
  induction lines generalizing budget index pieces with
  | nil =>
      rw [List.flatMap_nil, List.append_nil]
      cases budget with
      | zero => simp
      | succ budget =>
          obtain ⟨piece, pieces, rfl⟩ := List.exists_cons_of_ne_nil late
          simp only [BlankInStep, or_false]
          exact listed_eq_nil_iff
  | cons line lines inductionHypothesis =>
      rw [List.forall_mem_cons] at noReturn nonempty
      obtain ⟨piece, pieces, rfl⟩ := List.exists_cons_of_ne_nil late
      rw [List.forall_mem_cons] at blank
      have lateAgain : pieces ++ splitlines line ≠ [] := by
        simp [splitlines_eq_nil_iff noReturn.1, nonempty.1]
      have shifted : piece :: pieces ++
            (line :: lines).flatMap (splitlines ·) =
          piece :: ((pieces ++ splitlines line) ++
            lines.flatMap (splitlines ·)) := by simp
      have rest := fun budget blankPieces => inductionHypothesis budget
        (index + 1) lateAgain noReturn.2 nonempty.2
        (List.forall_mem_append.mpr ⟨blank.2, blankPieces⟩)
      cases budget with
      | zero => simp
      | succ budget =>
        rw [shifted, listed_cons_eq_iff, BlankInStep]
        by_cases found : contains line query = true
        · obtain ⟨inner, isPiece, inPiece⟩ :=
            (contains_iff_exists_piece noReturn.1 nonempty.1 unbroken).mp found
          have someLine : ¬∀ text ∈ piece :: pieces ++ line :: lines,
              ¬contains text query = true :=
            fun none => none line (by simp) found
          have somePiece : ¬∀ text ∈ pieces ++ splitlines line ++ lines,
              ¬contains text query = true :=
            fun none => none inner (by simp [isPiece]) inPiece
          rw [or_iff_right someLine]
          simp only [found, if_true, iff_true, true_implies]
          refine and_congr_right fun inHead => ?_
          rw [strip_eq_nil_iff.mpr (blank.1 inHead), eq_comm,
            strip_eq_nil_iff]
          refine and_congr_right fun blankLine => ?_
          rw [rest budget fun inner isPiece _ =>
            blank_of_mem_splitlines noReturn.1 blankLine isPiece]
          exact or_iff_right somePiece
        · have noPiece : ∀ piece ∈ splitlines line,
              ¬contains piece query = true := fun piece isPiece inPiece =>
            found ((contains_iff_exists_piece noReturn.1 nonempty.1
              unbroken).mpr ⟨piece, isPiece, inPiece⟩)
          simp only [found, Bool.false_eq_true, if_false, iff_false,
            false_implies, true_and]
          rw [rest (budget + 1) fun inner isPiece inPiece =>
            absurd inPiece (noPiece inner isPiece)]
          simp only [List.cons_append, List.forall_mem_cons,
            List.forall_mem_append, found]
          tauto

/-- The first piece is all of the line, or a break follows it. -/
theorem of_splitlines_eq_cons
    {line piece : Text} {later : List Text}
    (noReturn : (0x0D : CodePoint) ∉ line)
    (split_eq : splitlines line = piece :: later) :
    (line = piece ∧ later = []) ∨
      ∃ point rest, line = piece ++ point :: rest ∧ Unbroken piece ∧
        isLineBreak point = true ∧ (0x0D : CodePoint) ∉ rest ∧
        splitlines rest = later := by
  cases line, noReturn using splitlines_cases with
  | empty => cases split_eq
  | last line _ _ _ whole =>
      rw [whole, List.cons.injEq] at split_eq
      exact .inl ⟨split_eq.1, split_eq.2.symm⟩
  | broken body point rest _ noReturn unbroken isBreak parts _ =>
      rw [parts, List.cons.injEq] at split_eq
      obtain ⟨rfl, rfl⟩ := split_eq
      exact .inr ⟨point, rest, rfl, unbroken, isBreak, noReturn, rfl⟩

/-- The pieces of a text and its file lines are listed alike exactly when
their first line of several pieces allows it. -/
theorem listed_splitlines_eq_iff
    (budget index : Nat) {lines : List Text} (unbroken : Unbroken query)
    (noReturn : ∀ line ∈ lines, (0x0D : CodePoint) ∉ line)
    (nonempty : ∀ line ∈ lines, line ≠ []) :
    listed query budget index (lines.flatMap (splitlines ·)) =
        listed query budget index lines ↔ ListedAlike query budget lines := by
  induction lines generalizing budget index with
  | nil => cases budget <;> simp [ListedAlike]
  | cons line lines inductionHypothesis =>
      rw [List.forall_mem_cons] at noReturn nonempty
      have found_iff :=
        contains_iff_exists_piece noReturn.1 nonempty.1 unbroken
      cases budget with
      | zero => simp [ListedAlike]
      | succ budget =>
        rw [ListedAlike, List.flatMap_cons]
        cases split_eq : splitlines line with
        | nil =>
            rw [splitlines_eq_nil_iff noReturn.1] at split_eq
            exact absurd split_eq nonempty.1
        | cons piece later =>
          rw [split_eq] at found_iff
          rcases of_splitlines_eq_cons noReturn.1 split_eq with
            ⟨rfl, rfl⟩ | ⟨point, rest, rfl, unbrokenPiece, isBreak,
              restNoReturn, rfl⟩
          · rw [List.singleton_append, listed_cons_eq_iff]
            simp only [true_and, implies_true]
            exact inductionHypothesis _ _ noReturn.2 nonempty.2
          · have trimmed :
                strip piece = strip (piece ++ point :: rest) ↔ Blank rest := by
              rw [eq_comm, strip_append_eq_iff unbrokenPiece isBreak]
            rw [List.cons_append, listed_cons_eq_iff, trimmed]
            by_cases single : rest = []
            · subst single
              have noMore : splitlines [] = [] := rfl
              rw [noMore] at found_iff ⊢
              simp only [List.mem_singleton, exists_eq_left] at found_iff
              rw [List.nil_append, inductionHypothesis _ _ noReturn.2
                nonempty.2, and_iff_right found_iff.symm, and_iff_right]
              exact fun _ => nofun
            · obtain ⟨next, later, more⟩ := List.exists_cons_of_ne_nil
                ((splitlines_eq_nil_iff restNoReturn).not.mpr single)
              rw [more] at found_iff ⊢
              have dropped : Blank ((piece ++ point :: rest).drop
                  piece.length) ↔ Blank rest := by
                rw [List.drop_left' rfl]
                exact List.forall_mem_cons.trans
                  (and_iff_right (isSpace_of_isLineBreak isBreak))
              have inLine : contains piece query = true →
                  contains (piece ++ point :: rest) query = true :=
                fun inPiece => found_iff.mpr ⟨piece, by simp, inPiece⟩
              have first :
                  ((contains piece query = true ↔
                      contains (piece ++ point :: rest) query = true) ∧
                    (contains (piece ++ point :: rest) query = true →
                      Blank rest)) ↔
                  (contains (piece ++ point :: rest) query = true →
                    contains piece query = true ∧ Blank rest) := by
                tauto
              simp only [dropped]
              rw [← and_assoc, first]
              refine and_congr_right fun starts => ?_
              refine listed_late_eq_iff _ _ (List.cons_ne_nil _ _) unbroken
                noReturn.2 nonempty.2 fun other isPiece inPiece => ?_
              have blank := (starts (found_iff.mpr
                ⟨other, List.mem_cons_of_mem _ isPiece, inPiece⟩)).2
              exact blank_of_mem_splitlines restNoReturn blank
                (more ▸ isPiece)

/-- The listing of the pieces of a text agrees with that of its file lines. -/
def SearchedAlike (query : Text) (budget : Nat) (text : Text) : Prop :=
  if Unbroken query then ListedAlike query budget (fileLines text)
  else ∀ line ∈ fileLines text, ¬contains line query = true

theorem listed_eq_iff
    (budget index : Nat) {text : Text} (noReturn : (0x0D : CodePoint) ∉ text) :
    listed query (budget + 1) index (splitlines text) =
        listed query (budget + 1) index (fileLines text) ↔
      SearchedAlike query (budget + 1) text := by
  unfold SearchedAlike
  split
  · next unbroken =>
      rw [splitlines_eq_flatMap noReturn]
      exact listed_splitlines_eq_iff _ _ unbroken
        (fun line isLine member =>
          noReturn (mem_of_mem_fileLines isLine member))
        fun line isLine => (of_mem_fileLines isLine).1
  · next broken =>
      have noPiece : listed query (budget + 1) index (splitlines text) = [] :=
        listed_eq_nil_iff.mpr fun piece isPiece inPiece =>
          broken fun point member =>
            unbroken_of_mem_splitlines noReturn isPiece point
              ((of_decide_eq_true inPiece).subset member)
      rw [noPiece, eq_comm, listed_eq_nil_iff]

end Text

end Foundation

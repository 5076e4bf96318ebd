import RudpAgentStack.Foundation.PosixPath
import Mathlib.Data.List.DropRight

/-!
# Components of absolute paths

Absolute normalised paths are separators followed by components that name
something.  The module computes with paths through their components: the
directory part drops the last one, joining adds those of the second path, and
an ancestor has the first of them.
-/

namespace Foundation

namespace PosixPath

/-- A component that names an entry of a directory. -/
def NormalComponent (component : Text) : Prop :=
  component ≠ [] ∧ component ≠ current ∧ component ≠ parent ∧
    separator ∉ component

/-- The absolute path with the components. -/
def rooted (leading : Nat) (components : List Text) : Text :=
  List.replicate (leading + 1) separator ++ unsplit components

theorem split_append (first second : Text) :
    split (first ++ separator :: second) = split first ++ split second :=
  List.splitOn_append_cons_self _ _

theorem split_separator_cons (path : Text) :
    split (separator :: path) = [] :: split path :=
  split_append [] path

theorem meaningful_separator_cons (path : Text) :
    meaningful (separator :: path) = meaningful path := by
  rw [meaningful, split_separator_cons, List.filter_cons_of_neg (by simp)]
  rfl

/-- Splitting gives back components that were put together. -/
theorem split_unsplit
    {components : List Text} (nonempty : components ≠ [])
    (normal : ∀ component ∈ components, NormalComponent component) :
    split (unsplit components) = components :=
  List.splitOn_intercalate separator
    (fun component member => (normal component member).2.2.2) nonempty

theorem meaningful_unsplit {components : List Text}
    (normal : ∀ component ∈ components, NormalComponent component) :
    meaningful (unsplit components) = components := by
  by_cases empty : components = []
  · subst empty
    rfl
  · rw [meaningful, split_unsplit empty normal, List.filter_eq_self]
    intro component member
    simp [(normal component member).1, (normal component member).2.1]

/-- The name of an entry is a relative path with one component. -/
theorem NormalComponent.meaningful
    {component : Text} (normal : NormalComponent component) :
    isAbsolute component = false ∧
      PosixPath.meaningful component = [component] := by
  constructor
  · cases component with
    | nil => rfl
    | cons point rest =>
        have different : point ≠ separator := fun same =>
          normal.2.2.2 (by simp [same])
        simpa [isAbsolute] using different
  · have together : unsplit [component] = component := by
      simp [unsplit, Text.join]
    have named := meaningful_unsplit (List.forall_mem_singleton.mpr normal)
    rwa [together] at named

theorem meaningful_rooted (leading : Nat) {components : List Text}
    (normal : ∀ component ∈ components, NormalComponent component) :
    meaningful (rooted leading components) = components := by
  unfold rooted
  induction leading with
  | zero =>
      rw [List.replicate_one, List.singleton_append,
        meaningful_separator_cons, meaningful_unsplit normal]
  | succ leading inductionHypothesis =>
      rw [List.replicate_succ, List.cons_append, meaningful_separator_cons,
        inductionHypothesis]

theorem isAbsolute_rooted (leading : Nat) (components : List Text) :
    isAbsolute (rooted leading components) = true := by
  simp [isAbsolute, rooted, List.replicate_succ]

/-! ## Normalising -/

theorem separator_not_mem_of_mem_split
    {path component : Text} (member : component ∈ split path) :
    separator ∉ component := by
  unfold split at member
  induction path generalizing component with
  | nil =>
      rw [List.splitOn_nil, List.mem_singleton] at member
      rw [member]
      exact List.not_mem_nil
  | cons point path inductionHypothesis =>
      rw [List.splitOn_cons_eq_if_modifyHead] at member
      obtain ⟨first, others, split_eq⟩ :=
        List.exists_cons_of_ne_nil (List.splitOn_ne_nil separator path)
      rw [split_eq] at member inductionHypothesis
      split at member
      · rcases List.mem_cons.mp member with rfl | member
        · exact List.not_mem_nil
        · exact inductionHypothesis member
      · next different =>
          rcases List.mem_cons.mp member with rfl | member
          · rw [List.mem_cons, not_or]
            refine ⟨fun same => different (by simp [same]), ?_⟩
            exact inductionHypothesis List.mem_cons_self
          · exact inductionHypothesis (List.mem_cons_of_mem _ member)

/-- Below the root, a component is added to normal ones or removes one. -/
theorem pushComponent_normal
    {components : List Text} {component : Text}
    (normal : ∀ component ∈ components, NormalComponent component)
    (noSeparator : separator ∉ component) :
    ∀ other ∈ pushComponent true components component,
      NormalComponent other := by
  by_cases unnamed : component = [] ∨ component = current
  · rwa [pushComponent, if_pos unnamed]
  · by_cases isParent : component = parent
    · have notLast : components.getLast? ≠ some parent := fun last =>
        (normal parent (List.mem_of_getLast? last)).2.2.1 rfl
      rw [pushComponent, if_neg unnamed, if_neg (by simp [isParent, notLast])]
      exact fun other member =>
        normal other (List.mem_of_mem_dropLast member)
    · rw [pushComponent, if_neg unnamed, if_pos (.inl isParent)]
      rw [not_or] at unnamed
      refine List.forall_mem_append.mpr ⟨normal, ?_⟩
      rw [List.forall_mem_singleton]
      exact ⟨unnamed.1, unnamed.2, isParent, noSeparator⟩

theorem foldl_pushComponent_normal
    {components added : List Text}
    (normal : ∀ component ∈ components, NormalComponent component)
    (noSeparator : ∀ component ∈ added, separator ∉ component) :
    ∀ component ∈ added.foldl (pushComponent true) components,
      NormalComponent component := by
  induction added generalizing components with
  | nil => exact normal
  | cons component added inductionHypothesis =>
      rw [List.forall_mem_cons] at noSeparator
      exact inductionHypothesis (pushComponent_normal normal noSeparator.1)
        noSeparator.2

/-- Components that name entries are added one after the other. -/
theorem foldl_pushComponent_eq_append
    {absolute : Bool} (components : List Text) {added : List Text}
    (normal : ∀ component ∈ added, NormalComponent component) :
    added.foldl (pushComponent absolute) components = components ++ added := by
  induction added generalizing components with
  | nil => rw [List.foldl_nil, List.append_nil]
  | cons component added inductionHypothesis =>
      rw [List.forall_mem_cons] at normal
      have pushed : pushComponent absolute components component =
          components ++ [component] := by
        rw [pushComponent, if_neg (by simp [normal.1.1, normal.1.2.1]),
          if_pos (.inl normal.1.2.2.1)]
      rw [List.foldl_cons, pushed, inductionHypothesis _ normal.2,
        List.append_assoc, List.singleton_append]

theorem leadingSeparators_of_isAbsolute
    {path : Text} (absolute : isAbsolute path = true) :
    ∃ leading, leadingSeparators path = leading + 1 := by
  obtain ⟨rest, rfl⟩ : ∃ rest, path = separator :: rest := by
    cases path with
    | nil => cases absolute
    | cons point rest =>
        simp only [isAbsolute, List.head?_cons, beq_iff_eq, Option.some.injEq]
          at absolute
        exact ⟨rest, by rw [absolute]⟩
  unfold leadingSeparators
  split
  · next count => simp at count
  · exact ⟨1, rfl⟩
  · exact ⟨0, rfl⟩

theorem resolve_normal
    {path : Text} (absolute : isAbsolute path = true) :
    ∀ component ∈ resolve path, NormalComponent component := by
  obtain ⟨leading, count⟩ := leadingSeparators_of_isAbsolute absolute
  have isTrue : decide (leadingSeparators path ≠ 0) = true := by
    simp [count]
  unfold resolve
  rw [isTrue]
  exact foldl_pushComponent_normal nofun fun component member =>
    separator_not_mem_of_mem_split member

/-- An absolute path is normalised to its leading separators and its resolved
components. -/
theorem normalize_eq_of_isAbsolute
    {path : Text} (absolute : isAbsolute path = true) :
    normalize path =
      List.replicate (leadingSeparators path) separator ++
        unsplit (resolve path) := by
  obtain ⟨leading, count⟩ := leadingSeparators_of_isAbsolute absolute
  unfold normalize
  rw [count]
  exact if_neg (by simp [List.replicate_succ])

theorem normalize_of_isAbsolute
    {path : Text} (absolute : isAbsolute path = true) :
    ∃ leading, normalize path = rooted leading (resolve path) := by
  obtain ⟨leading, count⟩ := leadingSeparators_of_isAbsolute absolute
  refine ⟨leading, ?_⟩
  rw [normalize_eq_of_isAbsolute absolute, count, rooted]

theorem takeWhile_separator_of_relative
    {path : Text} (relative : isAbsolute path = false) :
    path.takeWhile (· = separator) = [] := by
  cases path with
  | nil => rfl
  | cons point rest =>
      have different : point ≠ separator := by
        simpa [isAbsolute] using relative
      rw [List.takeWhile_cons_of_neg (by simpa using different)]

theorem leadingSeparators_cons
    {path : Text} (relative : isAbsolute path = false) :
    leadingSeparators (separator :: path) = 1 := by
  unfold leadingSeparators
  rw [List.takeWhile_cons_of_pos (by simp),
    takeWhile_separator_of_relative relative]
  rfl

theorem leadingSeparators_replicate
    {path : Text} (relative : isAbsolute path = false) (count : Nat) :
    leadingSeparators (List.replicate (count + 3) separator ++ path) = 1 := by
  unfold leadingSeparators
  rw [List.takeWhile_append_of_pos (by simp),
    takeWhile_separator_of_relative relative, List.append_nil,
    List.length_replicate]
  rfl

/-- Leading separators name no component. -/
theorem foldl_pushComponent_separators
    (absolute : Bool) (components : List Text) (path : Text) (count : Nat) :
    (split (List.replicate count separator ++ path)).foldl
        (pushComponent absolute) components =
      (split path).foldl (pushComponent absolute) components := by
  induction count with
  | zero => rfl
  | succ count inductionHypothesis =>
      rw [List.replicate_succ, List.cons_append, split_separator_cons,
        List.foldl_cons, pushComponent, if_pos (.inl rfl), inductionHypothesis]

/-- Three or more leading separators count as one. -/
theorem normalize_separators
    {path : Text} (relative : isAbsolute path = false) (count : Nat) :
    normalize (List.replicate (count + 3) separator ++ path) =
      normalize (List.replicate 3 separator ++ path) := by
  unfold normalize resolve
  simp only [leadingSeparators_replicate relative,
    foldl_pushComponent_separators]

/-! ## Going down and up -/

theorem meaningful_append (first second : Text) :
    meaningful (first ++ separator :: second) =
      meaningful first ++ meaningful second := by
  rw [meaningful, split_append, List.filter_append]
  rfl

theorem meaningful_append_separators (path : Text) (count : Nat) :
    meaningful (path ++ List.replicate count separator) = meaningful path := by
  induction count generalizing path with
  | zero => rw [List.replicate_zero, List.append_nil]
  | succ count inductionHypothesis =>
      have none : meaningful (List.replicate count separator) = [] :=
        inductionHypothesis []
      rw [List.replicate_succ, meaningful_append, none, List.append_nil]

/-- A relative path adds its components to those of the base. -/
theorem meaningful_join
    (base : Text) {path : Text} (relative : isAbsolute path = false) :
    meaningful (join base path) = meaningful base ++ meaningful path := by
  rw [join, relative, if_neg (by simp)]
  split
  · next ends =>
      rcases ends with rfl | ends
      · rfl
      · obtain ⟨front, rfl⟩ := List.getLast?_eq_some_iff.mp ends
        rw [List.append_assoc, List.singleton_append, meaningful_append,
          meaningful_append]
        exact congrArg (· ++ _) (List.append_nil _).symm
  · exact meaningful_append base path

theorem isAbsolute_join
    {base : Text} (path : Text) (absolute : isAbsolute base = true) :
    isAbsolute (join base path) = true := by
  cases base with
  | nil => cases absolute
  | cons point rest =>
      unfold join
      split
      · assumption
      · split <;> exact absolute

theorem exists_eq_append_separators (path : Text) :
    ∃ count, path = (path.reverse.dropWhile (· = separator)).reverse ++
      List.replicate count separator := by
  refine ⟨(path.reverse.takeWhile (· = separator)).length, ?_⟩
  have trailing : path.reverse.takeWhile (· = separator) =
      List.replicate (path.reverse.takeWhile (· = separator)).length
        separator := by
    refine List.eq_replicate_length.mpr fun point member => ?_
    simpa using List.mem_takeWhile_imp member
  rw [← List.reverse_replicate, ← trailing, ← List.reverse_append,
    List.takeWhile_append_dropWhile, List.reverse_reverse]

/-- The directory part ends before the last separator. -/
theorem head_append
    (front : Text) {name : Text} (noSeparator : separator ∉ name) :
    ((front ++ separator :: name).reverse.dropWhile
      (· ≠ separator)).reverse = front ++ [separator] := by
  have passed : ∀ point ∈ name.reverse, decide (point ≠ separator) = true := by
    intro point member
    rw [decide_eq_true_iff]
    rintro rfl
    exact noSeparator (List.mem_reverse.mp member)
  rw [List.reverse_append, List.reverse_cons, List.append_assoc,
    List.singleton_append, List.dropWhile_append_of_pos passed,
    List.dropWhile_cons_of_neg (by simp), List.reverse_cons,
    List.reverse_reverse]

/-- The directory part is what stands before the last separator, up to
separators at its end. -/
theorem directory_append
    (front : Text) {name : Text} (noSeparator : separator ∉ name) :
    directory (front ++ separator :: name) ≠ [] ∧
      ∃ count, front ++ [separator] =
        directory (front ++ separator :: name) ++
          List.replicate count separator := by
  by_cases slashes :
      ((front ++ [separator]).reverse.dropWhile (· = separator)).reverse = []
  · have directory_eq :
        directory (front ++ separator :: name) = front ++ [separator] := by
      rw [← head_append front noSeparator] at slashes ⊢
      exact if_pos slashes
    rw [directory_eq]
    exact ⟨by simp, 0, (List.append_nil _).symm⟩
  · have directory_eq : directory (front ++ separator :: name) =
        ((front ++ [separator]).reverse.dropWhile
          (· = separator)).reverse := by
      rw [← head_append front noSeparator] at slashes ⊢
      exact if_neg slashes
    rw [directory_eq]
    exact ⟨slashes, exists_eq_append_separators _⟩

theorem meaningful_directory_append
    (front : Text) {name : Text} (noSeparator : separator ∉ name) :
    meaningful (directory (front ++ separator :: name)) =
      meaningful front := by
  obtain ⟨_, count, front_eq⟩ := directory_append front noSeparator
  rw [← meaningful_append_separators _ count, ← front_eq]
  exact meaningful_append_separators front 1

theorem isAbsolute_directory_append
    {front name : Text} (noSeparator : separator ∉ name)
    (absolute : isAbsolute (front ++ separator :: name) = true) :
    isAbsolute (directory (front ++ separator :: name)) = true := by
  obtain ⟨nonempty, count, front_eq⟩ := directory_append front noSeparator
  obtain ⟨point, rest, directory_eq⟩ := List.exists_cons_of_ne_nil nonempty
  have head_eq := congrArg List.head? front_eq
  rw [directory_eq] at head_eq ⊢
  cases front with
  | nil => exact beq_iff_eq.mpr head_eq.symm
  | cons first front =>
      rw [← absolute]
      exact congrArg (· == some separator) head_eq.symm

theorem unsplit_append_singleton
    (first : Text) (components : List Text) (last : Text) :
    unsplit (first :: components ++ [last]) =
      unsplit (first :: components) ++ separator :: last := by
  unfold unsplit Text.join
  induction components generalizing first with
  | nil => simp
  | cons second components inductionHypothesis =>
      rw [List.cons_append, List.cons_append, List.intercalate_cons_cons,
        ← List.cons_append, inductionHypothesis, List.intercalate_cons_cons]
      simp only [List.append_assoc]

/-- A normal path ends in a separator and the name of an entry, or in a
separator. -/
theorem exists_rooted_eq_append
    (leading : Nat) {components : List Text}
    (normal : ∀ component ∈ components, NormalComponent component) :
    ∃ front name, separator ∉ name ∧
      meaningful front = components.dropLast ∧
      rooted leading components = front ++ separator :: name := by
  rcases List.eq_nil_or_concat components with rfl | ⟨before, last, rfl⟩
  · refine ⟨List.replicate leading separator, [], List.not_mem_nil, ?_, ?_⟩
    · exact meaningful_append_separators [] leading
    · rw [rooted, List.replicate_succ']
      exact List.append_nil _
  · rw [List.concat_eq_append] at normal ⊢
    rw [List.forall_mem_append, List.forall_mem_singleton] at normal
    rw [List.dropLast_concat]
    cases before with
    | nil =>
        refine ⟨List.replicate leading separator, last, normal.2.2.2.2, ?_, ?_⟩
        · exact meaningful_append_separators [] leading
        · rw [rooted, List.replicate_succ', List.append_assoc]
          simp [unsplit, Text.join]
    | cons first before =>
        refine ⟨rooted leading (first :: before), last, normal.2.2.2.2,
          meaningful_rooted leading normal.1, ?_⟩
        rw [rooted, rooted, List.append_assoc, unsplit_append_singleton]

/-- The directory of a normal path has all its components but the last. -/
theorem meaningful_directory_rooted
    (leading : Nat) {components : List Text}
    (normal : ∀ component ∈ components, NormalComponent component) :
    meaningful (directory (rooted leading components)) =
      components.dropLast := by
  obtain ⟨front, name, noSeparator, front_eq, path_eq⟩ :=
    exists_rooted_eq_append leading normal
  rw [path_eq, meaningful_directory_append front noSeparator, front_eq]

theorem isAbsolute_directory_rooted
    (leading : Nat) {components : List Text}
    (normal : ∀ component ∈ components, NormalComponent component) :
    isAbsolute (directory (rooted leading components)) = true := by
  obtain ⟨front, name, noSeparator, _, path_eq⟩ :=
    exists_rooted_eq_append leading normal
  rw [path_eq]
  refine isAbsolute_directory_append noSeparator ?_
  rw [← path_eq, isAbsolute_rooted]

/-! ## Common ancestors -/

theorem commonPart_prefix_of {α : Type} [DecidableEq α] (xs ys : List α) :
    commonPart xs ys <+: xs ∧ commonPart xs ys <+: ys := by
  fun_induction commonPart xs ys with
  | case1 head xs ys inductionHypothesis =>
      simpa [List.cons_prefix_cons] using inductionHypothesis
  | case2 => simp
  | case3 => simp

/-- A path of which an absolute normal path is the longest common ancestor has
the components of that path first. -/
theorem prefix_of_common_eq
    {leading : Nat} {components : List Text} {path : Text}
    (normal : ∀ component ∈ components, NormalComponent component)
    (ancestor : common (rooted leading components) path =
      some (rooted leading components)) :
    components <+: meaningful path := by
  unfold common at ancestor
  rw [isAbsolute_rooted, meaningful_rooted leading normal] at ancestor
  split at ancestor
  · rw [if_pos rfl, Option.some.injEq] at ancestor
    have shared_normal : ∀ component ∈ commonPart components (meaningful path),
        NormalComponent component := fun component member =>
      normal component ((commonPart_prefix_of _ _).1.subset member)
    have shared := congrArg meaningful ancestor
    rw [meaningful_rooted leading normal, List.singleton_append,
      meaningful_separator_cons, meaningful_unsplit shared_normal] at shared
    rw [← shared]
    exact (commonPart_prefix_of _ _).2
  · cases ancestor

/-! ## Resolving a relative path -/

theorem resolve_of_isAbsolute
    {path : Text} (absolute : isAbsolute path = true) :
    resolve path = (split path).foldl (pushComponent true) [] := by
  obtain ⟨leading, count⟩ := leadingSeparators_of_isAbsolute absolute
  simp [resolve, count]

/-- Empty and current components are passed over. -/
theorem foldl_pushComponent_meaningful
    (absolute : Bool) (components : List Text) (path : Text) :
    (meaningful path).foldl (pushComponent absolute) components =
      (split path).foldl (pushComponent absolute) components := by
  unfold meaningful
  generalize split path = added
  induction added generalizing components with
  | nil => rfl
  | cons component added inductionHypothesis =>
      by_cases unnamed : component = [] ∨ component = current
      · have skipped : pushComponent absolute components component =
            components := by
          rw [pushComponent, if_pos unnamed]
        rw [List.filter_cons_of_neg (by rcases unnamed with rfl | rfl <;> simp),
          List.foldl_cons, skipped, inductionHypothesis]
      · rw [not_or] at unnamed
        rw [List.filter_cons_of_pos (by simp [unnamed]), List.foldl_cons,
          List.foldl_cons, inductionHypothesis]

theorem resolve_rooted
    (leading : Nat) {components : List Text}
    (normal : ∀ component ∈ components, NormalComponent component) :
    resolve (rooted leading components) = components := by
  rw [resolve_of_isAbsolute (isAbsolute_rooted _ _),
    ← foldl_pushComponent_meaningful, meaningful_rooted _ normal,
    foldl_pushComponent_eq_append _ normal, List.nil_append]

/-- A path that starts with the name of an entry is relative. -/
theorem isAbsolute_unsplit {components : List Text}
    (normal : ∀ component ∈ components, NormalComponent component) :
    isAbsolute (unsplit components) = false := by
  cases components with
  | nil => rfl
  | cons first others =>
      have split_eq := split_unsplit (List.cons_ne_nil first others) normal
      cases together : unsplit (first :: others) with
      | nil => rfl
      | cons point rest =>
          by_contra isSeparator
          simp only [isAbsolute, List.head?_cons, Bool.not_eq_false,
            beq_iff_eq, Option.some.injEq] at isSeparator
          rw [together, isSeparator, split_separator_cons] at split_eq
          exact (normal [] (split_eq ▸ List.mem_cons_self)).1 rfl

/-- The components of a relative path are added to those of the base. -/
theorem resolve_join_of_relative
    {base path : Text} (absolute : isAbsolute base = true)
    (relative : isAbsolute path = false) :
    resolve (join base path) =
      (split path).foldl (pushComponent true) (resolve base) := by
  rw [resolve_of_isAbsolute (isAbsolute_join _ absolute),
    resolve_of_isAbsolute absolute, join, relative, if_neg (by simp)]
  by_cases ends : base.getLast? = some separator
  · obtain ⟨front, rfl⟩ := List.getLast?_eq_some_iff.mp ends
    rw [if_pos (.inr ends), List.append_assoc, List.singleton_append,
      split_append, split_append, List.foldl_append, List.foldl_append]
    rfl
  · have notEmpty : base ≠ [] := by
      rintro rfl
      cases absolute
    rw [if_neg (by simp [ends, notEmpty]), split_append, List.foldl_append]

/-- A relative path whose components name entries leads below the base. -/
theorem resolve_join
    {base : Text} {components : List Text}
    (absolute : isAbsolute base = true) (nonempty : components ≠ [])
    (normal : ∀ component ∈ components, NormalComponent component) :
    resolve (join base (unsplit components)) = resolve base ++ components := by
  rw [resolve_join_of_relative absolute (isAbsolute_unsplit normal),
    split_unsplit nonempty normal, foldl_pushComponent_eq_append _ normal]

end PosixPath

end Foundation

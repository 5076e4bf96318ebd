import RudpAgentStack.Foundation.PathComponents

/-!
# Paths followed through a tree

A path read as a walk: from the directory it is read in, or from the root, each
component is passed over, leads to the parent directory, or leads down.  Joining
and normalising, which work on the text, arrive where the walk arrives, and an
absolute path without anything to normalise is a common ancestor exactly when
the walk ends below it.
-/

namespace Foundation

namespace PosixPath

/-- One step of a walk: the parent of the root is the root. -/
def walk (directory : List Text) (component : Text) : List Text :=
  if component = [] ∨ component = current then directory
  else if component = parent then directory.dropLast
  else directory ++ [component]

/-- Where a path leads when it is read in a directory. -/
def destination (directory : List Text) (path : Text) : List Text :=
  (split path).foldl walk (if isAbsolute path then [] else directory)

/-- The absolute path of the destination.  A relative path is read below a
single leading separator, an absolute one keeps its own. -/
def destinationPath (directory : List Text) (path : Text) : Text :=
  List.replicate (if isAbsolute path then leadingSeparators path else 1)
    separator ++ unsplit (destination directory path)

/-- An absolute path that `normalize` leaves as it is, with one leading
separator. -/
structure IsNormal (path : Text) : Prop where
  absolute : isAbsolute path = true
  normalized : normalize path = path
  single : leadingSeparators path = 1

variable {components : List Text}

/-! ## Normal paths -/

/-- A normal path is a separator followed by the names of entries. -/
theorem IsNormal.eq_rooted {path : Text} (isNormal : IsNormal path) :
    (∀ component ∈ meaningful path, NormalComponent component) ∧
      path = rooted 0 (meaningful path) := by
  have normal := resolve_normal isNormal.absolute
  have path_eq : path = rooted 0 (resolve path) := by
    have normalized := isNormal.normalized
    rw [normalize_eq_of_isAbsolute isNormal.absolute, isNormal.single]
      at normalized
    exact normalized.symm
  have same : meaningful path = resolve path := by
    conv_lhs => rw [path_eq]
    exact meaningful_rooted 0 normal
  rw [same]
  exact ⟨normal, path_eq⟩

/-! ## Walking and normalising -/

/-- Below the root, normalising makes the steps of the walk. -/
theorem pushComponent_eq_walk
    (normal : ∀ component ∈ components, NormalComponent component)
    (component : Text) :
    pushComponent true components component = walk components component := by
  have notLast : components.getLast? ≠ some parent := fun last =>
    (normal parent (List.mem_of_getLast? last)).2.2.1 rfl
  unfold pushComponent walk
  split
  · rfl
  · by_cases isParent : component = parent
    · simp [isParent, notLast]
    · simp [isParent]

theorem foldl_pushComponent_eq_walk
    {added : List Text}
    (normal : ∀ component ∈ components, NormalComponent component)
    (noSeparator : ∀ component ∈ added, separator ∉ component) :
    added.foldl (pushComponent true) components =
      added.foldl walk components := by
  induction added generalizing components with
  | nil => rfl
  | cons component added inductionHypothesis =>
      rw [List.forall_mem_cons] at noSeparator
      have pushed := pushComponent_normal normal noSeparator.1
      rw [List.foldl_cons, List.foldl_cons,
        inductionHypothesis pushed noSeparator.2,
        pushComponent_eq_walk normal]

/-- The components of a joined path are those of the destination. -/
theorem resolve_join_rooted
    (normal : ∀ component ∈ components, NormalComponent component)
    (path : Text) :
    resolve (join (rooted 0 components) path) =
      destination components path := by
  have noSeparator : ∀ component ∈ split path, separator ∉ component :=
    fun component member => separator_not_mem_of_mem_split member
  unfold destination
  cases absolute : isAbsolute path with
  | true =>
      rw [join, if_pos absolute, resolve_of_isAbsolute absolute, if_pos rfl]
      exact foldl_pushComponent_eq_walk (List.forall_mem_nil _) noSeparator
  | false =>
      rw [resolve_join_of_relative (isAbsolute_rooted 0 components) absolute,
        resolve_rooted 0 normal, if_neg (by simp)]
      exact foldl_pushComponent_eq_walk normal noSeparator

/-- A relative path is joined below one leading separator. -/
theorem leadingSeparators_join_rooted
    (normal : ∀ component ∈ components, NormalComponent component)
    {path : Text} (relative : isAbsolute path = false) :
    leadingSeparators (join (rooted 0 components) path) = 1 := by
  have root_eq : rooted 0 components = separator :: unsplit components := rfl
  have below := isAbsolute_unsplit normal
  cases together : unsplit components with
  | nil =>
      rw [join, relative, if_neg (by simp), root_eq, together,
        if_pos (.inr rfl)]
      exact leadingSeparators_cons relative
  | cons point rest =>
      rw [together] at below
      have start : ∀ more : Text, isAbsolute (point :: rest ++ more) = false :=
        fun _ => below
      rw [join, relative, if_neg (by simp), root_eq, together]
      split
      · exact leadingSeparators_cons (start path)
      · exact leadingSeparators_cons (start (separator :: path))

/-- Joining and normalising lead to the destination. -/
theorem normalize_join_rooted
    (normal : ∀ component ∈ components, NormalComponent component)
    (path : Text) :
    normalize (join (rooted 0 components) path) =
      destinationPath components path := by
  have joined := isAbsolute_join path (isAbsolute_rooted 0 components)
  rw [normalize_eq_of_isAbsolute joined, resolve_join_rooted normal,
    destinationPath]
  cases absolute : isAbsolute path with
  | true => rw [join, if_pos absolute, if_pos rfl]
  | false =>
      rw [leadingSeparators_join_rooted normal absolute, if_neg (by simp)]

/-! ## The components of the destination -/

theorem destination_normal
    (normal : ∀ component ∈ components, NormalComponent component)
    (path : Text) :
    ∀ component ∈ destination components path, NormalComponent component := by
  rw [← resolve_join_rooted normal]
  exact resolve_normal (isAbsolute_join path (isAbsolute_rooted 0 components))

/-- An absolute path of components leads to them, wherever it is read. -/
theorem destination_rooted
    (directory : List Text) (leading : Nat)
    (normal : ∀ component ∈ components, NormalComponent component) :
    destination directory (rooted leading components) = components := by
  have absolute := isAbsolute_rooted leading components
  have noSeparator :
      ∀ component ∈ split (rooted leading components), separator ∉ component :=
    fun component member => separator_not_mem_of_mem_split member
  rw [destination, absolute, if_pos rfl,
    ← foldl_pushComponent_eq_walk (List.forall_mem_nil _) noSeparator,
    ← resolve_of_isAbsolute absolute, resolve_rooted leading normal]

/-- The path of the destination is an absolute path of its components. -/
theorem exists_destinationPath_eq (components : List Text) (path : Text) :
    ∃ leading, destinationPath components path =
      rooted leading (destination components path) := by
  unfold destinationPath
  cases absolute : isAbsolute path with
  | true =>
      obtain ⟨leading, count⟩ := leadingSeparators_of_isAbsolute absolute
      exact ⟨leading, by rw [if_pos rfl, count, rooted]⟩
  | false => exact ⟨0, rfl⟩

/-- Between the separators of an absolute path stand its components, and
nothing else but empty ones. -/
theorem mem_split_rooted
    (leading : Nat)
    (normal : ∀ component ∈ components, NormalComponent component)
    {component : Text} (member : component ∈ split (rooted leading components)) :
    component = [] ∨ component ∈ components := by
  unfold rooted at member
  induction leading with
  | zero =>
      rw [List.replicate_one, List.singleton_append, split_separator_cons,
        List.mem_cons] at member
      rcases member with empty | member
      · exact .inl empty
      · by_cases none : components = []
        · rw [none] at member
          exact .inl (List.mem_singleton.mp member)
        · rw [split_unsplit none normal] at member
          exact .inr member
  | succ leading inductionHypothesis =>
      rw [List.replicate_succ, List.cons_append, split_separator_cons,
        List.mem_cons] at member
      rcases member with empty | member
      · exact .inl empty
      · exact inductionHypothesis member

/-- No component of the destination names the directory itself or its
parent. -/
theorem ne_of_mem_split_destinationPath
    (normal : ∀ component ∈ components, NormalComponent component)
    {path component : Text}
    (member : component ∈ split (destinationPath components path)) :
    component ≠ current ∧ component ≠ parent := by
  obtain ⟨leading, path_eq⟩ := exists_destinationPath_eq components path
  have destinationNormal := destination_normal normal path
  rw [path_eq] at member
  rcases mem_split_rooted leading destinationNormal member with rfl | member
  · exact ⟨nofun, nofun⟩
  · have named := destinationNormal component member
    exact ⟨named.2.1, named.2.2.1⟩

/-! ## Names that go on -/

/-- The name of an entry with more characters names an entry. -/
theorem NormalComponent.append
    {component suffix : Text} (normal : NormalComponent component)
    (nonempty : suffix ≠ []) (noSeparator : separator ∉ suffix) :
    NormalComponent (component ++ suffix) := by
  obtain ⟨point, points, rfl⟩ := List.exists_cons_of_ne_nil normal.1
  obtain ⟨next, others, rfl⟩ := List.exists_cons_of_ne_nil nonempty
  refine ⟨nofun, ?_, ?_, ?_⟩
  · intro same
    have lengths := congrArg List.length same
    rw [List.length_append, List.length_cons, List.length_cons,
      show current.length = 1 from rfl] at lengths
    omega
  · intro same
    have lengths := congrArg List.length same
    rw [List.length_append, List.length_cons, List.length_cons,
      show parent.length = 2 from rfl] at lengths
    obtain rfl := List.length_eq_zero_iff.mp
      (show points.length = 0 by omega)
    obtain rfl : point = 0x2E := (List.cons.inj same).1
    exact normal.2.1 rfl
  · rw [List.mem_append, not_or]
    exact ⟨normal.2.2.2, noSeparator⟩

theorem unsplit_concat_append
    (components : List Text) (last suffix : Text) :
    unsplit (components ++ [last]) ++ suffix =
      unsplit (components ++ [last ++ suffix]) := by
  cases components with
  | nil => simp [unsplit, Text.join]
  | cons first components =>
      rw [unsplit_append_singleton, unsplit_append_singleton,
        List.append_assoc, List.cons_append]

/-! ## Common ancestors -/

theorem commonPart_of_prefix {α : Type} [DecidableEq α] {xs ys : List α}
    (first : xs <+: ys) : commonPart xs ys = xs := by
  obtain ⟨rest, rfl⟩ := first
  induction xs with
  | nil => cases rest <;> rfl
  | cons head xs inductionHypothesis =>
      rw [List.cons_append, commonPart, if_pos rfl, inductionHypothesis]

/-- A normal path is the longest common ancestor of itself and an absolute path
that has its components first. -/
theorem common_rooted_iff
    (normal : ∀ component ∈ components, NormalComponent component)
    {path : Text} (absolute : isAbsolute path = true) :
    common (rooted 0 components) path = some (rooted 0 components) ↔
      components <+: meaningful path := by
  refine ⟨prefix_of_common_eq normal, fun first => ?_⟩
  unfold common
  rw [isAbsolute_rooted, absolute, meaningful_rooted 0 normal,
    commonPart_of_prefix first]
  rfl

/-- The destination lies in the directory exactly when the directory is a
common ancestor of both. -/
theorem common_destinationPath_iff
    (normal : ∀ component ∈ components, NormalComponent component)
    (path : Text) :
    common (rooted 0 components) (destinationPath components path) =
        some (rooted 0 components) ↔
      components <+: destination components path := by
  obtain ⟨leading, path_eq⟩ := exists_destinationPath_eq components path
  rw [path_eq, common_rooted_iff normal (isAbsolute_rooted _ _),
    meaningful_rooted leading (destination_normal normal path)]

/-- There is always a common ancestor. -/
theorem exists_common_destinationPath (components directory : List Text)
    (path : Text) :
    ∃ ancestor, common (rooted 0 components) (destinationPath directory path) =
      some ancestor := by
  obtain ⟨leading, path_eq⟩ := exists_destinationPath_eq directory path
  rw [path_eq, common, isAbsolute_rooted, isAbsolute_rooted, if_pos rfl]
  exact ⟨_, rfl⟩

end PosixPath

end Foundation

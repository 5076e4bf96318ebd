import RudpAgentStack.Agent.Validations
import RudpAgentStack.Foundation.LexicalPaths

/-!
# What validation accepts

`validate_path` accepts a name exactly when following it from the sandbox root
ends in the root or below it, and returns the path of that place.  The walk is
over components, so a path that merely starts with the text of the root is
rejected like any other outside it.
-/

namespace RudpAgentStack

open Foundation

/-- The path names a sibling of the root, which has the same parent directory
under another name, or leads below one. -/
def BesideRoot (root path : Text) : Prop :=
  ∃ directory last name below,
    PosixPath.meaningful root = directory ++ [last] ∧ name ≠ last ∧
      (∀ component ∈ directory ++ name :: below,
        PosixPath.NormalComponent component) ∧
      path = PosixPath.rooted 0 (directory ++ name :: below)

namespace PolicyGuard

/-- An absolute root is read alike in all working directories. -/
theorem init_of_isNormal
    (workingDirectory : Text) {root : Text} (isNormal : PosixPath.IsNormal root) :
    init workingDirectory root = ⟨root⟩ := by
  rw [init, PosixPath.join, if_pos isNormal.absolute, isNormal.normalized]

/-- What `validate_path` does with a string. -/
theorem validatePath_string
    {root : Text} (isNormal : PosixPath.IsNormal root) (name : Text) :
    validatePath ⟨root⟩ (.string name) =
      if name = [] then valueError "Filename cannot be empty"
      else if PosixPath.meaningful root <+:
          PosixPath.destination (PosixPath.meaningful root) name then
        .ok (PosixPath.destinationPath (PosixPath.meaningful root) name)
      else valueError "Path traversal detected" := by
  obtain ⟨normal, root_eq⟩ := isNormal.eq_rooted
  generalize PosixPath.meaningful root = components at normal root_eq ⊢
  subst root_eq
  have inside := PosixPath.common_destinationPath_iff normal name
  obtain ⟨ancestor, common⟩ :=
    PosixPath.exists_common_destinationPath components components name
  rw [common, Option.some.injEq] at inside
  unfold validatePath
  by_cases empty : name = []
  · rw [if_pos (by simp [Json.truthy, empty]), if_pos empty]
  · rw [if_neg (by simp [Json.truthy, empty]), if_neg empty]
    dsimp only
    rw [PosixPath.normalize_join_rooted normal, common]
    dsimp only
    rw [ite_not, if_congr inside rfl rfl]

/-- A name that leads beside the root does not lead into it. -/
theorem not_prefix_of_besideRoot
    {root path : Text} (beside : BesideRoot root path)
    (directory : List Text) :
    ¬ PosixPath.meaningful root <+: PosixPath.destination directory path := by
  obtain ⟨before, last, name, below, root_eq, different, normal, rfl⟩ := beside
  rw [root_eq, PosixPath.destination_rooted directory 0 normal,
    List.prefix_append_right_inj, List.cons_prefix_cons]
  rintro ⟨same, _⟩
  exact different same.symm

/-- The text of a root that is not `/` with more characters names a sibling. -/
theorem besideRoot_append
    {root suffix : Text} (isNormal : PosixPath.IsNormal root)
    (notTop : PosixPath.meaningful root ≠ []) (nonempty : suffix ≠ [])
    (noSeparator : PosixPath.separator ∉ suffix) :
    BesideRoot root (root ++ suffix) := by
  obtain ⟨normal, root_eq⟩ := isNormal.eq_rooted
  obtain ⟨directory, last, components_eq⟩ :=
    (List.eq_nil_or_concat _).resolve_left notTop
  rw [List.concat_eq_append] at components_eq
  rw [components_eq, List.forall_mem_append, List.forall_mem_singleton]
    at normal
  have extended := normal.2.append nonempty noSeparator
  refine ⟨directory, last, last ++ suffix, [], components_eq, ?_, ?_, ?_⟩
  · simpa using nonempty
  · rw [List.forall_mem_append, List.forall_mem_singleton]
    exact ⟨normal.1, extended⟩
  · conv_lhs => rw [root_eq, components_eq]
    rw [PosixPath.rooted, PosixPath.rooted, List.append_assoc,
      PosixPath.unsplit_concat_append]

/-- Validation is exact.  A guard for a normal absolute root returns the path of
the place a name leads to when the name is not empty and the place is the root
or below it.  That path has no component `.` or `..`.  Every other name raises a
`ValueError`, names of siblings of the root among them. -/
theorem validatePath_exact
    (workingDirectory : Text) {root : Text} (isNormal : PosixPath.IsNormal root) :
    let guard := init workingDirectory root
    let components := PosixPath.meaningful root
    (∀ name path, guard.validatePath (.string name) = .ok path ↔
      name ≠ [] ∧ components <+: PosixPath.destination components name ∧
        path = PosixPath.destinationPath components name) ∧
      (∀ name path, guard.validatePath (.string name) = .ok path →
        ∀ component ∈ PosixPath.split path,
          component ≠ PosixPath.current ∧ component ≠ PosixPath.parent) ∧
      (∀ name error, guard.validatePath (.string name) = .error error →
        error.kind = .valueError) ∧
      (∀ path, BesideRoot root path →
        guard.validatePath (.string path) =
          valueError "Path traversal detected") ∧
      (components ≠ [] → ∀ suffix, suffix ≠ [] →
        PosixPath.separator ∉ suffix → BesideRoot root (root ++ suffix)) := by
  have validated := validatePath_string isNormal
  rw [init_of_isNormal workingDirectory isNormal]
  intro guard components
  have accepted : ∀ name path, guard.validatePath (.string name) = .ok path ↔
      name ≠ [] ∧ components <+: PosixPath.destination components name ∧
        path = PosixPath.destinationPath components name := by
    intro name path
    rw [validated]
    split_ifs with empty inside
    · simp [valueError, empty]
    · simp [empty, inside, components, eq_comm]
    · simp [valueError, inside, components]
  refine ⟨accepted, ?_, ?_, ?_, ?_⟩
  · intro name path valid component member
    obtain ⟨_, _, rfl⟩ := (accepted name path).mp valid
    exact PosixPath.ne_of_mem_split_destinationPath isNormal.eq_rooted.1
      member
  · intro name error failed
    rw [validated] at failed
    split_ifs at failed
    · cases failed
      rfl
    · cases failed
      rfl
  · intro path beside
    obtain ⟨_, _, _, _, _, _, _, path_eq⟩ := id beside
    rw [validated, if_neg (by rw [path_eq]; exact nofun),
      if_neg (not_prefix_of_besideRoot beside components)]
  · intro notTop suffix nonempty noSeparator
    exact besideRoot_append isNormal notTop nonempty noSeparator

/-- A name with components to pass over is accepted with its path, an absolute
one with two leading separators too, and the sibling is not. -/
theorem validatePath_exact_sandbox :
    (init "/home" "/tmp/box").validatePath (.string "./a//../b.txt") =
        .ok "/tmp/box/b.txt" ∧
      (init "/home" "/tmp/box").validatePath (.string "//tmp/box/b.txt") =
        .ok "//tmp/box/b.txt" ∧
      (init "/home" "/tmp/box").validatePath (.string "/tmp/boxes") =
        valueError "Path traversal detected" := by
  have isNormal : PosixPath.IsNormal "/tmp/box" :=
    ⟨by decide +kernel, by decide +kernel, by decide +kernel⟩
  obtain ⟨accepted, _, _, rejected, siblings⟩ :=
    validatePath_exact "/home" isNormal
  refine ⟨?_, ?_, ?_⟩
  · exact (accepted _ _).mpr (by decide +kernel)
  · exact (accepted _ _).mpr (by decide +kernel)
  · exact rejected _ (siblings (by decide +kernel) "es" (by decide +kernel)
      (by decide +kernel))

end PolicyGuard

end RudpAgentStack

import RudpAgentStack.Agent.TaskConduct
import RudpAgentStack.Foundation.PathComponents
import Mathlib.Data.Set.Insert

/-!
# The record of touched paths

A record keeps the paths the server creates, opens, truncates, writes, removes
or renames.  A path that was validated leads to the sandbox root or below it, so
touching it is safe, and so is a temporary file in a directory inside the root.
-/

namespace RudpAgentStack

open Foundation

variable {World : Type} {host : Host World} {guard : PolicyGuard}

/-! ## Validated paths -/

/-- The root is a path as `os.path.abspath` returns it. -/
def PolicyGuard.WellFormed (guard : PolicyGuard) : Prop :=
  ∃ leading components,
    (∀ component ∈ components, PosixPath.NormalComponent component) ∧
      guard.sandboxRoot = PosixPath.rooted leading components

/-- The constructor makes the root an absolute normalised path. -/
theorem PolicyGuard.wellFormed_init
    {workingDirectory : Text} (sandboxRoot : Text)
    (absolute : PosixPath.isAbsolute workingDirectory = true) :
    (init workingDirectory sandboxRoot).WellFormed := by
  have joined := PosixPath.isAbsolute_join sandboxRoot absolute
  obtain ⟨leading, normalized⟩ := PosixPath.normalize_of_isAbsolute joined
  exact ⟨leading, _, PosixPath.resolve_normal joined, normalized⟩

/-- The path lies below the root, and is not the root itself. -/
def StrictlyInside (root path : Text) : Prop :=
  PosixPath.isAbsolute path = true ∧
    PosixPath.parent ∉ PosixPath.meaningful path ∧
    PosixPath.meaningful root <+: PosixPath.meaningful path ∧
    PosixPath.meaningful root ≠ PosixPath.meaningful path

/-- The directory of the path is the root or lies below it. -/
def DirectoryInside (root path : Text) : Prop :=
  PosixPath.meaningful root <+: (PosixPath.meaningful path).dropLast

/-- The path is the root, and the root has a directory above it. -/
def NamesRoot (root path : Text) : Prop :=
  PosixPath.meaningful path = PosixPath.meaningful root ∧
    PosixPath.meaningful root ≠ []

/-- A path is validated when it is the normalised path of a name, and the root
is its common ancestor with the root. -/
theorem PolicyGuard.of_validatePath
    {filename : Json} {path : Text}
    (valid : guard.validatePath filename = .ok path) :
    ∃ name, filename = .string name ∧
      path = PosixPath.normalize (PosixPath.join guard.sandboxRoot name) ∧
      PosixPath.common guard.sandboxRoot path = some guard.sandboxRoot := by
  unfold validatePath at valid
  split at valid
  · cases valid
  · cases filename with
    | string name =>
      dsimp only at valid
      split at valid
      · cases valid
      · next ancestor common =>
          split at valid
          · cases valid
          · next same =>
              cases valid
              rw [not_not] at same
              exact ⟨name, rfl, rfl, by rw [common, same]⟩
    | _ => cases valid

/-- A validated path is the normal path of the resolved components, and leads
to the root or below it. -/
theorem PolicyGuard.WellFormed.validated
    (wellFormed : guard.WellFormed) {filename : Json} {path : Text}
    (valid : guard.validatePath filename = .ok path) :
    ∃ leading components,
      (∀ component ∈ components, PosixPath.NormalComponent component) ∧
        path = PosixPath.rooted leading components ∧
        PosixPath.meaningful guard.sandboxRoot <+: components := by
  obtain ⟨rootLeading, rootComponents, rootNormal, root_eq⟩ := wellFormed
  obtain ⟨name, rfl, path_eq, common⟩ := of_validatePath valid
  have absolute : PosixPath.isAbsolute
      (PosixPath.join guard.sandboxRoot name) = true := by
    rw [root_eq]
    exact PosixPath.isAbsolute_join _ (PosixPath.isAbsolute_rooted _ _)
  obtain ⟨leading, normalized⟩ := PosixPath.normalize_of_isAbsolute absolute
  have normal := PosixPath.resolve_normal absolute
  refine ⟨leading, _, normal, path_eq.trans normalized, ?_⟩
  have common_root : PosixPath.common
      (PosixPath.rooted rootLeading rootComponents) path =
      some (PosixPath.rooted rootLeading rootComponents) := by
    rw [← root_eq, common]
  have first := PosixPath.prefix_of_common_eq rootNormal common_root
  rw [path_eq, normalized, PosixPath.meaningful_rooted _ normal] at first
  rw [root_eq, PosixPath.meaningful_rooted _ rootNormal]
  rwa [← root_eq]

/-- A path above a validated one lies strictly inside the root, or it is the
root or above it. -/
theorem PolicyGuard.WellFormed.inside_or_above
    (wellFormed : guard.WellFormed) {filename : Json} {path ancestor : Text}
    (valid : guard.validatePath filename = .ok path)
    (absolute : PosixPath.isAbsolute ancestor = true)
    (above : PosixPath.meaningful ancestor <+: PosixPath.meaningful path) :
    StrictlyInside guard.sandboxRoot ancestor ∨
      PosixPath.isAbsolute ancestor = true ∧
        PosixPath.meaningful ancestor <+:
          PosixPath.meaningful guard.sandboxRoot := by
  obtain ⟨leading, components, normal, rfl, below⟩ := wellFormed.validated valid
  rw [PosixPath.meaningful_rooted _ normal] at above
  by_cases same : PosixPath.meaningful guard.sandboxRoot =
      PosixPath.meaningful ancestor
  · exact .inr ⟨absolute, same ▸ List.prefix_refl _⟩
  · rcases List.prefix_or_prefix_of_prefix above below with onWay | inside
    · exact .inr ⟨absolute, onWay⟩
    · refine .inl ⟨absolute, fun member => ?_, inside, same⟩
      exact (normal _ (above.subset member)).2.2.1 rfl

/-- The name of a temporary file in the directory of a validated path. -/
theorem PolicyGuard.WellFormed.meaningful_temporary
    (wellFormed : guard.WellFormed) {filename : Json} {path base : Text}
    (valid : guard.validatePath filename = .ok path)
    (named : PosixPath.NormalComponent base) :
    PosixPath.isAbsolute
        (PosixPath.join (PosixPath.directory path) base) = true ∧
      PosixPath.parent ∉ PosixPath.meaningful
        (PosixPath.join (PosixPath.directory path) base) ∧
      PosixPath.meaningful (PosixPath.join (PosixPath.directory path) base) =
        (PosixPath.meaningful path).dropLast ++ [base] := by
  obtain ⟨leading, components, normal, rfl, _⟩ := wellFormed.validated valid
  have absolute := PosixPath.isAbsolute_directory_rooted leading normal
  obtain ⟨relative, base_eq⟩ := named.meaningful
  have joined : PosixPath.meaningful
      (PosixPath.join (PosixPath.directory
        (PosixPath.rooted leading components)) base) =
      components.dropLast ++ [base] := by
    rw [PosixPath.meaningful_join _ relative, base_eq,
      PosixPath.meaningful_directory_rooted leading normal]
  refine ⟨PosixPath.isAbsolute_join _ absolute, ?_, ?_⟩
  · rw [joined, List.mem_append, List.mem_singleton, not_or]
    refine ⟨fun member => ?_, fun same => named.2.2.1 same.symm⟩
    exact (normal _ (List.mem_of_mem_dropLast member)).2.2.1 rfl
  · rw [joined, PosixPath.meaningful_rooted _ normal]

/-! ## The record of touched paths -/

/-- The computation touches only the given paths, none that is a directory, and
leaves directories as they are. -/
def Touches {α : Type}
    (touched : World → Set Text) (isDirectory : World → Text → Prop)
    (paths : Set Text) (action : Action World α) : Prop :=
  ∀ world,
    touched world ⊆ touched (action.run world).2 ∧
    (∀ path ∈ touched (action.run world).2,
      path ∈ touched world ∨ path ∈ paths ∧ ¬ isDirectory world path) ∧
    ∀ path, isDirectory world path → isDirectory (action.run world).2 path

/-- A record of the paths that were created, opened, truncated, written,
removed or renamed.  Directories cannot be opened, replaced or removed as
files, and there are no symbolic links: what a path leads to can be read off
its components.  Asking for the size of a file, for its metadata or for the
names in a directory opens no file. -/
structure PathRecord (host : Host World) where
  touched : World → Set Text
  isDirectory : World → Text → Prop
  uuid4 : Touches touched isDirectory ∅ host.uuid4
  getsize : ∀ path, Touches touched isDirectory ∅ (host.getsize path)
  listdir : ∀ path, Touches touched isDirectory ∅ (host.listdir path)
  stat : ∀ path, Touches touched isDirectory ∅ (host.stat path)
  /-- Only missing directories are created, on the way to the given one. -/
  makedirs : ∀ path, Touches touched isDirectory
    {ancestor | PosixPath.isAbsolute ancestor = PosixPath.isAbsolute path ∧
      PosixPath.meaningful ancestor <+: PosixPath.meaningful path}
    (host.makedirs path)
  readFile : ∀ path, Touches touched isDirectory {path} (host.readFile path)
  createEmpty : ∀ path,
    Touches touched isDirectory {path} (host.createEmpty path)
  appendFile : ∀ path data,
    Touches touched isDirectory {path} (host.appendFile path data)
  openUpdate : ∀ path,
    Touches touched isDirectory {path} (host.openUpdate path)
  writeAt : ∀ path position data,
    Touches touched isDirectory {path} (host.writeAt path position data)
  writeTemporary : ∀ name data,
    Touches touched isDirectory {name} (host.writeTemporary name data)
  flushTemporary : ∀ name,
    Touches touched isDirectory {name} (host.flushTemporary name)
  syncTemporary : ∀ name,
    Touches touched isDirectory {name} (host.syncTemporary name)
  closeTemporary : ∀ name,
    Touches touched isDirectory {name} (host.closeTemporary name)
  replace : ∀ source target,
    Touches touched isDirectory {source, target} (host.replace source target)
  remove : ∀ path, Touches touched isDirectory {path} (host.remove path)
  /-- A temporary file is created under a new name in the directory, or
  nothing happens. -/
  createTemporary : ∀ directory world,
    Ends (host.createTemporary directory) world
      (fun name after =>
        (∃ base, PosixPath.NormalComponent base ∧
          name = PosixPath.join directory base) ∧
        touched after = insert name (touched world) ∧
        ∀ path, isDirectory world path → isDirectory after path)
      (fun _ after => touched after = touched world ∧
        ∀ path, isDirectory world path → isDirectory after path)

namespace PathRecord

variable (record : PathRecord host)

/-- Everything touched so far lies strictly inside the root. -/
def Confined (root : Text) (world : World) : Prop :=
  ∀ path ∈ record.touched world, StrictlyInside root path

/-- The root and the directories above it exist. -/
def RootPresent (root : Text) (world : World) : Prop :=
  ∀ path, PosixPath.isAbsolute path = true →
    PosixPath.meaningful path <+: PosixPath.meaningful root →
    record.isDirectory world path

/-- What requests keep: the root is there, and everything touched is inside. -/
structure Safe (root : Text) (world : World) : Prop where
  present : record.RootPresent root world
  confined : record.Confined root world

variable {record} {root : Text}

/-- Touching paths that are inside, or known to be directories, is safe. -/
theorem Safe.of_touches {α : Type} {action : Action World α} {paths : Set Text}
    (touches : Touches record.touched record.isDirectory paths action)
    (harmless : ∀ path ∈ paths, StrictlyInside root path ∨
      PosixPath.isAbsolute path = true ∧
        PosixPath.meaningful path <+: PosixPath.meaningful root)
    (raised : PyError → Prop) (raises : ∀ error, raised error) :
    Keeps (record.Safe root) action (fun _ => True) raised := by
  intro world safe
  obtain ⟨_, bounded, directories⟩ := touches world
  have after : record.Safe root (action.run world).2 := by
    refine ⟨fun path absolute above =>
      directories path (safe.present path absolute above), ?_⟩
    intro path touched
    rcases bounded path touched with before | ⟨member, noDirectory⟩
    · exact safe.confined path before
    · rcases harmless path member with inside | ⟨absolute, above⟩
      · exact inside
      · exact absurd (safe.present path absolute above) noDirectory
  unfold Ends
  generalize action.run world = result at after
  obtain ⟨error | value, final⟩ := result
  · exact ⟨raises error, after⟩
  · exact ⟨trivial, after⟩

/-- Touching what is above a validated path is safe. -/
theorem Safe.of_touches_above {α : Type} {action : Action World α}
    {paths : Set Text} (wellFormed : guard.WellFormed)
    {filename : Json} {path : Text}
    (valid : guard.validatePath filename = .ok path)
    (touches : Touches record.touched record.isDirectory paths action)
    (above : ∀ ancestor ∈ paths, PosixPath.isAbsolute ancestor = true ∧
      PosixPath.meaningful ancestor <+: PosixPath.meaningful path) :
    Keeps (record.Safe guard.sandboxRoot) action (fun _ => True)
      (fun _ => True) :=
  Safe.of_touches touches (fun ancestor member =>
    wellFormed.inside_or_above valid (above ancestor member).1
      (above ancestor member).2) _ fun _ => trivial

theorem isAbsolute_of_validatePath
    (wellFormed : guard.WellFormed) {filename : Json} {path : Text}
    (valid : guard.validatePath filename = .ok path) :
    PosixPath.isAbsolute path = true := by
  obtain ⟨leading, components, _, rfl, _⟩ := wellFormed.validated valid
  exact PosixPath.isAbsolute_rooted _ _

/-- Touching a validated path is safe. -/
theorem Safe.of_touches_validated {α : Type} {action : Action World α}
    (wellFormed : guard.WellFormed) {filename : Json} {path : Text}
    (valid : guard.validatePath filename = .ok path)
    (touches : Touches record.touched record.isDirectory {path} action) :
    Keeps (record.Safe guard.sandboxRoot) action (fun _ => True)
      (fun _ => True) := by
  refine Safe.of_touches_above wellFormed valid touches ?_
  rintro _ rfl
  exact ⟨isAbsolute_of_validatePath wellFormed valid, List.prefix_refl _⟩

/-- Touching a path that is inside is safe. -/
theorem Safe.of_touches_inside {α : Type} {action : Action World α}
    {name : Text} (inside : StrictlyInside root name)
    (touches : Touches record.touched record.isDirectory {name} action) :
    Keeps (record.Safe root) action (fun _ => True) (fun _ => True) := by
  refine Safe.of_touches touches ?_ _ fun _ => trivial
  rintro _ rfl
  exact .inl inside

theorem Safe.of_makedirs
    (wellFormed : guard.WellFormed) {filename : Json} {path : Text}
    (valid : guard.validatePath filename = .ok path) :
    Keeps (record.Safe guard.sandboxRoot)
      (host.makedirs (PosixPath.directory path)) (fun _ => True)
      (fun _ => True) := by
  refine Safe.of_touches_above wellFormed valid (record.makedirs _) ?_
  rintro ancestor ⟨absolute, above⟩
  obtain ⟨leading, components, normal, rfl, _⟩ := wellFormed.validated valid
  rw [PosixPath.isAbsolute_directory_rooted leading normal] at absolute
  rw [PosixPath.meaningful_directory_rooted leading normal] at above
  rw [PosixPath.meaningful_rooted _ normal]
  exact ⟨absolute, above.trans (List.dropLast_prefix _)⟩

theorem Safe.of_replace
    (wellFormed : guard.WellFormed) {filename : Json} {source path : Text}
    (inside : StrictlyInside guard.sandboxRoot source)
    (valid : guard.validatePath filename = .ok path) :
    Keeps (record.Safe guard.sandboxRoot) (host.replace source path)
      (fun _ => True) (fun _ => True) := by
  refine Safe.of_touches (record.replace source path) ?_ _ fun _ => trivial
  rintro _ (rfl | rfl)
  · exact .inl inside
  · exact wellFormed.inside_or_above valid
      (isAbsolute_of_validatePath wellFormed valid) (List.prefix_refl _)

theorem Safe.of_unchanged
    {world after : World} (safe : record.Safe root world)
    (touched : record.touched after = record.touched world)
    (directories : ∀ path, record.isDirectory world path →
      record.isDirectory after path) :
    record.Safe root after := by
  refine ⟨fun path absolute above =>
    directories path (safe.present path absolute above), ?_⟩
  intro other member
  rw [touched] at member
  exact safe.confined other member

/-- A temporary file in a directory inside is inside. -/
theorem Safe.of_createTemporary
    (wellFormed : guard.WellFormed) {filename : Json} {path : Text}
    (valid : guard.validatePath filename = .ok path)
    (directoryInside : DirectoryInside guard.sandboxRoot path) :
    Keeps (record.Safe guard.sandboxRoot)
      (host.createTemporary (PosixPath.directory path))
      (StrictlyInside guard.sandboxRoot) (fun _ => True) := by
  intro world safe
  refine (record.createTemporary _ world).mono ?_ ?_
  · rintro _ after ⟨⟨base, named, rfl⟩, touched, directories⟩
    obtain ⟨absolute, noParent, meaningful_eq⟩ :=
      wellFormed.meaningful_temporary valid named
    have inside : StrictlyInside guard.sandboxRoot
        (PosixPath.join (PosixPath.directory path) base) := by
      refine ⟨absolute, noParent, ?_, ?_⟩
      · rw [meaningful_eq]
        exact directoryInside.trans (List.prefix_append _ _)
      · intro same
        have shorter := directoryInside.length_le
        rw [same, meaningful_eq, List.length_append, List.length_singleton]
          at shorter
        omega
    refine ⟨inside, fun path absolute above =>
      directories path (safe.present path absolute above), ?_⟩
    intro other member
    rw [touched] at member
    rcases member with rfl | before
    · exact inside
    · exact safe.confined other before
  · rintro _ after ⟨touched, directories⟩
    exact ⟨trivial, safe.of_unchanged touched directories⟩

/-- A temporary file next to the root is not inside. -/
theorem not_strictlyInside_temporary
    (wellFormed : guard.WellFormed) {filename : Json} {path base : Text}
    (valid : guard.validatePath filename = .ok path)
    (isRoot : NamesRoot guard.sandboxRoot path)
    (named : PosixPath.NormalComponent base) :
    ¬ StrictlyInside guard.sandboxRoot
      (PosixPath.join (PosixPath.directory path) base) := by
  rintro ⟨_, _, below, different⟩
  have meaningful_eq := (wellFormed.meaningful_temporary valid named).2.2
  rw [isRoot.1] at meaningful_eq
  refine different (below.eq_of_length ?_)
  rw [meaningful_eq, List.length_append, List.length_dropLast,
    List.length_singleton]
  have positive := List.length_pos_of_ne_nil isRoot.2
  omega

/-- What the operations of a host do to the record, as a conduct. -/
def confining (record : PathRecord host) (wellFormed : guard.WellFormed) :
    Conduct host guard where
  invariant := record.Safe guard.sandboxRoot
  raised := fun _ => True
  size := fun _ _ => True
  content := fun _ => True
  writable := DirectoryInside guard.sandboxRoot
  temporary := StrictlyInside guard.sandboxRoot
  uuid4 := Safe.of_touches record.uuid4 nofun _ fun _ => trivial
  getsize := fun path =>
    Safe.of_touches (record.getsize path) nofun _ fun _ => trivial
  listdir := Safe.of_touches (record.listdir _) nofun _ fun _ => trivial
  stat := fun path =>
    Safe.of_touches (record.stat path) nofun _ fun _ => trivial
  makedirs := Safe.of_makedirs wellFormed
  readFile := fun valid =>
    Safe.of_touches_validated wellFormed valid (record.readFile _)
  createEmpty := fun valid =>
    Safe.of_touches_validated wellFormed valid (record.createEmpty _)
  appendFile := fun data valid =>
    Safe.of_touches_validated wellFormed valid (record.appendFile _ data)
  openUpdate := fun valid =>
    Safe.of_touches_validated wellFormed valid (record.openUpdate _)
  writeAt := fun position data valid =>
    Safe.of_touches_validated wellFormed valid (record.writeAt _ position data)
  createTemporary := Safe.of_createTemporary wellFormed
  writeTemporary := fun data inside =>
    Safe.of_touches_inside inside (record.writeTemporary _ data)
  flushTemporary := fun inside =>
    Safe.of_touches_inside inside (record.flushTemporary _)
  syncTemporary := fun inside =>
    Safe.of_touches_inside inside (record.syncTemporary _)
  closeTemporary := fun inside =>
    Safe.of_touches_inside inside (record.closeTemporary _)
  replace := Safe.of_replace wellFormed
  remove := fun inside => Safe.of_touches_inside inside (record.remove _)

end PathRecord

/-! ## Touched paths are not forgotten -/

namespace PathRecord

variable {record : PathRecord host}

theorem touched_kept {α : Type} {action : Action World α} {paths : Set Text}
    (touches : Touches record.touched record.isDirectory paths action)
    (remembered : Text) :
    Keeps (fun world => remembered ∈ record.touched world) action
      (fun _ => True) (fun _ => True) := by
  intro world member
  have after := (touches world).1 member
  unfold Ends
  generalize action.run world = result at after
  obtain ⟨error | value, final⟩ := result <;> exact ⟨trivial, after⟩

theorem touched_kept_of_createTemporary (directory remembered : Text) :
    Keeps (fun world => remembered ∈ record.touched world)
      (host.createTemporary directory) (fun _ => True) (fun _ => True) := by
  intro world member
  refine (record.createTemporary directory world).mono ?_ ?_
  · rintro _ after ⟨_, touched, _⟩
    refine ⟨trivial, show remembered ∈ record.touched after from ?_⟩
    rw [touched]
    exact Set.mem_insert_of_mem _ member
  · rintro _ after ⟨touched, _⟩
    refine ⟨trivial, show remembered ∈ record.touched after from ?_⟩
    rwa [touched]

/-- Operations never forget a touched path. -/
def remembering (record : PathRecord host) (guard : PolicyGuard)
    (remembered : Text) : Conduct host guard where
  invariant := fun world => remembered ∈ record.touched world
  raised := fun _ => True
  size := fun _ _ => True
  content := fun _ => True
  writable := fun _ => True
  temporary := fun _ => True
  uuid4 := touched_kept record.uuid4 _
  getsize := fun path => touched_kept (record.getsize path) _
  listdir := touched_kept (record.listdir _) _
  stat := fun path => touched_kept (record.stat path) _
  makedirs := fun _ => touched_kept (record.makedirs _) _
  readFile := fun _ => touched_kept (record.readFile _) _
  createEmpty := fun _ => touched_kept (record.createEmpty _) _
  appendFile := fun data _ => touched_kept (record.appendFile _ data) _
  openUpdate := fun _ => touched_kept (record.openUpdate _) _
  writeAt := fun position data _ =>
    touched_kept (record.writeAt _ position data) _
  createTemporary := fun _ _ => touched_kept_of_createTemporary _ _
  writeTemporary := fun data _ => touched_kept (record.writeTemporary _ data) _
  flushTemporary := fun _ => touched_kept (record.flushTemporary _) _
  syncTemporary := fun _ => touched_kept (record.syncTemporary _) _
  closeTemporary := fun _ => touched_kept (record.closeTemporary _) _
  replace := fun _ _ => touched_kept (record.replace _ _) _
  remove := fun _ => touched_kept (record.remove _) _

end PathRecord

end RudpAgentStack

import RudpAgentStack.Agent.MemoryHost
import RudpAgentStack.Agent.PathRecord
import RudpAgentStack.Foundation.Logging

/-!
# A host that records

The host in memory with a record of the paths it touched, and with directories:
the directory `/sandbox` and the one above it cannot be opened as files.
-/

namespace RudpAgentStack

open Foundation

namespace RecordingHost

/-- The files, and the paths touched so far. -/
abbrev Disk := Logged MemoryHost.Files Text

/-- The path leads to `/sandbox` or to the directory above it. -/
def isDirectory (path : Text) : Bool :=
  PosixPath.isAbsolute path &&
    (PosixPath.meaningful path).isPrefixOf [Text.ofString "sandbox"]

/-- An operation that opens no file. -/
def quietly {α : Type} (action : Action MemoryHost.Files α) : Action Disk α :=
  logging [] action

/-- An operation that touches files, none of which may be a directory. -/
def touching {α : Type}
    (paths : List Text) (action : Action MemoryHost.Files α) : Action Disk α :=
  if paths.any isDirectory then
    throw ⟨.osError, "[Errno 21] Is a directory"⟩
  else logging paths action

/-- The part of the name of a temporary file that follows its directory. -/
def temporaryBase (index : Nat) : Text :=
  Text.ofString "tmp" ++ List.replicate index 0x5F

/-- Create a temporary file under the first name that is not in use. -/
def createTemporary (directory : Text) : Action Disk Text :=
  ExceptT.mk fun disk =>
    let index := ((List.range (disk.state.size + 1)).find? fun index =>
      PosixPath.join directory (temporaryBase index) ∉ disk.state).getD 0
    let name := PosixPath.join directory (temporaryBase index)
    (.ok name, ⟨disk.state.set name [], name :: disk.log⟩)

theorem temporaryBase_normal (index : Nat) :
    PosixPath.NormalComponent (temporaryBase index) := by
  have starts : temporaryBase index =
      0x74 :: 0x6D :: 0x70 :: List.replicate index 0x5F := rfl
  have noName : ∀ name : Text, name.head? ≠ some 0x74 →
      temporaryBase index ≠ name := by
    rintro _ different rfl
    exact different rfl
  refine ⟨List.cons_ne_nil _ _, noName _ (by decide), noName _ (by decide), ?_⟩
  simp [starts, PosixPath.separator, List.mem_replicate]

/-- The paths a disk has a record of. -/
def touched (disk : Disk) : Set Text := {path | path ∈ disk.log}

theorem logging_touches
    {α : Type} (listed : List Text) (action : Action MemoryHost.Files α)
    {paths : Set Text}
    (within : ∀ path ∈ listed, path ∈ paths ∧ isDirectory path = false) :
    Touches touched (fun _ path => isDirectory path = true) paths
      (logging listed action) := by
  intro disk
  rw [logging_run]
  refine ⟨fun path member => List.mem_append_left _ member, ?_,
    fun _ isTrue => isTrue⟩
  intro path member
  rcases List.mem_append.mp member with before | added
  · exact .inl before
  · obtain ⟨isPath, noDirectory⟩ := within path added
    exact .inr ⟨isPath, by simp [noDirectory]⟩

theorem quietly_touches
    {α : Type} (action : Action MemoryHost.Files α) (paths : Set Text) :
    Touches touched (fun _ path => isDirectory path = true) paths
      (quietly action) :=
  logging_touches [] action nofun

theorem touching_touches
    {α : Type} (listed : List Text) (action : Action MemoryHost.Files α)
    {paths : Set Text} (within : ∀ path ∈ listed, path ∈ paths) :
    Touches touched (fun _ path => isDirectory path = true) paths
      (touching listed action) := by
  unfold touching
  split
  · exact fun _ =>
      ⟨subset_rfl, fun _ member => .inl member, fun _ isTrue => isTrue⟩
  · next noneBlocked =>
      refine logging_touches listed action fun path member => ?_
      rw [List.any_eq_true, not_exists] at noneBlocked
      refine ⟨within path member, ?_⟩
      rw [← Bool.not_eq_true]
      exact fun isTrue => noneBlocked path ⟨member, isTrue⟩

end RecordingHost

open RecordingHost

/-- A host in memory that keeps a record. -/
def recordingHost (host : Host MemoryHost.Files) : Host Disk where
  jsonLoads := host.jsonLoads
  jsonDumps := host.jsonDumps
  decodeErrorMessage := host.decodeErrorMessage
  encodeErrorMessage := host.encodeErrorMessage
  repr := host.repr
  streamRepr := host.streamRepr
  formatMember := host.formatMember
  sha256 := host.sha256
  uuid4 := quietly host.uuid4
  pathExists := fun path disk =>
    isDirectory path || host.pathExists path disk.state
  getsize := fun path => quietly (host.getsize path)
  listdir := fun path => quietly (host.listdir path)
  stat := fun path => quietly (host.stat path)
  makedirs := fun path => quietly (host.makedirs path)
  readFile := fun path => touching [path] (host.readFile path)
  createEmpty := fun path => touching [path] (host.createEmpty path)
  appendFile := fun path data => touching [path] (host.appendFile path data)
  openUpdate := fun path => touching [path] (host.openUpdate path)
  writeAt := fun path position data =>
    touching [path] (host.writeAt path position data)
  createTemporary := createTemporary
  writeTemporary := fun name data =>
    touching [name] (host.writeTemporary name data)
  flushTemporary := fun name => touching [name] (host.flushTemporary name)
  syncTemporary := fun name => touching [name] (host.syncTemporary name)
  closeTemporary := fun name => touching [name] (host.closeTemporary name)
  replace := fun source target =>
    touching [source, target] (host.replace source target)
  remove := fun path => touching [path] (host.remove path)

/-- What the recording host keeps is a record. -/
def recordedPaths (host : Host MemoryHost.Files) :
    PathRecord (recordingHost host) where
  touched := touched
  isDirectory := fun _ path => isDirectory path = true
  uuid4 := quietly_touches _ _
  getsize := fun _ => quietly_touches _ _
  listdir := fun _ => quietly_touches _ _
  stat := fun _ => quietly_touches _ _
  makedirs := fun _ => quietly_touches _ _
  readFile := fun _ => touching_touches _ _ (by simp)
  createEmpty := fun _ => touching_touches _ _ (by simp)
  appendFile := fun _ _ => touching_touches _ _ (by simp)
  openUpdate := fun _ => touching_touches _ _ (by simp)
  writeAt := fun _ _ _ => touching_touches _ _ (by simp)
  writeTemporary := fun _ _ => touching_touches _ _ (by simp)
  flushTemporary := fun _ => touching_touches _ _ (by simp)
  syncTemporary := fun _ => touching_touches _ _ (by simp)
  closeTemporary := fun _ => touching_touches _ _ (by simp)
  replace := fun _ _ => touching_touches _ _ (by simp)
  remove := fun _ => touching_touches _ _ (by simp)
  createTemporary := fun _ _ =>
    ⟨⟨_, temporaryBase_normal _, rfl⟩,
      Set.ext fun _ => List.mem_cons, fun _ isTrue => isTrue⟩

/-! ## A recorded sandbox -/

namespace Sample

/-- A host with a record that reads the request to filter the sample file into
the root itself. -/
def recordingHost : Host Disk :=
  RudpAgentStack.recordingHost
    (memoryHost
      [((filterData ".").write false, filterData "."),
        ((filterData "a.txt").write false, filterData "a.txt")]
      [((planText ".").flatMap Text.encodePoint,
          "66b8f9f8ee56440dd1cde7ae036986bce86c3647e3a7f127094fbb25ac7eeae3"),
        ((planText "a.txt").flatMap Text.encodePoint,
          "3a8090fa7172d03a42a2d869b57132d26d71b91b187e4568d9188d4da94a8b5a")])

/-- Its record. -/
def recordedPaths : PathRecord recordingHost :=
  RudpAgentStack.recordedPaths _

/-- The sample file, before anything was touched. -/
def disk : Disk := { state := files }

theorem policyGuard_wellFormed : policyGuard.WellFormed := by
  refine ⟨0, [Text.ofString "sandbox"], ?_, rfl⟩
  unfold PosixPath.NormalComponent
  decide

/-- The root of the sample and what is above it are directories. -/
theorem rootPresent (disk : Disk) :
    recordedPaths.RootPresent policyGuard.sandboxRoot disk := by
  intro path absolute above
  have root_eq : PosixPath.meaningful policyGuard.sandboxRoot =
      [Text.ofString "sandbox"] := by decide +kernel
  rw [root_eq, ← List.isPrefixOf_iff_prefix] at above
  change (_ && _) = true
  rw [absolute, above]
  rfl

end Sample

end RudpAgentStack

import RudpAgentStack.Agent.MemoryHost
import RudpAgentStack.Foundation.Logging

/-!
# The record of writes

A record keeps the writes to files at offsets, and knows how long files are.
The host in memory has one.
-/

namespace RudpAgentStack

open Foundation

variable {World : Type}

/-- A write to a file at an offset. -/
structure FileWrite where
  path : Text
  position : Int
  length : Nat
  deriving DecidableEq

/-- The computation writes nothing at an offset, and makes no file longer. -/
def WritesNothing
    (writes : World → List FileWrite) (length : World → Text → Nat)
    {α : Type} (action : Action World α) : Prop :=
  ∀ world, writes (action.run world).2 = writes world ∧
    ∀ path, length (action.run world).2 path ≤ length world path

/-- A record of the writes at offsets, and the lengths of files.  A write makes
its file no longer than its own end, and an append by no more than its data,
also when they fail. -/
structure WriteRecord (host : Host World) where
  writes : World → List FileWrite
  length : World → Text → Nat
  getsize : ∀ path, WritesNothing writes length (host.getsize path)
  getsize_run : ∀ {path world size after},
    (host.getsize path).run world = (.ok size, after) →
    (length after path : Int) ≤ size
  uuid4 : WritesNothing writes length host.uuid4
  makedirs : ∀ path, WritesNothing writes length (host.makedirs path)
  createEmpty : ∀ path, WritesNothing writes length (host.createEmpty path)
  openUpdate : ∀ path, WritesNothing writes length (host.openUpdate path)
  writeAt : ∀ path {position : Int} data world, 0 ≤ position →
    writes ((host.writeAt path position data).run world).2 =
        writes world ++ [⟨path, position, data.length⟩] ∧
      ∀ other,
        (length ((host.writeAt path position data).run world).2 other : Int) ≤
          max (length world other : Int) (position + data.length)
  appendFile : ∀ path data world,
    writes ((host.appendFile path data).run world).2 = writes world ∧
      ∀ other, length ((host.appendFile path data).run world).2 other ≤
        max (length world other) (length world path + data.length)

/-! ## A host that keeps the record -/

/-- A host in memory that keeps a record of its writes. -/
def writingHost (host : Host MemoryHost.Files) :
    Host (Logged MemoryHost.Files FileWrite) where
  jsonLoads := host.jsonLoads
  jsonDumps := host.jsonDumps
  decodeErrorMessage := host.decodeErrorMessage
  encodeErrorMessage := host.encodeErrorMessage
  repr := host.repr
  streamRepr := host.streamRepr
  formatMember := host.formatMember
  sha256 := host.sha256
  uuid4 := logging [] host.uuid4
  pathExists := fun path disk => host.pathExists path disk.state
  getsize := fun path => logging [] (host.getsize path)
  listdir := fun path => logging [] (host.listdir path)
  stat := fun path => logging [] (host.stat path)
  makedirs := fun path => logging [] (host.makedirs path)
  readFile := fun path => logging [] (host.readFile path)
  createEmpty := fun path => logging [] (host.createEmpty path)
  appendFile := fun path data => logging [] (host.appendFile path data)
  openUpdate := fun path => logging [] (host.openUpdate path)
  writeAt := fun path position data =>
    logging [⟨path, position, data.length⟩] (host.writeAt path position data)
  createTemporary := fun directory =>
    logging [] (host.createTemporary directory)
  writeTemporary := fun name data => logging [] (host.writeTemporary name data)
  flushTemporary := fun name => logging [] (host.flushTemporary name)
  syncTemporary := fun name => logging [] (host.syncTemporary name)
  closeTemporary := fun name => logging [] (host.closeTemporary name)
  replace := fun source target => logging [] (host.replace source target)
  remove := fun path => logging [] (host.remove path)

namespace WritingHost

/-- The length of a file, zero where there is none. -/
def length (disk : Logged MemoryHost.Files FileWrite) (path : Text) : Nat :=
  ((disk.state.get? path).getD []).length

theorem logging_writesNothing {α : Type}
    {action : Action MemoryHost.Files α}
    (leaves : LeavesContents (fun files => files.get?) action) :
    WritesNothing (·.log) length (logging [] action) := by
  intro disk
  have same : (action.run disk.state).2.get? = disk.state.get? :=
    leaves disk.state
  rw [logging_run]
  refine ⟨List.append_nil _, fun path => ?_⟩
  simp only [length, same, le_refl]

theorem length_overwrite_le
    (content : Bytes) (position : Nat) (data : Bytes) :
    (overwrite content position data).length ≤
      max content.length (position + data.length) := by
  unfold overwrite
  split
  · exact le_max_left _ _
  · simp only [List.length_append, List.length_take, List.length_replicate,
      List.length_drop]
    omega

/-- What is written at a natural position ends where its data does, or where
the content did. -/
theorem length_overwrite_toNat_le
    (content : Bytes) (data : Bytes) {position : Int}
    (natural : 0 ≤ position) :
    ((overwrite content position.toNat data).length : Int) ≤
      max (content.length : Int) (position + data.length) := by
  have bound := length_overwrite_le content position.toNat data
  omega

end WritingHost

open MemoryHost WritingHost

/-- The record of the host in memory. -/
def recordedWrites
    (texts : List (Text × Json)) (digests : List (Bytes × Text)) :
    WriteRecord (writingHost (memoryHost texts digests)) where
  writes := (·.log)
  length := WritingHost.length
  getsize := fun path =>
    logging_writesNothing ((memoryFiles texts digests).getsize path)
  getsize_run := by
    intro path disk size after run
    simp only [writingHost, logging_run, memoryHost, Action.run_bind,
      readFile_run] at run
    cases found : disk.state.get? path with
    | none =>
        rw [found] at run
        cases run
    | some content =>
        rw [found] at run
        cases run
        change (((disk.state.get? path).getD []).length : Int) ≤ _
        rw [found, Option.getD_some]
  uuid4 := logging_writesNothing (memoryFiles texts digests).uuid4
  makedirs := fun path =>
    logging_writesNothing ((memoryFiles texts digests).makedirs path)
  createEmpty := by
    intro path disk
    refine ⟨List.append_nil _, fun other => ?_⟩
    change (((disk.state.set path []).get? other).getD []).length ≤ _
    rw [Dict.get?_set]
    split
    · exact Nat.zero_le _
    · exact le_rfl
  openUpdate := fun path =>
    logging_writesNothing ((memoryFiles texts digests).openUpdate path)
  writeAt := by
    intro path position data disk natural
    refine ⟨rfl, fun other => ?_⟩
    simp only [writingHost, logging_run, memoryHost, Action.run_bind,
      readFile_run]
    cases found : disk.state.get? path with
    | none => exact le_max_left _ _
    | some content =>
        change ((((disk.state.set path
          (overwrite content position.toNat data)).get? other).getD
            []).length : Int) ≤ _
        rw [Dict.get?_set]
        split
        · next same =>
            have before : length disk other = content.length := by
              rw [same, length, found, Option.getD_some]
            rw [Option.getD_some, before]
            exact length_overwrite_toNat_le content data natural
        · exact le_max_left _ _
  appendFile := by
    intro path data disk
    refine ⟨List.append_nil _, fun other => ?_⟩
    change (((disk.state.set path ((disk.state.get? path).getD [] ++
      data)).get? other).getD []).length ≤ _
    rw [Dict.get?_set]
    split
    · rw [Option.getD_some, List.length_append]
      exact le_max_right _ _
    · exact le_max_left _ _

end RudpAgentStack

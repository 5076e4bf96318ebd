import RudpAgentStack.Agent.Server
import RudpAgentStack.Common.FileSystem

/-!
# A host in memory

A concrete host: its world is a dictionary of files by absolute path, in which
every directory exists and no operation fails without cause.  Its JSON reader
knows a given table of texts and its hash a given table of digests.
-/

namespace RudpAgentStack

open Foundation

namespace MemoryHost

/-- The files, by absolute path. -/
abbrev Files := Dict Text Bytes

/-- The error for a file that is missing. -/
def missing (path : Text) : PyError :=
  ⟨.fileNotFoundError,
    "[Errno 2] No such file or directory: '" ++ path ++ "'"⟩

/-- The content of a file. -/
def readFile (path : Text) : Action Files Bytes := do
  match (← get).get? path with
  | some content => return content
  | none => throw (missing path)

/-- Give a file another content. -/
def setFile (path : Text) (content : Bytes) : Action Files Unit :=
  modify fun files => files.set path content

/-- A name in a directory for a temporary file. -/
def temporaryName (directory : Text) (index : Nat) : Text :=
  directory ++ Text.ofString "/tmp" ++ List.replicate index 0x5F

/-- The first name in a directory that is not in use. -/
def freshName (directory : Text) (files : Files) : Text :=
  (((List.range (files.size + 1)).map (temporaryName directory)).find?
    fun name => decide (name ∉ files)).getD []

/-- The names in a directory that have no further separator. -/
def listdir (path : Text) (files : Files) : List Text :=
  files.keys.filterMap fun name =>
    if PosixPath.directory name = path then
      some ((name.reverse.takeWhile (· ≠ PosixPath.separator)).reverse)
    else none

/-- `json.dumps` on one line. -/
def dumps (style : JsonStyle) (value : Json) : Except PyError Text :=
  match style.indent with
  | none => .ok (value.write style.sortKeys)
  | some _ => .error ⟨.typeError, "unsupported layout"⟩

end MemoryHost

open MemoryHost

/-- A host whose files are in memory, given the JSON texts it can read and the
digests it knows. -/
def memoryHost (texts : List (Text × Json)) (digests : List (Bytes × Text)) :
    Host Files where
  jsonLoads := fun text =>
    match texts.lookup text with
    | some value => .ok value
    | none =>
        .error ⟨.jsonDecodeError, "Expecting value: line 1 column 1 (char 0)"⟩
  jsonDumps := dumps
  decodeErrorMessage := fun _ => "'utf-8' codec can't decode bytes"
  encodeErrorMessage := fun _ => "'utf-8' codec can't encode characters"
  repr := Json.write false
  streamRepr := fun _ => "<generator object>"
  formatMember := fun name _ => name
  sha256 := fun data => (digests.lookup data).getD []
  uuid4 := return "00000000-0000-4000-8000-000000000000"
  pathExists := fun path files => decide (path ∈ files)
  getsize := fun path => do return (← readFile path).length
  listdir := fun path => do return listdir path (← get)
  stat := fun path => do
    return ((← readFile path).length, .float "0.0" (.finite 0))
  makedirs := fun _ => return
  readFile := readFile
  createEmpty := fun path => setFile path []
  appendFile := fun path data => do
    setFile path (((← get).get? path).getD [] ++ data)
  openUpdate := fun path => do
    let _ ← readFile path
  writeAt := fun path position data => do
    let content ← readFile path
    setFile path (overwrite content position.toNat data)
  createTemporary := fun directory => do
    let name := freshName directory (← get)
    setFile name []
    return name
  writeTemporary := fun name data => do
    setFile name (((← get).get? name).getD [] ++ data)
  flushTemporary := fun _ => return
  syncTemporary := fun _ => return
  closeTemporary := fun _ => return
  replace := fun source target => do
    let content ← readFile source
    modify fun files =>
      if source = target then files
      else (files.set target content).del source
  remove := fun path => modify fun files => files.del path

/-! ## Its files -/

namespace MemoryHost

theorem get?_set_eq_update (files : Files) (path : Text) (content : Bytes) :
    (files.set path content).get? =
      Function.update files.get? path (some content) := by
  funext other
  rw [Dict.get?_set, Function.update_apply]

theorem get?_del_eq_update (files : Files) (path : Text) :
    (files.del path).get? = Function.update files.get? path none := by
  funext other
  rw [Dict.get?_del, Function.update_apply]

/-- The name chosen for a temporary file is not in use. -/
theorem freshName_not_mem (directory : Text) (files : Files) :
    freshName directory files ∉ files := by
  unfold freshName
  cases found : ((List.range (files.size + 1)).map
      (temporaryName directory)).find? fun name => decide (name ∉ files) with
  | some name => simpa using List.find?_some found
  | none =>
      rw [List.find?_eq_none] at found
      have allUsed : (List.range (files.size + 1)).map
          (temporaryName directory) ⊆ files.keys := by
        intro name member
        simpa [Dict.mem_keys_iff] using found name member
      have distinct : ((List.range (files.size + 1)).map
          (temporaryName directory)).Nodup := by
        refine List.nodup_range.map fun first second same => ?_
        have lengths := congrArg List.length same
        simpa [temporaryName] using lengths
      have tooMany := (distinct.subperm allUsed).length_le
      simp [Dict.keys, Dict.size] at tooMany

theorem readFile_run (path : Text) (files : Files) :
    (readFile path).run files =
      (match files.get? path with
        | some content => .ok content
        | none => .error (missing path), files) := by
  have got : (get : Action Files Files).run files = (.ok files, files) := rfl
  unfold readFile
  simp only [Action.run_bind, got]
  cases files.get? path <;> rfl

end MemoryHost

/-- The dictionary of files is a file system. -/
def memoryFiles
    (texts : List (Text × Json)) (digests : List (Bytes × Text)) :
    FileSystem (memoryHost texts digests) where
  content := fun files => files.get?
  readFile_run := by
    intro files path bytes found
    change (MemoryHost.readFile path).run files = _
    rw [readFile_run, found]
  getsize_run := by
    intro files path bytes found
    simp only [memoryHost, Action.run_bind, readFile_run, found]
    rfl
  pathExists_of_content := by
    intro files path bytes found
    exact decide_eq_true (Dict.mem_of_get? found)
  uuid4 := fun _ => rfl
  getsize := by
    intro path files
    simp only [memoryHost, Action.run_bind, readFile_run]
    cases files.get? path <;> rfl
  listdir := fun _ _ => rfl
  stat := by
    intro path files
    simp only [memoryHost, Action.run_bind, readFile_run]
    cases files.get? path <;> rfl
  makedirs := fun _ _ => rfl
  readFile := by
    intro path files
    change ((MemoryHost.readFile path).run files).2.get? = _
    rw [readFile_run]
  openUpdate := by
    intro path files
    simp only [memoryHost, Action.run_bind, readFile_run]
    cases files.get? path <;> rfl
  createEmpty := fun path files => get?_set_eq_update files path _
  appendFile := fun path data files => get?_set_eq_update files path _
  writeAt := by
    intro path position data files
    simp only [memoryHost, Ends, Action.run_bind, readFile_run]
    cases found : files.get? path with
    | none => exact fun _ _ => rfl
    | some content => exact get?_set_eq_update files path _
  createTemporary := by
    intro directory files
    exact ⟨(Dict.get?_eq_none_iff _ _).mpr (freshName_not_mem directory files),
      get?_set_eq_update files _ _⟩
  writeTemporary := fun name data files => get?_set_eq_update files name _
  flushTemporary := fun name files =>
    (Function.update_eq_self name files.get?).symm
  syncTemporary := fun _ _ => rfl
  closeTemporary := fun name files =>
    (Function.update_eq_self name files.get?).symm
  replace := by
    intro source target files
    simp only [memoryHost, Ends, Action.run_bind, readFile_run]
    cases found : files.get? source with
    | none => exact rfl
    | some content =>
        simp only [Action.run_modify]
        split
        · rfl
        · next different =>
            rw [get?_del_eq_update, get?_set_eq_update,
              Function.update_comm (Ne.symm different)]
  remove := fun path files => get?_del_eq_update files path

/-! ## A sandbox with one file -/

namespace Sample

/-- The policy of a server with the root `/sandbox`. -/
def policyGuard : PolicyGuard := ⟨"/sandbox"⟩

/-- The file `notes.txt` with the lines `x` and `y`. -/
def files : Files :=
  Dict.empty.set "/sandbox/notes.txt" [0x78, 0x0A, 0x79, 0x0A]

/-- The payload that asks for the lines of the file that contain `x`, to be
written to another file. -/
def filterData (outFile : Text) : Json :=
  .object
    [("input_file", .string "notes.txt"), ("out_file", .string outFile),
      ("query", .string "x")]

/-- The metadata of a request to append to the file. -/
def appendData : Json := .object [("filename", .string "notes.txt")]

/-- The text whose digest names the plan of a filter request. -/
def planText (outFile : Text) : Text :=
  Text.ofString "17-" ++ (filterData outFile).write true ++
    "-ExecutionMode.MEMORY-OutputPolicy.DYNAMIC-True"

/-- A host that reads the requests of the sample. -/
def host : Host Files :=
  memoryHost
    [((filterData "a.txt").write false, filterData "a.txt"),
      ((filterData "b.txt").write false, filterData "b.txt"),
      (appendData.write false, appendData)]
    [((planText "a.txt").flatMap Text.encodePoint,
        "3a8090fa7172d03a42a2d869b57132d26d71b91b187e4568d9188d4da94a8b5a"),
      ((planText "b.txt").flatMap Text.encodePoint,
        "2d2bed79fde049e1cda9de6b592760fb544e9fa34aef9c9c3091ade317341ef8")]

/-- The message of a request. -/
def message (opcode requestId : Int) (payload : Except PyError Bytes) :
    Bytes :=
  match payload >>= encodeMessage opcode 0 requestId with
  | .ok data => data
  | .error _ => []

/-- A request to filter the file. -/
def filterRequest (requestId : Int) (outFile : Text) : Bytes :=
  message opTaskFilterLines requestId (host.dumpBytes (filterData outFile))

/-- A request to append to the file. -/
def appendRequest (requestId : Int) (data : Bytes) : Bytes :=
  message opAppend requestId (mixedModeEncode host appendData data)

/-- A request that takes no time. -/
def instant (time : ℚ) : Readings :=
  ⟨time, time, time, time, le_rfl, le_rfl, le_rfl⟩

end Sample

end RudpAgentStack

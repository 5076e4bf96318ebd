import RudpAgentStack.Agent.TaskResults
import RudpAgentStack.Foundation.JsonText

/-!
# Reports that are too long to be returned inline

The sandbox of a host in memory has a file with a single long line.  A search
that finds it reports the line, so its result is an artifact.
-/

namespace RudpAgentStack

open Foundation

namespace MemoryHost

theorem readFile_ends_iff
    (path : Text) (files : Files) {returned : Bytes → Files → Prop}
    {raised : PyError → Files → Prop} :
    Ends (readFile path) files returned raised ↔
      match files.get? path with
      | some content => returned content files
      | none => raised (missing path) files := by
  unfold Ends
  rw [readFile_run]
  cases files.get? path <;> rfl

variable
  {texts : List (Text × Json)} {digests : List (Bytes × Text)}
  {guard : PolicyGuard} {filename : Json} {safePath : Text}

/-- In memory an atomic write to a valid path does not raise. -/
theorem atomicWrite_returns
    (valid : guard.validatePath filename = .ok safePath) (content : Bytes)
    (files : Files) :
    Ends (ToolDispatcher.atomicWrite (memoryHost texts digests) guard filename
      (.ok content)) files (fun _ _ => True) (fun _ _ => False) := by
  unfold ToolDispatcher.atomicWrite
  simp [valid, memoryHost, setFile, readFile_ends_iff]

/-- In memory a fallback artifact with a valid name is written. -/
theorem writeFallbackArtifact_run
    {context : Context}
    (valid : guard.validatePath (.string
      (Planner.makeArtifactPath context.initial "result.txt")) = .ok safePath)
    (content : Bytes) (files : Files) :
    ∃ after, (ToolDispatcher.writeFallbackArtifact (memoryHost texts digests)
        guard content context).run files =
      (.ok (Planner.makeArtifactPath context.initial "result.txt"), after) ∧
      after.get? = Function.update files.get? safePath (some content) := by
  unfold ToolDispatcher.writeFallbackArtifact
  rw [ToolDispatcher.fallbackPath_eq, run_bind]
  have ends := (ToolDispatcher.atomicWrite_ends
    (memoryFiles texts digests) _ (.ok content) files).and
      (atomicWrite_returns valid content files)
  unfold Ends at ends
  generalize (ToolDispatcher.atomicWrite (memoryHost texts digests) guard
    (.string (Planner.makeArtifactPath context.initial "result.txt"))
      (.ok content)).run files = written at ends ⊢
  obtain ⟨error | _, after⟩ := written
  · exact ends.2.elim
  · obtain ⟨⟨otherPath, bytes, otherValid, ⟨⟩, content_eq⟩, _⟩ := ends
    cases valid.symm.trans otherValid
    exact ⟨after, rfl, content_eq⟩

end MemoryHost

namespace Sample

/-- A line that contains `x` and nothing else. -/
def longLine (count : Nat) : Text := List.replicate count 0x78

/-- The bytes of the line. -/
def longNotes (count : Nat) : Bytes := List.replicate count 0x78

/-- A sandbox whose file has only this line. -/
def longFiles (count : Nat) : MemoryHost.Files :=
  Dict.empty.set "/sandbox/notes.txt" (longNotes count)

/-- The object of the response to a search that ends in one entry. -/
def searchAnswer (key text : Text) : Json :=
  ResponseBuilder.payloadDict .ok none (.object [(key, .string text)])

/-- The report on a file with one line that contains `x`. -/
def shortReport : Text := "Search Found 1 matches:\nLine 1: x"

/-- The values of a search for the lines of the file that contain `x`: the
request, its short answer and its long answer. -/
def searchValues : List Json :=
  [.object linesData, searchAnswer "output" shortReport,
    searchAnswer "artifact_path" "artifacts/default_client/1_result.txt"]

/-- A host that reads these values. -/
def searchHost : Host MemoryHost.Files :=
  memoryHost (searchValues.map fun value => (value.write false, value)) []

/-- A request for these lines. -/
def searchRequest (requestId : Int) : Bytes :=
  message opTaskSearchReport requestId
    (searchHost.dumpBytes (.object linesData))

/-- The header of the request. -/
def searchHeader (requestId : Int) : AppHeader :=
  ⟨1, opTaskSearchReport, 0, 0, requestId, 41⟩

/-- A call with the request. -/
def searchCall (clientId : Text) (requestId : Int) : Call :=
  ⟨clientId, searchRequest requestId, instant 0⟩

/-! ## The report on a long line -/

theorem longLine_ascii (count : Nat) : Text.Ascii (longLine count) := by
  intro point member
  rw [List.eq_of_mem_replicate member]
  decide

theorem decodeUtf8_longNotes (count : Nat) :
    Text.decodeUtf8 (longNotes count) = some (longLine count) := by
  apply Text.decodeUtf8_encodeUtf8
  refine Text.encodeUtf8_eq_some_iff.mpr ⟨(longLine_ascii count).valid, ?_⟩
  have single : Text.encodePoint 0x78 = [0x78] := by decide
  simp [longLine, longNotes, List.flatMap_replicate, single]

theorem universalNewlines_longLine (count : Nat) :
    Text.universalNewlines (longLine count) = longLine count := by
  induction count with
  | zero => rfl
  | succ count inductionHypothesis =>
      cases count with
      | zero => rfl
      | succ count =>
          change Text.universalNewlines (0x78 :: 0x78 :: longLine count) = _
          rw [Text.universalNewlines, if_neg (by decide), if_neg (by decide)]
          exact congrArg (List.cons _) inductionHypothesis

theorem strip_longLine (count : Nat) :
    Text.strip (longLine count) = longLine count := by
  have noSpace : Text.isSpace 0x78 = false := by decide
  simp only [Text.strip, longLine, List.dropWhile_replicate, noSpace,
    Bool.false_eq_true, if_false, List.reverse_replicate]

theorem splitlines_longLine (count : Nat) :
    Text.splitlines (longLine (count + 1)) = [longLine (count + 1)] := by
  refine Text.splitlines_of_unbroken (fun point member => ?_)
    (List.cons_ne_nil _ _)
  rw [List.eq_of_mem_replicate member]
  decide

/-- The report on the line. -/
def longReport (count : Nat) : Text :=
  ToolDispatcher.report [ToolDispatcher.entry (1, longLine count)]

theorem searchFrom_longLine (count : Nat) :
    ToolDispatcher.searchFrom "x" 0 [] [longLine (count + 1)] =
      [ToolDispatcher.entry (1, longLine (count + 1))] := by
  have found : Text.contains (longLine (count + 1)) "x" = true :=
    decide_eq_true ⟨[], longLine count, rfl⟩
  rw [ToolDispatcher.searchFrom_cons, if_pos found, if_neg (by simp),
    strip_longLine]
  rfl

theorem longReport_ascii (count : Nat) : Text.Ascii (longReport count) := by
  simp only [longReport, ToolDispatcher.report, ToolDispatcher.entry,
    Text.join, List.length_singleton, List.intercalate_singleton]
  exact (((Text.ascii_of_all (by decide)).append
    (Text.ascii_ofInt 1)).append (Text.ascii_of_all (by decide))).append
      ((((Text.ascii_of_all (by decide)).append
        (Text.ascii_ofInt 1)).append (Text.ascii_of_all (by decide))).append
          (longLine_ascii count))

/-- The report is longer than the line. -/
theorem longReport_encoded (count : Nat) :
    ∃ encoded, searchHost.encode (longReport count) = .ok encoded ∧
      count < encoded.length := by
  obtain ⟨encoded, given, length_eq⟩ :=
    Text.encodeUtf8_of_ascii (longReport_ascii count)
  refine ⟨encoded, by rw [Host.encode, given], ?_⟩
  rw [length_eq]
  have start : (Text.ofString "Search Found ").length = 13 := rfl
  simp only [longReport, ToolDispatcher.report, ToolDispatcher.entry,
    Text.join, List.intercalate_singleton, List.length_append, start,
    longLine, List.length_replicate]
  omega

/-! ## The result of a search for it -/

/-- The sandbox has the file, and the working directory has none of its
name. -/
def HoldsLine (count : Nat) (files : MemoryHost.Files) : Prop :=
  files.get? "/sandbox/notes.txt" = some (longNotes count) ∧
    files.get? "notes.txt" = none

theorem longFiles_holdsLine (count : Nat) :
    HoldsLine count (longFiles count) := by
  constructor
  · rw [longFiles, Dict.get?_set, if_pos rfl]
  · rw [longFiles, Dict.get?_set, if_neg (by decide)]
    rfl

/-- The file as the input of a search. -/
def longInput
    {count : Nat} {files : MemoryHost.Files} (holds : HoldsLine count files)
    (small : count ≤ 1048576) :
    TextInput (memoryFiles _ _ : FileSystem searchHost) policyGuard linesData
      files where
  safePath := "/sandbox/notes.txt"
  bytes := longNotes count
  text := longLine count
  query := "x"
  valid := validatePath_linesData
  found := holds.1
  small := by
    have limit : maxFileSize = 1048576 := rfl
    rw [longNotes, List.length_replicate, limit]
    exact_mod_cast small
  decoded := decodeUtf8_longNotes count
  isQuery := query_linesData

variable {count : Nat} {files : MemoryHost.Files} {header : AppHeader}
  (clientId : Text)

/-- The search is planned without a size, hence in memory. -/
theorem plannedTask_linesData
    (search : header.opcode = opTaskSearchReport)
    (holds : HoldsLine count files) :
    ∃ plan, (TaskHandler.plannedTask searchHost policyGuard header linesData
        clientId).run files = (.ok plan, files) ∧
      Planner.buildPlan searchHost opTaskSearchReport linesData
        { clientId, requestId := Text.ofInt header.requestId } = .ok plan := by
  have absent : Text.ofString "notes.txt" ∉ files :=
    (Dict.get?_eq_none_iff _ _).mp holds.2
  have unsized : (TaskHandler.inputSize searchHost policyGuard linesData).run
      files = (.ok none, files) := by
    have notThere : searchHost.pathExists "notes.txt" files = false :=
      decide_eq_false absent
    have given : Json.get? linesData "input_file" =
        some (.string "notes.txt") := rfl
    have valid : policyGuard.validatePath (.string "notes.txt") =
        .ok "/sandbox/notes.txt" := rfl
    unfold TaskHandler.inputSize
    simp only [given, valid, Action.run_bind, Action.run_liftM,
      Host.exists?_run, Host.str, notThere]
    rfl
  refine ⟨_, ?_, rfl⟩
  unfold TaskHandler.plannedTask
  rw [run_bind, unsized, search]
  rfl

/-- The steps of the search leave the report on the line. -/
theorem finishes_linesData
    (search : header.opcode = opTaskSearchReport)
    (holds : HoldsLine (count + 1) files) (small : count + 1 ≤ 1048576) :
    ∃ finished, TaskHandler.Finishes searchHost policyGuard header linesData
      clientId files (longReport (count + 1)) finished files := by
  obtain ⟨plan, planned, built⟩ :=
    plannedTask_linesData clientId search holds
  have built' : Planner.buildPlan searchHost opTaskSearchReport linesData
      { clientId, requestId := Text.ofInt header.requestId, holdsPlan := true } =
        .ok { plan with initialContext :=
          { plan.initialContext with holdsPlan := true } } := by
    cases built
    rfl
  obtain ⟨finished, executed, found⟩ :=
    (longInput holds small).reports ⟨[], rfl, rfl⟩ built'
  have inMemory : plan.executionMode = .memory := by
    cases built
    rfl
  have report_eq : ToolDispatcher.report (ToolDispatcher.searchFrom
      (longInput holds small).query 0 []
        (linesRead (longInput holds small).text plan.executionMode)) =
          longReport (count + 1) := by
    change ToolDispatcher.report (ToolDispatcher.searchFrom "x" 0 []
      (linesRead (longLine (count + 1)) plan.executionMode)) = _
    rw [inMemory, linesRead, universalNewlines_longLine, splitlines_longLine,
      searchFrom_longLine, longReport]
  exact ⟨finished, plan, files, planned, executed, report_eq ▸ found⟩

/-- The result of the search is an artifact, if the line is long. -/
theorem taskResult_linesData
    (search : header.opcode = opTaskSearchReport)
    (holds : HoldsLine (count + 1) files) (long : inlineLimit ≤ count + 1)
    (small : count + 1 ≤ 1048576) {safePath : Text}
    (valid : policyGuard.validatePath
      (.string (TaskHandler.resultPath clientId header)) = .ok safePath)
    (elsewhere : safePath ≠ Text.ofString "/sandbox/notes.txt" ∧
      safePath ≠ Text.ofString "notes.txt") :
    ∃ after, (TaskHandler.taskResult searchHost policyGuard header linesData
        clientId).run files =
      (.ok (.object [(Text.ofString "artifact_path",
        .string (TaskHandler.resultPath clientId header))]), after) ∧
      HoldsLine (count + 1) after := by
  obtain ⟨finished, finishes⟩ :=
    finishes_linesData clientId search holds small
  obtain ⟨encoded, encodes, longer⟩ := longReport_encoded (count + 1)
  have nonempty : longReport (count + 1) ≠ [] := List.cons_ne_nil _ _
  rw [← finishes.path_eq] at valid
  obtain ⟨after, written, content_eq⟩ :=
    MemoryHost.writeFallbackArtifact_run valid encoded files
  refine ⟨after, ?_, ?_, ?_⟩
  · rw [finishes.taskResult_run search nonempty, encodes, run_bind]
    dsimp only [Action.run_liftM]
    rw [if_neg (by omega), run_bind, searchHost, written, finishes.path_eq]
    rfl
  · rw [content_eq, Function.update_of_ne elsewhere.1.symm]
    exact holds.1
  · rw [content_eq, Function.update_of_ne elsewhere.2.symm]
    exact holds.2

/-! ## Answers to searches for it -/

/-- The request can be sent, its artifact has a name of its own, and the
response with this name can be built. -/
structure Searches (requestId : Int) : Prop where
  framed : frame? (searchRequest requestId) = some (searchHeader requestId)
  parsed : TaskHandler.parseTask searchHost
    ((searchRequest requestId).drop headerSize) = .ok linesData
  valid : ∃ safePath, policyGuard.validatePath
      (.string (TaskHandler.resultPath TaskHandler.defaultClient
        (searchHeader requestId))) = .ok safePath ∧
    safePath ≠ Text.ofString "/sandbox/notes.txt" ∧
      safePath ≠ Text.ofString "notes.txt"
  built : ∃ response, ResponseBuilder.buildResponse searchHost
    opTaskSearchReport requestId .ok
      (.object [(Text.ofString "artifact_path",
        .string (TaskHandler.resultPath TaskHandler.defaultClient
          (searchHeader requestId)))]) = .ok response

theorem searches_one : Searches 1 :=
  ⟨by decide +kernel, rfl, ⟨_, rfl, by decide, by decide⟩, ⟨_, rfl⟩⟩

theorem searches_two : Searches 2 :=
  ⟨by decide +kernel, rfl, ⟨_, rfl, by decide, by decide⟩, ⟨_, rfl⟩⟩

end Sample

end RudpAgentStack

import RudpAgentStack.Agent.ExecutionModes

/-!
# Filtering in the two execution modes

The two modes write the lines with the query to the same file and return the
same result exactly when no file line with the query has a break.
-/

namespace RudpAgentStack

open Foundation

variable {World : Type} {host : Host World} {guard : PolicyGuard}

namespace ToolDispatcher

/-- The outcome depends on the final output and on the names in the initial
context. -/
theorem outcome_congr
    {context context' : Context}
    (finalOutput : context.get? "final_output" =
      context'.get? "final_output")
    (clientId : context.initial.clientId = context'.initial.clientId)
    (requestId : context.initial.requestId = context'.initial.requestId) :
    outcome host guard .dynamic context =
      outcome host guard .dynamic context' := by
  unfold outcome writeFallbackArtifact
  rw [finalOutput]
  simp only [clientId, requestId]

/-- The message that filtered lines were written. -/
def writtenMessage (host : Host World) (outFile : Json) : Text :=
  Text.ofString "Filtered lines written to " ++ host.str outFile

/-- What a plan with a message does after its steps. -/
def reportMessage
    (host : Host World) (guard : PolicyGuard) (initial : TaskContext)
    (message : Text) : Action World Json := do
  let result ← outcome host guard .dynamic
    { initial, outputs := Dict.empty.set "final_output" (.text message) }
  return .object result

/-- Write filtered lines and report it. -/
def writeFiltered
    (host : Host World) (guard : PolicyGuard) (initial : TaskContext)
    (outFile : Json) (lines : List Text) : Action World Json := do
  atomicWrite host guard outFile (host.encode (Text.join "\n" lines))
  reportMessage host guard initial (writtenMessage host outFile)

/-- The step that writes filtered lines. -/
theorem executeStep_write
    (host : Host World) (guard : PolicyGuard) {context : Context}
    {lines : List Text} (outFile : Json) (world : World)
    (filtered : context.get? "filtered_lines" = some (.lines lines)) :
    (executeStep host guard
      { tool := .writeFile
        args := [("path", outFile)]
        produces := "write_status"
        consumes := some "filtered_lines" } context).run world =
      match (atomicWrite host guard outFile
        (host.encode (Text.join "\n" lines))).run world with
      | (.ok _, after) =>
          (.ok (context.set "write_status" (.text "SUCCESS")), after)
      | (.error error, after) => (.error error, after) := by
  have given : stepInput host
      { tool := .writeFile
        args := [("path", outFile)]
        produces := "write_status"
        consumes := some "filtered_lines" } context = .ok (.lines lines) := by
    simp only [stepInput, filtered]
  have run : (toolWriteFile host guard [("path", outFile)]
      (.lines lines)).run world =
      match (atomicWrite host guard outFile
        (host.encode (Text.join "\n" lines))).run world with
      | (.ok _, after) => (.ok (.text "SUCCESS"), after)
      | (.error error, after) => (.error error, after) := by
    change (atomicWrite host guard outFile
      (host.encode (Text.join "\n" lines)) >>= fun _ =>
        pure (Value.text "SUCCESS")).run world = _
    rw [Action.run_bind]
    generalize (atomicWrite host guard outFile
      (host.encode (Text.join "\n" lines))).run world = written
    obtain ⟨error | _, after⟩ := written <;> rfl
  rw [executeStep, given]
  change (toolWriteFile host guard [("path", outFile)] (.lines lines) >>=
    fun output => pure (context.set "write_status" output)).run world = _
  rw [Action.run_bind, run]
  generalize (atomicWrite host guard outFile
    (host.encode (Text.join "\n" lines))).run world = written
  obtain ⟨error | _, after⟩ := written <;> rfl

/-- The steps after filtering write the lines and leave the message. -/
theorem executeSteps_write
    (host : Host World) (guard : PolicyGuard) {context : Context}
    {lines : List Text} (outFile : Json) (world : World)
    (filtered : context.get? "filtered_lines" = some (.lines lines)) :
    (executeSteps host guard
      [ { tool := .writeFile
          args := [("path", outFile)]
          produces := "write_status"
          consumes := some "filtered_lines" },
        { tool := .buildReport
          args := [("format", .string "action_completion"),
            ("msg", .string ("Filtered lines written to " ++
              host.str outFile))]
          produces := "final_output" } ] context).run world =
      match (atomicWrite host guard outFile
        (host.encode (Text.join "\n" lines))).run world with
      | (.ok _, after) =>
          (.ok ((context.set "write_status" (.text "SUCCESS")).set
            "final_output" (.text (writtenMessage host outFile))), after)
      | (.error error, after) => (.error error, after) := by
  rw [executeSteps, Action.run_bind,
    executeStep_write host guard outFile world filtered]
  generalize (atomicWrite host guard outFile
    (host.encode (Text.join "\n" lines))).run world = written
  obtain ⟨error | _, after⟩ := written <;> rfl

end ToolDispatcher

/-- The context after a text was filtered. -/
def TextInput.filtered
    {files : FileSystem host} {payload : List (Text × Json)} {world : World}
    (input : TextInput files guard payload world) (mode : ExecutionMode)
    (context : Context) : Context :=
  contextAfter context payload mode (input.value mode) "filtered_lines"
    (.lines (Text.linesWith input.query (linesRead input.text mode)))

theorem TextInput.filtered_get?
    {files : FileSystem host} {payload : List (Text × Json)} {world : World}
    (input : TextInput files guard payload world) (mode : ExecutionMode)
    (context : Context) :
    (input.filtered mode context).get? "filtered_lines" =
      some (.lines (Text.linesWith input.query (linesRead input.text mode))) :=
  Context.get?_set_self _ _ _

/-- After reading and filtering come the steps that write the lines. -/
theorem TextInput.executeSteps_filter
    {files : FileSystem host} {payload : List (Text × Json)} {world : World}
    (input : TextInput files guard payload world) (mode : ExecutionMode)
    (context : Context) (steps : List Step) :
    (ToolDispatcher.executeSteps host guard
      (Planner.readStep payload mode ::
        { tool := .filterLines
          args := [("pattern", Json.get payload "query")]
          produces := "filtered_lines"
          consumes := some (Planner.readStep payload mode).produces } ::
        steps) context).run world =
      (ToolDispatcher.executeSteps host guard steps
        (input.filtered mode context)).run world :=
  input.executeSteps_run mode context _ steps rfl fun _ =>
    input.toolFilterLines_run mode

theorem TextInput.filtered_get?_of_ne
    {files : FileSystem host} {payload : List (Text × Json)} {world : World}
    (input : TextInput files guard payload world) (mode : ExecutionMode)
    (context : Context) {key : Text}
    (other : key ≠ Text.ofString "filtered_lines" ∧
      key ≠ Text.ofString "file_content" ∧
      key ≠ Text.ofString "file_stream") :
    (input.filtered mode context).get? key = context.get? key := by
  rw [filtered, contextAfter, Context.get?_set, if_neg other.1,
    Context.get?_set, if_neg]
  cases mode
  · exact other.2.1
  · exact other.2.2

/-- A plan to filter a text in one of the modes writes the lines of the mode,
if it has a file to write them to. -/
theorem TextInput.executePlan_filter
    {files : FileSystem host} {payload : List (Text × Json)} {world : World}
    (input : TextInput files guard payload world)
    (noPlan : AsksNoPlan payload) {context : TaskContext} {plan : Plan}
    (planned : Planner.buildPlan host opTaskFilterLines payload context =
      .ok plan) :
    (ToolDispatcher.executePlan host guard plan).run world =
      if (Json.get payload "out_file").truthy then
        (ToolDispatcher.writeFiltered host guard context
          (Json.get payload "out_file")
          (Text.linesWith input.query
            (linesRead input.text plan.executionMode))).run world
      else (.ok (.object []), world) := by
  obtain ⟨policy, rfl, templated⟩ := noPlan.template_eq planned
  obtain ⟨other, _⟩ | ⟨_, steps⟩ | ⟨other, _⟩ := Planner.of_template templated
  · cases other
  · have noArtifact : (input.filtered plan.executionMode
        { initial := plan.initialContext }).get? "plan_artifact_path" =
          none := by
      rw [input.filtered_get?_of_ne _ _ (by decide)]
      rfl
    have stepsRun := input.executeSteps_filter plan.executionMode
      { initial := plan.initialContext }
    by_cases named : (Json.get payload "out_file").truthy = true
    · simp only [Planner.templateFilterLines, if_pos named] at steps
      have executed := (stepsRun _).trans
        (ToolDispatcher.executeSteps_write host guard
          (Json.get payload "out_file") world
          (input.filtered_get? plan.executionMode _))
      rw [← steps] at executed
      rw [if_pos named, ToolDispatcher.writeFiltered, Action.run_bind]
      generalize (ToolDispatcher.atomicWrite host guard
        (Json.get payload "out_file") _).run world = written at executed ⊢
      obtain ⟨error | _, after⟩ := written
      · rw [ToolDispatcher.executePlan, Action.run_bind, executed]
      · rw [ToolDispatcher.executePlan_run executed, policy,
          ToolDispatcher.reportMessage, ToolDispatcher.outcome_congr]
        · exact Context.get?_set_self _ _ _
        · rfl
        · rfl
        · rw [Context.get?_set, if_neg (by decide), Context.get?_set,
            if_neg (by decide), noArtifact]
    · simp only [Planner.templateFilterLines, if_neg named] at steps
      have executed := stepsRun []
      rw [← steps] at executed
      rw [if_neg named, ToolDispatcher.executePlan_run executed noArtifact,
        policy, ToolDispatcher.outcome,
        input.filtered_get?_of_ne _ _ (by decide)]
      rfl
  · cases other

/-! ## Agreement -/

/-- The characters of the lines read are those of the text and newlines. -/
theorem mem_of_mem_linesRead
    {text line : Text} {mode : ExecutionMode} {point : CodePoint}
    (isLine : line ∈ linesRead text mode) (member : point ∈ line) :
    point ∈ text ∨ point = 0x0A := by
  refine Text.mem_of_mem_universalNewlines ?_
  cases mode with
  | memory =>
      exact (Text.infix_of_mem_splitlines
        (Text.return_not_mem_universalNewlines text) isLine).subset member
  | stream => exact Text.mem_of_mem_fileLines isLine member

/-- Filtered lines can be encoded. -/
theorem TextInput.encode_filtered
    {files : FileSystem host} {payload : List (Text × Json)} {world : World}
    (input : TextInput files guard payload world) (mode : ExecutionMode) :
    ∃ bytes, host.encode (Text.join "\n"
        (Text.linesWith input.query (linesRead input.text mode))) =
      .ok bytes ∧
      Text.encodeUtf8 (Text.join "\n"
        (Text.linesWith input.query (linesRead input.text mode))) =
      some bytes := by
  have valid : ∀ point ∈ Text.join "\n"
      (Text.linesWith input.query (linesRead input.text mode)),
      Text.isSurrogate point = false := by
    have newline : Text.isSurrogate 0x0A = false := by decide
    intro point member
    rcases Text.mem_join member with inSeparator | ⟨line, isLine, inLine⟩
    · have same : Text.ofString "\n" = [0x0A] := by decide
      rw [same, List.mem_singleton] at inSeparator
      rw [inSeparator, newline]
    · rcases mem_of_mem_linesRead (List.mem_filter.mp isLine).1 inLine with
        inText | rfl
      · exact Text.isSurrogate_of_decodeUtf8 input.decoded point inText
      · exact newline
  have encoded := Text.encodeUtf8_eq_some_iff.mpr ⟨valid, rfl⟩
  exact ⟨_, by rw [Host.encode, encoded], encoded⟩

/-- The output file can be written, and the message about it is returned
inline. -/
structure Writable
    (host : Host World) (guard : PolicyGuard) (outFile : Json)
    (world : World) : Prop where
  written : ∀ bytes, ∃ after, (ToolDispatcher.atomicWrite host guard outFile
    (.ok bytes)).run world = (.ok (), after)
  short : ∀ bytes, host.encode (ToolDispatcher.writtenMessage host outFile) =
    .ok bytes → bytes.length ≤ inlineLimit

/-- Two executions end alike: with the same result and the same content of the
output file. -/
def SameOutcome
    (files : FileSystem host) (guard : PolicyGuard) (outFile : Json)
    (first second : Except PyError Json × World) : Prop :=
  first.1 = second.1 ∧ ∀ path, guard.validatePath outFile = .ok path →
    files.content first.2 path = files.content second.2 path

/-- No file line with the query has a break, unless there is no output file. -/
def FilteredAlike
    (payload : List (Text × Json)) (query text : Text) : Prop :=
  (Json.get payload "out_file").truthy = true →
    ∀ line ∈ Text.linesWith query
      (Text.fileLines (Text.universalNewlines text)), Text.Unbroken line

/-- A short message is reported without a change to the world. -/
theorem Writable.reportMessage_run
    {outFile : Json} {world : World}
    (writable : Writable host guard outFile world)
    (initial : TaskContext) (after : World) :
    ∃ result, (ToolDispatcher.reportMessage host guard initial
      (ToolDispatcher.writtenMessage host outFile)).run after =
        (result, after) := by
  have found : Context.get?
      { initial
        outputs := Dict.empty.set "final_output"
          (.text (ToolDispatcher.writtenMessage host outFile)) }
      "final_output" =
        some (.text (ToolDispatcher.writtenMessage host outFile)) :=
    Context.get?_set_self { initial } _ _
  have isTruthy : (Value.text
      (ToolDispatcher.writtenMessage host outFile)).truthy = true := rfl
  have shown : (Value.text
      (ToolDispatcher.writtenMessage host outFile)).str host =
        ToolDispatcher.writtenMessage host outFile := rfl
  unfold ToolDispatcher.reportMessage ToolDispatcher.outcome
  rw [found]
  simp only [isTruthy, shown, Bool.true_eq_false, if_false, Action.run_bind,
    Action.run_liftM]
  cases encoded : host.encode (ToolDispatcher.writtenMessage host outFile) with
  | error error => exact ⟨_, rfl⟩
  | ok bytes =>
      simp only [if_pos (writable.short bytes encoded)]
      exact ⟨_, rfl⟩

/-- Writing filtered lines where the file can be written leaves them in it. -/
theorem Writable.writeFiltered_run
    (files : FileSystem host) {outFile : Json} {world : World}
    (writable : Writable host guard outFile world) (initial : TaskContext)
    {lines : List Text} {bytes : Bytes}
    (encoded : host.encode (Text.join "\n" lines) = .ok bytes) :
    ∃ path, guard.validatePath outFile = .ok path ∧
      files.content ((ToolDispatcher.writeFiltered host guard initial outFile
        lines).run world).2 path = some bytes := by
  obtain ⟨after, written⟩ := writable.written bytes
  have ends : Ends (ToolDispatcher.atomicWrite host guard outFile (.ok bytes))
      world _ _ :=
    ToolDispatcher.atomicWrite_ends files outFile (.ok bytes) world
  rw [Ends.of_run_ok written] at ends
  obtain ⟨path, _, valid, ⟨⟩, content_eq⟩ := ends
  obtain ⟨result, reported⟩ := writable.reportMessage_run initial after
  refine ⟨path, valid, ?_⟩
  rw [ToolDispatcher.writeFiltered, Action.run_bind, encoded, written]
  simp only [reported, content_eq, Function.update_self]

/-- Where the output file can be written, two lists of lines are written alike
only if they are the same when joined. -/
theorem Writable.join_eq_of_sameOutcome
    (files : FileSystem host) {outFile : Json} {world : World}
    (writable : Writable host guard outFile world)
    {initial initial' : TaskContext} {lines lines' : List Text}
    {bytes bytes' : Bytes}
    (encoded : host.encode (Text.join "\n" lines) = .ok bytes)
    (encoded' : host.encode (Text.join "\n" lines') = .ok bytes')
    (same : SameOutcome files guard outFile
      ((ToolDispatcher.writeFiltered host guard initial outFile
        lines).run world)
      ((ToolDispatcher.writeFiltered host guard initial' outFile
        lines').run world)) : bytes = bytes' := by
  obtain ⟨path, valid, content_eq⟩ :=
    writable.writeFiltered_run files initial encoded
  obtain ⟨path', valid', content_eq'⟩ :=
    writable.writeFiltered_run files initial' encoded'
  cases valid.symm.trans valid'
  rw [same.2 path valid, content_eq'] at content_eq
  cases content_eq
  rfl

/-- The joined lines of the two modes are the same exactly when no file line
with the query has a break. -/
theorem join_linesRead_eq_iff (query text : Text) :
    Text.join "\n" (Text.linesWith query (linesRead text .memory)) =
        Text.join "\n" (Text.linesWith query (linesRead text .stream)) ↔
      ∀ line ∈ Text.linesWith query
        (Text.fileLines (Text.universalNewlines text)), Text.Unbroken line := by
  have newline : Text.ofString "\n" = [0x0A] := by decide
  rw [newline]
  exact Text.join_linesWith_eq_iff query
    (Text.return_not_mem_universalNewlines text)

/-- The initial contexts of two plans name the same request. -/
theorem writeFiltered_congr
    {initial initial' : TaskContext}
    (sameClient : initial.clientId = initial'.clientId)
    (sameRequest : initial.requestId = initial'.requestId) (outFile : Json)
    {lines lines' : List Text}
    (sameJoined : Text.join "\n" lines = Text.join "\n" lines') :
    ToolDispatcher.writeFiltered host guard initial outFile lines =
      ToolDispatcher.writeFiltered host guard initial' outFile lines' := by
  have sameReport : ∀ message,
      ToolDispatcher.reportMessage host guard initial message =
        ToolDispatcher.reportMessage host guard initial' message := by
    intro message
    rw [ToolDispatcher.reportMessage, ToolDispatcher.reportMessage]
    exact congrArg (· >>= _)
      (ToolDispatcher.outcome_congr rfl sameClient sameRequest)
  simp only [ToolDispatcher.writeFiltered, sameJoined, sameReport]

/-- Filtering in the two modes ends alike when no file line with the query has
a break, and where the output file can be written only then. -/
theorem filter_modes_agree_iff
    {files : FileSystem host} {payload : List (Text × Json)} {world : World}
    (input : TextInput files guard payload world)
    (noPlan : AsksNoPlan payload)
    {memoryContext streamContext : TaskContext} {memoryPlan streamPlan : Plan}
    (memoryPlanned : Planner.buildPlan host opTaskFilterLines payload
      memoryContext = .ok memoryPlan)
    (inMemory : memoryPlan.executionMode = .memory)
    (streamPlanned : Planner.buildPlan host opTaskFilterLines payload
      streamContext = .ok streamPlan)
    (asStream : streamPlan.executionMode = .stream)
    (sameClient : memoryContext.clientId = streamContext.clientId)
    (sameRequest : memoryContext.requestId = streamContext.requestId) :
    (FilteredAlike payload input.query input.text →
      SameOutcome files guard (Json.get payload "out_file")
        ((ToolDispatcher.executePlan host guard memoryPlan).run world)
        ((ToolDispatcher.executePlan host guard streamPlan).run world)) ∧
    (Writable host guard (Json.get payload "out_file") world →
      (SameOutcome files guard (Json.get payload "out_file")
        ((ToolDispatcher.executePlan host guard memoryPlan).run world)
        ((ToolDispatcher.executePlan host guard streamPlan).run world) ↔
      FilteredAlike payload input.query input.text)) := by
  have memory := input.executePlan_filter noPlan memoryPlanned
  have stream := input.executePlan_filter noPlan streamPlanned
  rw [inMemory] at memory
  rw [asStream] at stream
  have sufficient : FilteredAlike payload input.query input.text →
      (ToolDispatcher.executePlan host guard memoryPlan).run world =
        (ToolDispatcher.executePlan host guard streamPlan).run world := by
    intro alike
    rw [memory, stream]
    split
    · next named =>
        rw [writeFiltered_congr sameClient sameRequest _
          ((join_linesRead_eq_iff _ _).mpr (alike named))]
    · rfl
  refine ⟨fun alike => ?_, fun writable => ⟨fun same named => ?_,
    fun alike => ?_⟩⟩
  · rw [sufficient alike]
    exact ⟨rfl, fun _ _ => rfl⟩
  · rw [if_pos named] at memory stream
    rw [memory, stream] at same
    obtain ⟨bytes, encoded, encodedText⟩ := input.encode_filtered .memory
    obtain ⟨bytes', encoded', encodedText'⟩ := input.encode_filtered .stream
    obtain rfl := writable.join_eq_of_sameOutcome files encoded encoded' same
    exact (join_linesRead_eq_iff _ _).mp
      (Text.encodeUtf8_inj encodedText encodedText')
  · rw [sufficient alike]
    exact ⟨rfl, fun _ _ => rfl⟩

/-- The request to write the lines that contain `x` to another file. -/
def Sample.filterPayload : List (Text × Json) :=
  [("input_file", .string "notes.txt"), ("out_file", .string "a.txt"),
    ("query", .string "x")]

/-- The file of the sample as the input of the request. -/
def Sample.filterInput :
    TextInput (memoryFiles _ _ : FileSystem Sample.host) Sample.policyGuard
      Sample.filterPayload Sample.files :=
  { Sample.textInput with valid := rfl, isQuery := rfl }

/-- Filtering the file of the sample in the two modes. -/
theorem filter_modes_agree_iff_sample :
    ∃ memoryPlan streamPlan,
      Planner.buildPlan Sample.host opTaskFilterLines Sample.filterPayload
        (Sample.contextOfSize 4) = .ok memoryPlan ∧
      Planner.buildPlan Sample.host opTaskFilterLines Sample.filterPayload
        (Sample.contextOfSize 262145) = .ok streamPlan ∧
      (FilteredAlike Sample.filterPayload "x" [0x78, 0x0A, 0x79, 0x0A] →
        SameOutcome (memoryFiles _ _ : FileSystem Sample.host)
          Sample.policyGuard (.string "a.txt")
          ((ToolDispatcher.executePlan Sample.host Sample.policyGuard
            memoryPlan).run Sample.files)
          ((ToolDispatcher.executePlan Sample.host Sample.policyGuard
            streamPlan).run Sample.files)) := by
  have memoryPlanned : ∃ plan, Planner.buildPlan Sample.host
      opTaskFilterLines Sample.filterPayload (Sample.contextOfSize 4) =
        .ok plan ∧ plan.executionMode = .memory := ⟨_, rfl, rfl⟩
  have streamPlanned : ∃ plan, Planner.buildPlan Sample.host
      opTaskFilterLines Sample.filterPayload (Sample.contextOfSize 262145) =
        .ok plan ∧ plan.executionMode = .stream := ⟨_, rfl, rfl⟩
  obtain ⟨memoryPlan, memoryPlanned, inMemory⟩ := memoryPlanned
  obtain ⟨streamPlan, streamPlanned, asStream⟩ := streamPlanned
  exact ⟨memoryPlan, streamPlan, memoryPlanned, streamPlanned,
    (filter_modes_agree_iff Sample.filterInput ⟨[], rfl, rfl⟩ memoryPlanned
      inMemory streamPlanned asStream rfl rfl).1⟩

/-- The stream mode writes the newline of a line, the memory mode does not. -/
theorem filtered_files_differ :
    ∃ memoryPlan streamPlan,
      Planner.buildPlan Sample.host opTaskFilterLines Sample.filterPayload
        (Sample.contextOfSize 4) = .ok memoryPlan ∧
      memoryPlan.executionMode = .memory ∧
      Planner.buildPlan Sample.host opTaskFilterLines Sample.filterPayload
        (Sample.contextOfSize 262145) = .ok streamPlan ∧
      streamPlan.executionMode = .stream ∧
      ((ToolDispatcher.executePlan Sample.host Sample.policyGuard
        memoryPlan).run Sample.files).2.get? "/sandbox/a.txt" =
          some [0x78] ∧
      ((ToolDispatcher.executePlan Sample.host Sample.policyGuard
        streamPlan).run Sample.files).2.get? "/sandbox/a.txt" =
          some [0x78, 0x0A] :=
  ⟨_, _, rfl, rfl, rfl, rfl, rfl, rfl⟩

end RudpAgentStack

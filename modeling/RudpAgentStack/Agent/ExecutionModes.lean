import RudpAgentStack.Agent.TaskOutcomes
import RudpAgentStack.Foundation.LineFilters
import RudpAgentStack.Foundation.Utf8

/-!
# The two execution modes

A task is planned in memory or in stream mode by the size found under the path
as it was sent, which is not the path the plan reads.  The two modes read the
same text and cut it into lines in their own ways.
-/

namespace RudpAgentStack

open Foundation

variable {World : Type} {host : Host World} {guard : PolicyGuard}

/-! ## The choice of the mode -/

namespace TaskHandler

/-- The plan of a task, made with the size found for its input. -/
def plannedTask
    (host : Host World) (guard : PolicyGuard) (header : AppHeader)
    (taskData : List (Text × Json)) (clientId : Text) : Action World Plan := do
  let fileSize ← inputSize host guard taskData
  Planner.buildPlan host header.opcode taskData
    { clientId, requestId := Text.ofInt header.requestId, fileSize }

/-- What the handler performs is the planned task. -/
theorem performTask_eq
    (header : AppHeader) (taskData : List (Text × Json)) (clientId : Text) :
    performTask host guard header taskData clientId = (do
      let plan ← plannedTask host guard header taskData clientId
      let plan := { plan with
        initialContext := { plan.initialContext with holdsPlan := true } }
      let result ← ToolDispatcher.executePlan host guard plan
      let responseBytes ← ResponseBuilder.buildResponse host header.opcode
        header.requestId .ok result
      return (responseBytes, plan.sideEffects)) := by
  simp only [performTask, plannedTask, bind_assoc]

/-- The size found under the path as it was sent, from the working directory
of the process; 0 if there is nothing. -/
def sentSize (host : Host World) (taskData : List (Text × Json))
    (world : World) : Int :=
  match Json.get? taskData "input_file" with
  | none => 0
  | some path =>
      if host.pathExists (host.str path) world then
        match (host.getsize (host.str path)).run world with
        | (.ok size, _) => size
        | (.error _, _) => 0
      else 0

theorem getD_of_inputSize
    {taskData : List (Text × Json)} {world after : World}
    {fileSize : Option Int}
    (found : (inputSize host guard taskData).run world =
      (.ok fileSize, after)) :
    fileSize.getD 0 = sentSize host taskData world := by
  unfold inputSize at found
  unfold sentSize
  cases given : Json.get? taskData "input_file" with
  | none =>
      rw [given] at found
      rw [← (run_pure_eq_ok_iff.mp found).1]
      rfl
  | some path =>
      rw [given] at found
      simp only [run_bind_eq_ok_iff, run_lift_eq_ok_iff] at found
      obtain ⟨_, _, ⟨_, rfl⟩, present, _, exists_run, found⟩ := found
      cases exists_run
      split at found
      · next present =>
          obtain ⟨size, _, sized, found⟩ := run_bind_eq_ok_iff.mp found
          rw [← (run_pure_eq_ok_iff.mp found).1]
          simp only [if_pos present, sized, Option.getD_some]
      · next absent =>
          rw [← (run_pure_eq_ok_iff.mp found).1]
          simp only [if_neg absent, Option.getD_none]

/-- A task is planned in stream mode when what is found under the path as it
was sent is larger than the threshold. -/
theorem executionMode_eq_stream_iff
    {header : AppHeader} {taskData : List (Text × Json)} {clientId : Text}
    {plan : Plan} {world after : World}
    (planned : (plannedTask host guard header taskData clientId).run world =
      (.ok plan, after)) :
    plan.executionMode = .stream ↔
      streamThreshold < sentSize host taskData world := by
  obtain ⟨fileSize, _, found, built⟩ := run_bind_eq_ok_iff.mp planned
  have mode := (Planner.of_buildPlan (run_lift_eq_ok_iff.mp built).1).1
  rw [mode, Planner.modeFor, getD_of_inputSize found]
  split
  · next small => simp [not_lt.mpr small]
  · next large => simp [not_le.mp large]

/-- The size of the file of the sandbox is found when it is sent under its
own path. -/
theorem sentSize_of_content
    (files : FileSystem host) {taskData : List (Text × Json)} {world : World}
    {safePath : Text} {bytes : Bytes}
    (valid : guard.validatePath (Json.get taskData "input_file") =
      .ok safePath)
    (found : files.content world safePath = some bytes)
    (sent : host.str (Json.get taskData "input_file") = safePath) :
    sentSize host taskData world = bytes.length := by
  unfold sentSize
  unfold Json.get at valid sent
  cases given : Json.get? taskData "input_file" with
  | none =>
      rw [given] at valid
      cases valid
  | some path =>
      rw [given, Option.getD_some] at sent
      simp only [sent, files.pathExists_of_content found,
        files.getsize_run found, if_true]

/-- For a task whose input is a file of the sandbox, the mode follows the size
of that file exactly when what is found under the path as it was sent is on the
same side of the threshold.  That is so when the file is sent under its own
path, and for a large file it is not so when nothing is found. -/
theorem executionMode_follows_file_iff
    (files : FileSystem host)
    {header : AppHeader} {taskData : List (Text × Json)} {clientId : Text}
    {plan : Plan} {world after : World} {safePath : Text} {bytes : Bytes}
    (planned : (plannedTask host guard header taskData clientId).run world =
      (.ok plan, after))
    (valid : guard.validatePath (Json.get taskData "input_file") =
      .ok safePath)
    (found : files.content world safePath = some bytes) :
    ((plan.executionMode = .stream ↔ streamThreshold < bytes.length) ↔
      (streamThreshold < sentSize host taskData world ↔
        streamThreshold < bytes.length)) ∧
    (host.str (Json.get taskData "input_file") = safePath →
      (plan.executionMode = .stream ↔ streamThreshold < bytes.length)) ∧
    (sentSize host taskData world = 0 → plan.executionMode = .memory) := by
  have mode := executionMode_eq_stream_iff planned
  refine ⟨by rw [mode], fun sent => ?_, fun nothing => ?_⟩
  · rw [mode, sentSize_of_content files valid found sent]
  · rw [nothing] at mode
    cases chosen : plan.executionMode with
    | memory => rfl
    | stream => exact absurd (mode.mp chosen) (by decide)

/-- A file of the sandbox that is larger than the threshold. -/
def Sample.largeFiles : MemoryHost.Files :=
  Dict.empty.set "/sandbox/notes.txt" (List.replicate 262145 0x78)

/-- The header of a request to search the file. -/
def Sample.searchHeader : AppHeader := ⟨1, opTaskSearchReport, 0, 0, 1, 0⟩

/-- The large file is sent under a path that leads nowhere from the working
directory, so the plan is made for a file of size 0. -/
theorem executionMode_follows_file_iff_large :
    ∃ plan bytes,
      (plannedTask Sample.host Sample.policyGuard Sample.searchHeader
        Sample.linesData "c").run Sample.largeFiles =
          (.ok plan, Sample.largeFiles) ∧
      Sample.policyGuard.validatePath
        (Json.get Sample.linesData "input_file") =
          .ok "/sandbox/notes.txt" ∧
      (memoryFiles _ _ : FileSystem Sample.host).content Sample.largeFiles
        "/sandbox/notes.txt" = some bytes ∧
      ((plan.executionMode = .stream ↔ streamThreshold < bytes.length) ↔
        (streamThreshold < sentSize Sample.host Sample.linesData
          Sample.largeFiles ↔ streamThreshold < bytes.length)) := by
  have valid : Sample.policyGuard.validatePath
      (Json.get Sample.linesData "input_file") =
        .ok "/sandbox/notes.txt" := rfl
  have planned : ∃ plan,
      (plannedTask Sample.host Sample.policyGuard Sample.searchHeader
        Sample.linesData "c").run Sample.largeFiles =
          (.ok plan, Sample.largeFiles) := ⟨_, rfl⟩
  obtain ⟨plan, planned⟩ := planned
  exact ⟨plan, _, planned, valid, rfl,
    (executionMode_follows_file_iff (memoryFiles _ _) planned valid rfl).1⟩

/-- The plan for the large file reads it into memory. -/
theorem large_file_planned_in_memory :
    ∃ plan bytes,
      (plannedTask Sample.host Sample.policyGuard Sample.searchHeader
        Sample.linesData "c").run Sample.largeFiles =
          (.ok plan, Sample.largeFiles) ∧
      Sample.policyGuard.validatePath
        (Json.get Sample.linesData "input_file") =
          .ok "/sandbox/notes.txt" ∧
      (memoryFiles _ _ : FileSystem Sample.host).content Sample.largeFiles
        "/sandbox/notes.txt" = some bytes ∧
      ¬(plan.executionMode = .stream ↔ streamThreshold < bytes.length) := by
  refine ⟨_, List.replicate 262145 0x78, rfl, rfl, rfl, ?_⟩
  rw [List.length_replicate]
  decide

end TaskHandler

/-! ## Plans of the two modes -/

/-- The payload does not ask for the plan. -/
def AsksNoPlan (payload : List (Text × Json)) : Prop :=
  ∃ options, (Json.get? payload "options").getD (.object []) =
    .object options ∧ (Json.get options "return_plan").truthy = false

/-- Without a request for the plan, its steps are those of the template. -/
theorem AsksNoPlan.template_eq
    {payload : List (Text × Json)} (noPlan : AsksNoPlan payload)
    {opcode : Int} {context : TaskContext} {plan : Plan}
    (planned : Planner.buildPlan host opcode payload context = .ok plan) :
    plan.outputPolicy = .dynamic ∧ plan.initialContext = context ∧
      Planner.template host opcode payload plan.executionMode =
        .ok (plan.explanation, plan.steps, plan.sideEffects) := by
  obtain ⟨mode, policy, initial, steps, extra, templated, extraSteps,
    steps_eq⟩ := Planner.of_buildPlan planned
  obtain ⟨options, given, notAsked⟩ := noPlan
  have noExtra : Planner.planSteps payload context = .ok [] := by
    rw [Planner.planSteps, given]
    simp only [notAsked, Bool.false_eq_true, if_false]
  rw [noExtra] at extraSteps
  cases extraSteps
  rw [List.append_nil] at steps_eq
  rw [mode, steps_eq]
  exact ⟨policy, initial, templated⟩

/-! ## Reading in the two modes -/

/-- The input of a task is a file of the sandbox with valid text, and its query
is a string. -/
structure TextInput
    (files : FileSystem host) (guard : PolicyGuard)
    (payload : List (Text × Json)) (world : World) where
  safePath : Text
  bytes : Bytes
  text : Text
  query : Text
  valid : guard.validatePath (Json.get payload "input_file") = .ok safePath
  found : files.content world safePath = some bytes
  small : (bytes.length : Int) ≤ maxFileSize
  decoded : Text.decodeUtf8 bytes = some text
  isQuery : Json.get payload "query" = .string query

/-- The lines a mode reads from a text. -/
def linesRead (text : Text) : ExecutionMode → List Text
  | .memory => Text.splitlines (Text.universalNewlines text)
  | .stream => Text.fileLines (Text.universalNewlines text)

namespace TextInput

variable
  {files : FileSystem host} {payload : List (Text × Json)} {world : World}
  (input : TextInput files guard payload world)

/-- What the reading step leaves in the context. -/
def value : ExecutionMode → Value
  | .memory => .text (Text.universalNewlines input.text)
  | .stream => .stream input.safePath false

theorem toolReadFile_run :
    (ToolDispatcher.toolReadFile host guard
      (Planner.readStep payload .memory).args).run world =
        (.ok (input.value .memory), world) := by
  have argument : ToolDispatcher.argument
      (Planner.readStep payload .memory).args "path" =
        .ok (Json.get payload "input_file") := rfl
  have notLarge : ¬maxFileSize < (input.bytes.length : Int) :=
    not_lt.mpr input.small
  have decoded : host.decode input.bytes = .ok input.text := by
    rw [Host.decode, input.decoded]
  simp only [ToolDispatcher.toolReadFile, Action.run_bind, Action.run_liftM,
    argument, input.valid, files.getsize_run input.found, if_neg notLarge,
    files.readFile_run input.found, decoded]
  rfl

/-- Reading succeeds in both modes and changes nothing. -/
theorem runTool_readStep (mode : ExecutionMode) (context : Context) :
    (ToolDispatcher.runTool host guard (Planner.readStep payload mode) .none
      context).run world = (.ok (input.value mode), world) := by
  cases mode with
  | memory => exact input.toolReadFile_run
  | stream =>
      have argument : ToolDispatcher.argument
          (Planner.readStep payload .stream).args "path" =
            .ok (Json.get payload "input_file") := rfl
      have binary : (Json.get (Planner.readStep payload .stream).args
          "binary").truthy = false := rfl
      change (ToolDispatcher.toolStreamRead guard
        (Planner.readStep payload .stream).args, world) = _
      rw [ToolDispatcher.toolStreamRead, argument, binary]
      change (guard.validatePath _ >>= _, world) = _
      rw [input.valid]
      rfl

/-- What is read is cut into the lines of the mode. -/
theorem textLines_run (mode : ExecutionMode) :
    (ToolDispatcher.textLines host (input.value mode)).run world =
      (.ok (linesRead input.text mode), world) := by
  cases mode with
  | memory => rfl
  | stream =>
      simp only [value, ToolDispatcher.textLines, Action.run_bind,
        files.readFile_run input.found,
        Text.decodeUtf8Replacing_of_decodeUtf8 input.decoded]
      rfl

/-- The pattern of a filter or search is the query. -/
theorem argument_query :
    ToolDispatcher.argument
      [(Text.ofString "pattern", Json.get payload "query")] "pattern" =
        .ok (.string input.query) := by
  rw [← input.isQuery]
  rfl

theorem toolFilterLines_run (mode : ExecutionMode) :
    (ToolDispatcher.toolFilterLines host
      [("pattern", Json.get payload "query")] (input.value mode)).run world =
        (.ok (.lines (Text.linesWith input.query (linesRead input.text mode))),
          world) := by
  simp only [ToolDispatcher.toolFilterLines, Action.run_bind,
    Action.run_liftM, input.argument_query,
    input.textLines_run, ToolDispatcher.checkedPattern]
  rfl

theorem toolSearchLines_run (mode : ExecutionMode) :
    (ToolDispatcher.toolSearchLines host
      [("pattern", Json.get payload "query")] (input.value mode)).run world =
        (.ok (.lines (ToolDispatcher.searchFrom input.query 0 []
          (linesRead input.text mode))), world) := by
  simp only [ToolDispatcher.toolSearchLines, Action.run_bind,
    Action.run_liftM, input.argument_query,
    input.textLines_run, ToolDispatcher.checkedPattern]
  rfl

end TextInput

namespace ToolDispatcher

/-- A step that runs hands its context on. -/
theorem executeSteps_cons_run
    {step : Step} {context : Context} {input output : Value}
    {world after : World} (steps : List Step)
    (given : stepInput host step context = .ok input)
    (run : (runTool host guard step input context).run world =
      (.ok output, after)) :
    (executeSteps host guard (step :: steps) context).run world =
      (executeSteps host guard steps
        (context.set step.produces output)).run after := by
  have first : (executeStep host guard step context).run world =
      (.ok (context.set step.produces output), after) :=
    executeStep_eq_ok_iff.mpr ⟨input, output, given, run, rfl⟩
  rw [executeSteps, run_bind, first]

end ToolDispatcher

/-- The context after reading and one more step on what was read. -/
def contextAfter
    (context : Context) (payload : List (Text × Json)) (mode : ExecutionMode)
    (read : Value) (key : Text) (output : Value) : Context :=
  (context.set (Planner.readStep payload mode).produces read).set key output

/-- After reading and a step on what was read come the other steps. -/
theorem TextInput.executeSteps_run
    {files : FileSystem host} {payload : List (Text × Json)} {world : World}
    (input : TextInput files guard payload world) (mode : ExecutionMode)
    (context : Context) (step : Step) {output : Value} (steps : List Step)
    (consumes : step.consumes = some (Planner.readStep payload mode).produces)
    (run : ∀ context, (ToolDispatcher.runTool host guard step
      (input.value mode) context).run world = (.ok output, world)) :
    (ToolDispatcher.executeSteps host guard
      (Planner.readStep payload mode :: step :: steps) context).run world =
      (ToolDispatcher.executeSteps host guard steps
        (contextAfter context payload mode (input.value mode) step.produces
          output)).run world := by
  rw [ToolDispatcher.executeSteps_cons_run _
    (by rw [ToolDispatcher.stepInput, Planner.readStep_consumes])
    (input.runTool_readStep mode _)]
  rw [ToolDispatcher.executeSteps_cons_run _ (by
    simp only [ToolDispatcher.stepInput, consumes, Context.get?_set_self])
    (run _)]
  rfl

/-! ## A sample -/

namespace Sample

/-- The policy of the sample admits the file a request for lines names. -/
theorem validatePath_linesData :
    policyGuard.validatePath (Json.get linesData "input_file") =
      .ok "/sandbox/notes.txt" := rfl

/-- A request for lines asks for those with an `x`. -/
theorem query_linesData : Json.get linesData "query" = .string "x" := rfl

/-- The file of the sample as the input of a request for lines. -/
def textInput : TextInput (memoryFiles _ _ : FileSystem Sample.host)
    policyGuard linesData files where
  safePath := "/sandbox/notes.txt"
  bytes := [0x78, 0x0A, 0x79, 0x0A]
  text := [0x78, 0x0A, 0x79, 0x0A]
  query := "x"
  valid := validatePath_linesData
  found := rfl
  small := by decide
  decoded := rfl
  isQuery := query_linesData

/-- The context of a request of the sample for a file of a given size. -/
def contextOfSize (size : Int) : TaskContext :=
  { taskContext with fileSize := some size }

/-- A file with the lines `x`, form feed, `y` and `x`. -/
def feedFiles : MemoryHost.Files :=
  Dict.empty.set "/sandbox/notes.txt" [0x78, 0x0C, 0x79, 0x0A, 0x78, 0x0A]

end Sample

end RudpAgentStack

import RudpAgentStack.Agent.FailedChecks
import RudpAgentStack.Agent.TaskConduct

/-!
# The checks that tasks fail

Tasks, responses and the dispatcher with detailed exceptions.  A request with
a handler is answered as the detailed dispatcher says.
-/

namespace RudpAgentStack

open Foundation

namespace Checked

variable {World : Type} (host : Host World) (guard : PolicyGuard)

/-! ## Responses -/

/-- The envelope of a payload. -/
def encodeMessage (header : AppHeader) (payload : Bytes) :
    Except Reason Bytes :=
  if maxPayloadLen < payload.length then
    .error (.responseTooLong payload.length)
  else
    (RudpAgentStack.encodeMessage header.opcode 0 header.requestId
      payload).mapError (.exception false)

theorem mapError_exception {α : Type} (result : Except PyError α) :
    (result.mapError (Reason.exception false)).mapError Reason.error =
      result := by
  cases result <;> rfl

theorem mapError_encodeMessage (header : AppHeader) (payload : Bytes) :
    (encodeMessage header payload).mapError Reason.error =
      RudpAgentStack.encodeMessage header.opcode 0 header.requestId
        payload := by
  unfold encodeMessage
  split
  · next tooLong =>
      unfold RudpAgentStack.encodeMessage encodeHeader checkHeader
      rw [if_neg (by simp), if_pos (by exact_mod_cast tooLong)]
      rfl
  · exact mapError_exception _

/-- `build_response` for the data of a handler. -/
def buildResponse
    (header : AppHeader) (data : Json) (binaryData : Option Bytes := none) :
    Except Reason Bytes :=
  match serialize host (ResponseBuilder.payloadDict .ok none data)
      binaryData with
  | .ok payloadBytes => encodeMessage header payloadBytes
  | .error _ =>
      match host.dumpBytes ResponseBuilder.fallbackDict with
      | .ok payloadBytes => encodeMessage header payloadBytes
      | .error error => .error (.exception false error)

theorem mapError_buildResponse
    (header : AppHeader) (data : Json) (binaryData : Option Bytes) :
    (buildResponse host header data binaryData).mapError Reason.error =
      ResponseBuilder.buildResponse host header.opcode header.requestId .ok
        data none binaryData := by
  rw [buildResponse_eq, buildResponse]
  cases serialize host (ResponseBuilder.payloadDict .ok none data)
      binaryData with
  | ok payloadBytes => exact mapError_encodeMessage header payloadBytes
  | error error =>
      dsimp only
      cases host.dumpBytes ResponseBuilder.fallbackDict with
      | ok payloadBytes => exact mapError_encodeMessage header payloadBytes
      | error error => rfl

/-! ## Tools -/

/-- `_atomic_write` -/
def atomicWrite (path : Json) (content : Except PyError Bytes) :
    Checked World Unit := do
  let safePath ← validatePath guard path
  plainly (host.makedirs (PosixPath.directory safePath))
  let temporary ←
    plainly (host.createTemporary (PosixPath.directory safePath))
  plainly (ToolDispatcher.finishWrite host safePath temporary content)

@[simp] theorem erased_atomicWrite
    (path : Json) (content : Except PyError Bytes) :
    erased (atomicWrite host guard path content) =
      ToolDispatcher.atomicWrite host guard path content := by
  unfold atomicWrite
  simp only [erased_bind, erased_plainly, erased_lift, mapError_validatePath]
  rfl

/-- `_tool_read_file` -/
def toolReadFile (args : List (Text × Json)) : Checked World Value := do
  let path ← plainly (ToolDispatcher.argument args "path" : Except PyError _)
  let safePath ← validatePath guard path
  let size ← onNamedFile (host.getsize safePath)
  if maxFileSize < size then throw (.readTooLarge safePath)
  let bytes ← onNamedFile (host.readFile safePath)
  let content ← plainly (host.decode bytes : Except PyError _)
  return .text (Text.universalNewlines content)

@[simp] theorem erased_toolReadFile (args : List (Text × Json)) :
    erased (toolReadFile host guard args) =
      ToolDispatcher.toolReadFile host guard args := by
  unfold toolReadFile
  simp only [erased_bind, erased_ite, erased_throw, erased_pure,
    erased_plainly, erased_onNamedFile, erased_lift, mapError_validatePath]
  rfl

/-- `_tool_stream_read` -/
def toolStreamRead (args : List (Text × Json)) : Except Reason Value := do
  let path ← (ToolDispatcher.argument args "path").mapError (.exception false)
  let safePath ← validatePath guard path
  return .stream safePath (Json.get args "binary").truthy

theorem mapError_toolStreamRead (args : List (Text × Json)) :
    (toolStreamRead guard args).mapError Reason.error =
      ToolDispatcher.toolStreamRead guard args := by
  unfold toolStreamRead ToolDispatcher.toolStreamRead
  cases ToolDispatcher.argument args "path" with
  | error error => rfl
  | ok path =>
      have validated := mapError_validatePath guard path
      simp only [Except.mapError, bind, Except.bind]
      rw [← validated]
      cases validatePath guard path <;> rfl

/-- `_tool_write_file` -/
def toolWriteFile (args : List (Text × Json)) (inputData : Value) :
    Checked World Value := do
  let path ← plainly (ToolDispatcher.argument args "path" : Except PyError _)
  let content :=
    match inputData with
    | .lines values => Value.text (Text.join "\n" values)
    | value => value
  atomicWrite host guard path (ToolDispatcher.writtenBytes host content)
  return .text "SUCCESS"

@[simp] theorem erased_toolWriteFile
    (args : List (Text × Json)) (inputData : Value) :
    erased (toolWriteFile host guard args inputData) =
      ToolDispatcher.toolWriteFile host guard args inputData := by
  unfold toolWriteFile
  simp only [erased_bind, erased_pure, erased_plainly, erased_atomicWrite]
  rfl

/-- `_tool_write_artifact` -/
def toolWriteArtifact (args : List (Text × Json)) (inputData : Value)
    (context : Context) : Checked World Value := do
  let path ← plainly (ToolDispatcher.argument args "path" : Except PyError _)
  let content ← plainly
    (ToolDispatcher.artifactContent (Json.get args "content_key") inputData
      context : Except PyError _)
  let written : Value ← plainly
    (match content with
    | .none => pure (Value.text [])
    | .lines values => do
        let text ← host.jsonDumps { indent := some 2 }
          (.array (values.map .string))
        pure (Value.text text)
    | value => pure value)
  atomicWrite host guard path (ToolDispatcher.writtenBytes host written)
  return .text (host.str path)

@[simp] theorem erased_toolWriteArtifact
    (args : List (Text × Json)) (inputData : Value) (context : Context) :
    erased (toolWriteArtifact host guard args inputData context) =
      ToolDispatcher.toolWriteArtifact host guard args inputData context := by
  unfold toolWriteArtifact ToolDispatcher.toolWriteArtifact
  simp only [erased_bind, erased_pure, erased_plainly, erased_atomicWrite]
  apply bind_congr
  intro path
  apply bind_congr
  intro content
  cases content with
  | lines values => exact bind_assoc _ _ _
  | _ => rfl

/-- The tool of a step.  Searching, filtering and hashing may open the file
that the request names. -/
def runTool (step : Step) (inputData : Value) (context : Context) :
    Checked World Value :=
  match step.tool with
  | .readFile => toolReadFile host guard step.args
  | .streamRead => toolStreamRead guard step.args
  | .searchLines => onNamedFile
      (ToolDispatcher.toolSearchLines host step.args inputData)
  | .filterLines => onNamedFile
      (ToolDispatcher.toolFilterLines host step.args inputData)
  | .hashSha256 => onNamedFile (ToolDispatcher.toolHashSha256 host inputData)
  | .writeFile => toolWriteFile host guard step.args inputData
  | .writeArtifact => toolWriteArtifact host guard step.args inputData context
  | .buildReport => plainly
      (ToolDispatcher.toolBuildReport host step.args inputData :
        Except PyError _)

@[simp] theorem erased_runTool
    (step : Step) (inputData : Value) (context : Context) :
    erased (runTool host guard step inputData context) =
      ToolDispatcher.runTool host guard step inputData context := by
  unfold runTool ToolDispatcher.runTool
  cases step.tool with
  | readFile => exact erased_toolReadFile _ _ _
  | streamRead =>
      dsimp only
      rw [erased_lift, mapError_toolStreamRead]
  | searchLines => exact erased_onNamedFile _
  | filterLines => exact erased_onNamedFile _
  | hashSha256 => exact erased_onNamedFile _
  | writeFile => exact erased_toolWriteFile _ _ _ _
  | writeArtifact => exact erased_toolWriteArtifact _ _ _ _ _
  | buildReport => exact erased_plainly _

/-! ## Plans -/

/-- `_execute_step` -/
def executeStep (step : Step) (context : Context) : Checked World Context := do
  let inputData ← plainly
    (ToolDispatcher.stepInput host step context : Except PyError _)
  let output ← runTool host guard step inputData context
  return context.set step.produces output

/-- The steps of a plan, one after the other. -/
def executeSteps : List Step → Context → Checked World Context
  | [], context => return context
  | step :: steps, context => do
      let context ← executeStep host guard step context
      executeSteps steps context

@[simp] theorem erased_executeSteps (steps : List Step) (context : Context) :
    erased (executeSteps host guard steps context) =
      ToolDispatcher.executeSteps host guard steps context := by
  induction steps generalizing context with
  | nil => rfl
  | cons step steps inductionHypothesis =>
      unfold executeSteps ToolDispatcher.executeSteps executeStep
      simp only [erased_bind, erased_pure, erased_plainly, erased_runTool,
        inductionHypothesis]
      rfl

/-- `_write_fallback_artifact` -/
def writeFallbackArtifact (content : Bytes) (context : Context) :
    Checked World Text := do
  let path :=
    artifactDir ++ "/" ++ context.initial.clientId ++ "/" ++
      context.initial.requestId ++ "_result.txt"
  atomicWrite host guard (.string path) (.ok content)
  return path

@[simp] theorem erased_writeFallbackArtifact
    (content : Bytes) (context : Context) :
    erased (writeFallbackArtifact host guard content context) =
      ToolDispatcher.writeFallbackArtifact host guard content context := by
  unfold writeFallbackArtifact
  simp only [erased_bind, erased_pure, erased_atomicWrite]
  rfl

/-- The entry of the result that holds the final output. -/
def outcome (policy : OutputPolicy) (context : Context) :
    Checked World (List (Text × Json)) := do
  match context.get? "final_output" with
  | none => return []
  | some finalOutput =>
      if finalOutput.truthy = false then return []
      let encodedOutput ← plainly
        (host.encode (finalOutput.str host) : Except PyError _)
      let inline : Text × Json :=
        (Text.ofString "output", finalOutput.toJson host)
      match policy with
      | .inline =>
          if inlineLimit < encodedOutput.length then throw .outputTooLong
          return [inline]
      | .artifact =>
          match context.get? "artifact_path" with
          | none =>
              let path ←
                writeFallbackArtifact host guard encodedOutput context
              return [(Text.ofString "artifact_path", .string path)]
          | some path =>
              return [(Text.ofString "artifact_path", path.toJson host)]
      | .dynamic =>
          if encodedOutput.length ≤ inlineLimit then return [inline]
          let path ← writeFallbackArtifact host guard encodedOutput context
          return [(Text.ofString "artifact_path", .string path)]

@[simp] theorem erased_outcome (policy : OutputPolicy) (context : Context) :
    erased (outcome host guard policy context) =
      ToolDispatcher.outcome host guard policy context := by
  unfold outcome ToolDispatcher.outcome
  cases context.get? "final_output" with
  | none => rfl
  | some finalOutput =>
      dsimp only
      rw [erased_ite]
      split
      · rfl
      rw [erased_bind, erased_plainly]
      apply bind_congr
      intro encodedOutput
      cases policy with
      | inline =>
          simp only [erased_ite, erased_bind, erased_throw, erased_pure]
          rfl
      | artifact =>
          cases context.get? "artifact_path" with
          | none =>
              simp only [erased_bind, erased_pure,
                erased_writeFallbackArtifact]
          | some path => rfl
      | dynamic =>
          simp only [erased_ite, erased_bind, erased_pure,
            erased_writeFallbackArtifact]

/-- `execute_plan` -/
def executePlan (plan : Plan) : Checked World Json := do
  let context ← executeSteps host guard plan.steps
    { initial := plan.initialContext }
  let result ← outcome host guard plan.outputPolicy context
  match context.get? "plan_artifact_path" with
  | none => return .object result
  | some path =>
      return .object (result ++
        [(Text.ofString "plan_artifact_path", path.toJson host)])

@[simp] theorem erased_executePlan (plan : Plan) :
    erased (executePlan host guard plan) =
      ToolDispatcher.executePlan host guard plan := by
  unfold executePlan ToolDispatcher.executePlan
  rw [erased_bind, erased_executeSteps]
  apply bind_congr
  intro context
  rw [erased_bind, erased_outcome]
  apply bind_congr
  intro result
  cases context.get? "plan_artifact_path" <;> rfl

/-! ## The task handler -/

/-- Size of the input file. -/
def inputSize (taskData : List (Text × Json)) :
    Checked World (Option Int) := do
  match Json.get? taskData "input_file" with
  | none => return none
  | some path =>
      let _ ← validatePath guard path
      if ← plainly (host.exists? (host.str path)) then
        return some (← onNamedFile (host.getsize (host.str path)))
      return none

@[simp] theorem erased_inputSize (taskData : List (Text × Json)) :
    erased (inputSize host guard taskData) =
      TaskHandler.inputSize host guard taskData := by
  unfold inputSize TaskHandler.inputSize
  cases Json.get? taskData "input_file" with
  | none => rfl
  | some path =>
      simp only [erased_bind, erased_ite, erased_pure, erased_plainly,
        erased_onNamedFile, erased_lift, mapError_validatePath]

/-- Plan the task and execute it. -/
def performTask
    (header : AppHeader) (taskData : List (Text × Json)) (clientId : Text) :
    Checked World (Bytes × Bool) := do
  let fileSize ← inputSize host guard taskData
  let plan ← plainly (Planner.buildPlan host header.opcode taskData
    { clientId, requestId := Text.ofInt header.requestId, fileSize } :
      Except PyError _)
  let plan :=
    { plan with initialContext := { plan.initialContext with holdsPlan := true } }
  let result ← executePlan host guard plan
  let responseBytes ← buildResponse host header result
  return (responseBytes, plan.sideEffects)

@[simp] theorem erased_performTask
    (header : AppHeader) (taskData : List (Text × Json)) (clientId : Text) :
    erased (performTask host guard header taskData clientId) =
      TaskHandler.performTask host guard header taskData clientId := by
  unfold performTask
  simp only [erased_bind, erased_pure, erased_plainly, erased_inputSize,
    erased_executePlan, erased_lift, mapError_buildResponse]
  rfl

/-- Perform a task and store the response of one with side effects. -/
def performAndStore
    (header : AppHeader) (taskData : List (Text × Json)) (clientId : Text)
    (now : Readings) : Checked (World × IdempotencyCache) Bytes :=
  ExceptT.mk fun (world, cache) =>
    match (performTask host guard header taskData clientId).run world with
    | (.error reason, world) => (.error reason, world, cache)
    | (.ok (responseBytes, sideEffects), world) =>
        (.ok responseBytes, world,
          if sideEffects then
            cache.storeResponse clientId header.requestId header.opcode
              responseBytes now.taskStore
          else cache)

@[simp] theorem erased_performAndStore
    (header : AppHeader) (taskData : List (Text × Json)) (clientId : Text)
    (now : Readings) :
    erased (performAndStore host guard header taskData clientId now) =
      TaskHandler.performAndStore host guard header taskData clientId now := by
  apply ext_run
  rintro ⟨world, cache⟩
  have run := adapt_run Reason.error
    (performTask host guard header taskData clientId) world
  rw [show (performTask host guard header taskData clientId).adapt
    Reason.error = _ from erased_performTask host guard _ _ _] at run
  unfold performAndStore TaskHandler.performAndStore
  rw [erased, adapt_run]
  simp only [ExceptT.run, ExceptT.mk] at run ⊢
  rw [run]
  generalize performTask host guard header taskData clientId world = outcome
  obtain ⟨reason | ⟨responseBytes, sideEffects⟩, after⟩ := outcome <;> rfl

/-- `handle_task`, on the world and the idempotency cache. -/
def handleTask
    (header : AppHeader) (payload : Bytes) (clientAddress : Option (Text × Int))
    (now : Readings) : Checked (World × IdempotencyCache) Bytes :=
  ExceptT.mk fun (world, cache) =>
    match TaskHandler.parseTask host payload with
    | .error error => (.error (.exception false error), world, cache)
    | .ok taskData =>
        let clientId := TaskHandler.taskClient clientAddress
        let (cachedResult, cache) :=
          cache.getResponse clientId header.requestId header.opcode
            now.taskLookup
        match cachedResult with
        | some (byte :: bytes) => (.ok (byte :: bytes), world, cache)
        | _ =>
            (performAndStore host guard header taskData clientId now).run
              (world, cache)

@[simp] theorem erased_handleTask
    (header : AppHeader) (payload : Bytes) (clientAddress : Option (Text × Int))
    (now : Readings) :
    erased (handleTask host guard header payload clientAddress now) =
      TaskHandler.handleTask host guard header payload clientAddress now := by
  apply ext_run
  rintro ⟨world, cache⟩
  unfold handleTask TaskHandler.handleTask
  rw [erased, adapt_run]
  simp only [ExceptT.run, ExceptT.mk]
  cases TaskHandler.parseTask host payload with
  | error error => rfl
  | ok taskData =>
      dsimp only
      generalize cache.getResponse (TaskHandler.taskClient clientAddress)
        header.requestId header.opcode now.taskLookup = looked
      obtain ⟨cachedResult, cache⟩ := looked
      have run := adapt_run Reason.error (performAndStore host guard header
        taskData (TaskHandler.taskClient clientAddress) now) (world, cache)
      rw [show (performAndStore host guard header taskData _ now).adapt
        Reason.error = _ from erased_performAndStore host guard _ _ _ _] at run
      rcases cachedResult with _ | _ | ⟨byte, bytes⟩
      · exact run.symm
      · exact run.symm
      · rfl

/-! ## The dispatcher -/

/-- A computation on the workspace, carried out in the server. -/
def onWorkspace {α : Type} (action : Checked (Workspace World) α) :
    Checked (AgentState World) α :=
  ExceptT.mk fun state =>
    let (result, workspace) := action.run state.workspace
    (result, { state with workspace := workspace })

@[simp] theorem erased_onWorkspace {α : Type}
    (action : Checked (Workspace World) α) :
    erased (onWorkspace action) = Dispatcher.onWorkspace (erased action) := by
  apply ext_run
  intro state
  rfl

/-- A computation on the world and the cache, carried out in the server. -/
def onWorldAndCache {α : Type}
    (action : Checked (World × IdempotencyCache) α) :
    Checked (AgentState World) α :=
  ExceptT.mk fun state =>
    let (result, world, cache) :=
      action.run (state.workspace.world, state.cache)
    (result, { state with
      workspace := { state.workspace with world := world }
      cache := cache })

@[simp] theorem erased_onWorldAndCache {α : Type}
    (action : Checked (World × IdempotencyCache) α) :
    erased (onWorldAndCache action) =
      Dispatcher.onWorldAndCache (erased action) := by
  apply ext_run
  intro state
  rfl

/-- The wrapper of a handler. -/
def runHandler
    (handler : Handler) (header : AppHeader) (payload : Bytes)
    (clientAddress : Option (Text × Int)) (now : Readings) :
    Checked (AgentState World) HandlerResult :=
  match handler with
  | .list => onWorkspace (onWorld (handleList host guard))
  | .putMeta => onWorkspace (handlePutMeta host guard payload)
  | .putChunk => onWorkspace (handlePutChunk host guard payload)
  | .get => onWorkspace (onWorld (handleGet host guard payload))
  | .append => onWorkspace (onWorld (handleAppend host guard payload))
  | .task => do
      let envelope ← onWorldAndCache
        (handleTask host guard header payload clientAddress now)
      return .bytes envelope

@[simp] theorem erased_runHandler
    (handler : Handler) (header : AppHeader) (payload : Bytes)
    (clientAddress : Option (Text × Int)) (now : Readings) :
    erased (runHandler host guard handler header payload clientAddress now) =
      Dispatcher.runHandler host guard handler header payload clientAddress
        now := by
  unfold runHandler Dispatcher.runHandler
  cases handler with
  | list => rw [erased_onWorkspace, erased_onWorld, handleList, erased_plainly]
  | putMeta => rw [erased_onWorkspace, erased_handlePutMeta]
  | putChunk => rw [erased_onWorkspace, erased_handlePutChunk]
  | get => rw [erased_onWorkspace, erased_onWorld, erased_handleGet]
  | append => rw [erased_onWorkspace, erased_onWorld, erased_handleAppend]
  | task =>
      dsimp only
      rw [erased_bind, erased_onWorldAndCache, erased_handleTask]
      rfl

/-- The envelope of what a handler returns. -/
def respond (header : AppHeader) : HandlerResult → Except Reason Bytes
  | .bytes envelope => .ok envelope
  | .data content binaryContent =>
      buildResponse host header content binaryContent

theorem mapError_respond (header : AppHeader) (result : HandlerResult) :
    (respond host header result).mapError Reason.error =
      Dispatcher.respond host header result := by
  cases result with
  | bytes envelope => rfl
  | data content binaryContent =>
      exact mapError_buildResponse host header content binaryContent

/-- `dispatch`, up to the response to an exception. -/
def dispatch
    (header : AppHeader) (payload : Bytes) (clientAddress : Option (Text × Int))
    (now : Readings) : Checked (AgentState World) Bytes := do
  match handlers.lookup header.opcode with
  | none => throw (.unknownOpcode header.opcode)
  | some handler =>
      modify fun state =>
        { state with calls := state.calls ++ [{ handler, header, payload }] }
      let resultData ←
        runHandler host guard handler header payload clientAddress now
      respond host header resultData

variable {host guard} {header : AppHeader} {payload : Bytes}
  {clientAddress : Option (Text × Int)} {now : Readings}
  {state after : AgentState World}

/-- A request without a handler fails, and changes nothing. -/
theorem dispatch_run_unknown (unknown : handlers.lookup header.opcode = none) :
    (dispatch host guard header payload clientAddress now).run state =
      (.error (.unknownOpcode header.opcode), state) := by
  unfold dispatch
  rw [unknown]
  rfl

/-- Without the details, a request with a handler is dispatched as the server
dispatches it, up to the response to an exception. -/
theorem erased_dispatch
    {handler : Handler}
    (routed : handlers.lookup header.opcode = some handler) :
    Dispatcher.dispatch host guard header payload clientAddress now =
      tryCatch (erased (dispatch host guard header payload clientAddress now))
        fun error => Dispatcher.respondError host header error := by
  unfold dispatch Dispatcher.dispatch
  rw [routed]
  simp only [erased_bind, erased_runHandler, erased_lift, mapError_respond]
  apply ext_run
  intro state
  rw [Action.run_bind, Action.run_modify]
  dsimp only
  rw [Action.run_tryCatch, Action.run_tryCatch]
  rfl

end Checked

end RudpAgentStack

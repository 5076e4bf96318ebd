import RudpAgentStack.Agent.Planner
import RudpAgentStack.Agent.Validations

/-!
# Executing plans

`ToolDispatcher` of `server/agent/tool_dispatcher.py`: the tools, the context
they communicate through, and the form in which the outcome is returned.
-/

namespace RudpAgentStack

open Foundation

/-- `INLINE_LIMIT`, 64 KiB. -/
def inlineLimit : Nat := 64 * 1024

/-- What the steps of a plan pass to each other. -/
inductive Value
  | none
  | int (value : Int)
  | text (value : Text)
  | lines (values : List Text)
  /-- A generator over the file of a validated path: its chunks if binary,
  its lines otherwise.  The file is opened when the generator is consumed. -/
  | stream (path : Text) (binary : Bool)

namespace Value

variable {World : Type} (host : Host World)

/-- The value counts as true in a condition. -/
def truthy : Value → Bool
  | .none => false
  | .int value => value ≠ 0
  | .text value => value ≠ []
  | .lines values => values ≠ []
  | .stream _ _ => true

/-- The value in a response. -/
def toJson : Value → Json
  | .none => .null
  | .int value => .int value
  | .text value => .string value
  | .lines values => .array (values.map .string)
  | .stream path _ => .string (host.streamRepr path)

/-- `str(value)` -/
def str (value : Value) : Text := host.str (value.toJson host)

end Value

/-- The context of a running plan: what it started from, and the outputs of
its steps. -/
structure Context where
  initial : TaskContext
  outputs : Dict Text Value := .empty

namespace Context

/-- The value under a key. -/
def get? (context : Context) (key : Text) : Option Value :=
  match context.outputs.get? key with
  | some value => some value
  | none =>
      if key = Text.ofString "client_id" then
        some (.text context.initial.clientId)
      else if key = Text.ofString "request_id" then
        some (.text context.initial.requestId)
      else if key = Text.ofString "file_size" then
        context.initial.fileSize.map .int
      else none

/-- Store the output of a step. -/
def set (context : Context) (key : Text) (value : Value) : Context :=
  { context with outputs := context.outputs.set key value }

end Context

namespace ToolDispatcher

variable {World : Type} (host : Host World) (guard : PolicyGuard)

/-- `args[key]` -/
def argument (args : List (Text × Json)) (key : Text) : Except PyError Json :=
  match Json.get? args key with
  | some value => .ok value
  | none => .error ⟨.keyError, key⟩

/-! ## Output utilities -/

/-- `_atomic_write`.  The content is given as the bytes that `tmp.write` puts
into the file, or as the exception it raises. -/
def atomicWrite (path : Json) (content : Except PyError Bytes) :
    Action World Unit := do
  let safePath ← guard.validatePath path
  let dirname := PosixPath.directory safePath
  host.makedirs dirname
  let temporary ← host.createTemporary dirname
  let fill : Action World Unit := do
    let bytes ← content
    host.writeTemporary temporary bytes
    host.flushTemporary temporary
    tryCatch (host.syncTemporary temporary) fun error =>
      if error.kind.isOsError then pure () else throw error
  -- `tmp_name` is bound after the content is written: an exception before
  -- that leaves the temporary file behind.
  tryCatch fill fun error => do
    host.closeTemporary temporary
    throw error
  let rename : Action World Unit := do
    host.closeTemporary temporary
    host.replace temporary safePath
  tryCatch rename fun error => do
    if ← host.exists? temporary then host.remove temporary
    throw error

/-- `_write_fallback_artifact` -/
def writeFallbackArtifact (content : Bytes) (context : Context) :
    Action World Text := do
  let path :=
    artifactDir ++ "/" ++ context.initial.clientId ++ "/" ++
      context.initial.requestId ++ "_result.txt"
  atomicWrite host guard (.string path) (.ok content)
  return path

/-! ## Tools -/

/-- `_tool_read_file` -/
def toolReadFile (args : List (Text × Json)) : Action World Value := do
  let path ← argument args "path"
  let safePath ← guard.validatePath path
  let size ← host.getsize safePath
  if maxFileSize < size then
    throw ⟨.valueError, "File " ++ safePath ++
      " too large for READ_FILE. Use Streaming."⟩
  let bytes ← host.readFile safePath
  let content ← host.decode bytes
  return .text (Text.universalNewlines content)

/-- `_tool_stream_read` -/
def toolStreamRead (args : List (Text × Json)) : Except PyError Value := do
  let path ← argument args "path"
  let binary := (Json.get args "binary").truthy
  let safePath ← guard.validatePath path
  return .stream safePath binary

/-- The text lines a search or filter iterates over. -/
def textLines : Value → Action World (List Text)
  | .text value => return Text.splitlines value
  | .lines values => return values
  | .stream path false => do
      let bytes ← host.readFile path
      return Text.fileLines
        (Text.universalNewlines (Text.decodeUtf8Replacing bytes))
  | .stream path true => do
      let bytes ← host.readFile path
      if bytes = [] then return []
      throw ⟨.typeError, "a bytes-like object is required, not 'str'"⟩
  | _ => throw ⟨.typeError, "object is not iterable"⟩

/-- `pattern in line` raises for a pattern that is no string, once there is a
line to search. -/
def checkedPattern (pattern : Json) (lines : List Text) :
    Except PyError Text :=
  match pattern, lines with
  | .string pattern, _ => .ok pattern
  | _, [] => .ok []
  | _, _ :: _ =>
      .error ⟨.typeError, "'in <string>' requires string as left operand"⟩

/-- The loop of `_tool_search_lines`: the line number and the results so
far. -/
def searchFrom (pattern : Text) :
    (index : Nat) → (results : List Text) → List Text → List Text
  | _, results, [] => results
  | index, results, line :: rest =>
      if Text.contains line pattern then
        let results := results ++
          [Text.ofString "Line " ++ Text.ofInt (index + 1) ++ ": " ++
            Text.strip line]
        if 1000 < results.length then
          results ++ [Text.ofString "... (Truncated)"]
        else searchFrom pattern (index + 1) results rest
      else searchFrom pattern (index + 1) results rest

/-- `_tool_search_lines` -/
def toolSearchLines (args : List (Text × Json)) (inputData : Value) :
    Action World Value := do
  let pattern ← argument args "pattern"
  let lines ← textLines host inputData
  let pattern ← checkedPattern pattern lines
  return .lines (searchFrom pattern 0 [] lines)

/-- `_tool_filter_lines` -/
def toolFilterLines (args : List (Text × Json)) (inputData : Value) :
    Action World Value := do
  let pattern ← argument args "pattern"
  let lines ← textLines host inputData
  let pattern ← checkedPattern pattern lines
  return .lines (lines.filter fun line => Text.contains line pattern)

/-- The bytes a hash is updated with, all chunks together. -/
def hashedBytes : Value → Action World Bytes
  | .text value => do
      let chunks ← (Text.splitlines value true).mapM fun chunk =>
        (host.encode chunk : Except PyError Bytes)
      return chunks.flatten
  | .stream path true => host.readFile path
  | value => do
      let lines ← textLines host value
      let chunks ← lines.mapM fun chunk =>
        (host.encode chunk : Except PyError Bytes)
      return chunks.flatten

/-- `_tool_hash_sha256` -/
def toolHashSha256 (inputData : Value) : Action World Value := do
  let bytes ← hashedBytes host inputData
  return .text (host.sha256 bytes)

/-- What `tmp.write` does with a value: text is encoded, anything else
refused. -/
def writtenBytes : Value → Except PyError Bytes
  | .text value => host.encode value
  | _ => .error ⟨.typeError, "write() argument must be str"⟩

/-- `_tool_write_file` -/
def toolWriteFile (args : List (Text × Json)) (inputData : Value) :
    Action World Value := do
  let path ← argument args "path"
  let content :=
    match inputData with
    | .lines values => Value.text (Text.join "\n" values)
    | value => value
  atomicWrite host guard path (writtenBytes host content)
  return .text "SUCCESS"

/-- The content of `_tool_write_artifact`.  The module does not import the
`asdict` it applies to the plan. -/
def artifactContent (contentKey : Json) (inputData : Value)
    (context : Context) : Except PyError Value :=
  match contentKey with
  | .string key =>
      if key = Text.ofString "__PLAN_JSON__" then
        if context.initial.holdsPlan then
          .error ⟨.nameError, "name 'asdict' is not defined"⟩
        else .ok (.text "{}")
      else
        match inputData with
        | .none =>
            if key = [] then .ok .none
            else .ok ((context.get? key).getD .none)
        | value => .ok value
  | _ => .ok inputData

/-- `_tool_write_artifact` -/
def toolWriteArtifact (args : List (Text × Json)) (inputData : Value)
    (context : Context) : Action World Value := do
  let path ← argument args "path"
  let content ← artifactContent (Json.get args "content_key") inputData context
  let written : Value ←
    match content with
    | .none => pure (Value.text [])
    | .lines values => do
        let text ← host.jsonDumps { indent := some 2 }
          (.array (values.map .string))
        pure (Value.text text)
    | value => pure value
  atomicWrite host guard path (writtenBytes host written)
  return .text (host.str path)

/-- `_tool_build_report` -/
def toolBuildReport (args : List (Text × Json)) (inputData : Value) :
    Except PyError Value :=
  match Json.get args "format", inputData with
  | .string format, inputData =>
      if format = Text.ofString "action_completion" then
        let message := Json.get args "msg"
        .ok (.text
          (if message.truthy then host.str message else "Action Completed"))
      else if format = Text.ofString "search_summary" then
        match inputData with
        | .lines values =>
            .ok (.text ("Search Found " ++ Text.ofInt values.length ++
              " matches:\n" ++ Text.join "\n" values))
        | _ => .error ⟨.typeError, "can only join an iterable"⟩
      else .ok (.text (inputData.str host))
  | _, inputData => .ok (.text (inputData.str host))

/-! ## Plans -/

/-- The input of a step. -/
def stepInput (step : Step) (context : Context) : Except PyError Value :=
  match step.consumes with
  | none => .ok .none
  | some key =>
      match context.get? key with
      | some value => .ok value
      | none =>
          valueError ("Step " ++
            host.formatMember step.tool.names.1 step.tool.names.2 ++
            " requires " ++ key ++ " which is missing from context.")

/-- The tool of a step. -/
def runTool (step : Step) (inputData : Value) (context : Context) :
    Action World Value :=
  match step.tool with
  | .readFile => toolReadFile host guard step.args
  | .streamRead => toolStreamRead guard step.args
  | .searchLines => toolSearchLines host step.args inputData
  | .filterLines => toolFilterLines host step.args inputData
  | .hashSha256 => toolHashSha256 host inputData
  | .writeFile => toolWriteFile host guard step.args inputData
  | .writeArtifact => toolWriteArtifact host guard step.args inputData context
  | .buildReport => toolBuildReport host step.args inputData

/-- `_execute_step` -/
def executeStep (step : Step) (context : Context) : Action World Context := do
  let inputData ← stepInput host step context
  let output ← runTool host guard step inputData context
  return context.set step.produces output

/-- The steps of a plan, one after the other. -/
def executeSteps : List Step → Context → Action World Context
  | [], context => return context
  | step :: steps, context => do
      let context ← executeStep host guard step context
      executeSteps steps context

/-- The entry of the result that holds the final output. -/
def outcome (policy : OutputPolicy) (context : Context) :
    Action World (List (Text × Json)) := do
  match context.get? "final_output" with
  | none => return []
  | some finalOutput =>
      if finalOutput.truthy = false then return []
      let encodedOutput ← host.encode (finalOutput.str host)
      let inline : Text × Json :=
        (Text.ofString "output", finalOutput.toJson host)
      match policy with
      | .inline =>
          if inlineLimit < encodedOutput.length then
            throw ⟨.valueError,
              "Output exceeded inline limit but policy is INLINE"⟩
          return [inline]
      | .artifact =>
          match context.get? "artifact_path" with
          | none =>
              let path ← writeFallbackArtifact host guard encodedOutput context
              return [(Text.ofString "artifact_path", .string path)]
          | some path =>
              return [(Text.ofString "artifact_path", path.toJson host)]
      | .dynamic =>
          if encodedOutput.length ≤ inlineLimit then return [inline]
          let path ← writeFallbackArtifact host guard encodedOutput context
          return [(Text.ofString "artifact_path", .string path)]

/-- `execute_plan` -/
def executePlan (plan : Plan) : Action World Json := do
  let context ← executeSteps host guard plan.steps
    { initial := plan.initialContext }
  let result ← outcome host guard plan.outputPolicy context
  match context.get? "plan_artifact_path" with
  | none => return .object result
  | some path =>
      return .object (result ++
        [(Text.ofString "plan_artifact_path", path.toJson host)])

end ToolDispatcher

end RudpAgentStack

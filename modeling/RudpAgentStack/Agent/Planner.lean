import RudpAgentStack.Common.Host
import RudpAgentStack.Common.Constants
import RudpAgentStack.Foundation.Dict

/-!
# The planner

`Planner` of `server/agent/planner.py`: it turns a task into the list of tool
steps that carries it out, without looking at any file.
-/

namespace RudpAgentStack

open Foundation

/-- `STREAM_THRESHOLD`, 256 KiB. -/
def streamThreshold : Int := 256 * 1024

/-- `ARTIFACT_DIR` -/
def artifactDir : Text := "artifacts"

/-- `ExecutionMode` -/
inductive ExecutionMode
  | memory
  | stream
  deriving DecidableEq

/-- `OutputPolicy` -/
inductive OutputPolicy
  | inline
  | artifact
  | dynamic
  deriving DecidableEq

/-- `ToolName` -/
inductive ToolName
  | readFile
  | streamRead
  | searchLines
  | filterLines
  | hashSha256
  | buildReport
  | writeFile
  | writeArtifact
  deriving DecidableEq

/-- The qualified name and the value of an execution mode. -/
def ExecutionMode.names : ExecutionMode → Text × Text
  | .memory => ("ExecutionMode.MEMORY", "memory")
  | .stream => ("ExecutionMode.STREAM", "stream")

/-- The qualified name and the value of an output policy. -/
def OutputPolicy.names : OutputPolicy → Text × Text
  | .inline => ("OutputPolicy.INLINE", "inline")
  | .artifact => ("OutputPolicy.ARTIFACT", "artifact")
  | .dynamic => ("OutputPolicy.DYNAMIC", "dynamic")

/-- The qualified name and the value of a tool name. -/
def ToolName.names : ToolName → Text × Text
  | .readFile => ("ToolName.READ_FILE", "READ_FILE")
  | .streamRead => ("ToolName.STREAM_READ", "STREAM_READ")
  | .searchLines => ("ToolName.SEARCH_LINES", "SEARCH_LINES")
  | .filterLines => ("ToolName.FILTER_LINES", "FILTER_LINES")
  | .hashSha256 => ("ToolName.HASH_SHA256", "HASH_SHA256")
  | .buildReport => ("ToolName.BUILD_REPORT", "BUILD_REPORT")
  | .writeFile => ("ToolName.WRITE_FILE", "WRITE_FILE")
  | .writeArtifact => ("ToolName.WRITE_ARTIFACT", "WRITE_ARTIFACT")

/-- `Step`: a tool with its arguments, the context key it fills and the one it
reads. -/
structure Step where
  tool : ToolName
  args : List (Text × Json)
  produces : Text
  consumes : Option Text := none

/-- What a plan starts from.  The source keeps these fields in one dictionary
with the outputs of the steps. -/
structure TaskContext where
  clientId : Text
  requestId : Text
  /-- Size of the input file, when it was found. -/
  fileSize : Option Int := none
  /-- `__plan__` refers to the plan that starts from this context. -/
  holdsPlan : Bool := false
  deriving DecidableEq

/-- `Plan` -/
structure Plan where
  planId : Text
  taskType : Int
  executionMode : ExecutionMode
  outputPolicy : OutputPolicy
  steps : List Step
  sideEffects : Bool
  explanation : Text
  initialContext : TaskContext

namespace Planner

variable {World : Type} (host : Host World)

/-- `make_artifact_path` -/
def makeArtifactPath (context : TaskContext) (suffix : Text) : Text :=
  artifactDir ++ "/" ++ context.clientId ++ "/" ++ context.requestId ++ "_" ++
    suffix

/-- The reading step of the search and filter templates. -/
def readStep (payload : List (Text × Json)) : ExecutionMode → Step
  | .memory =>
      { tool := .readFile
        args := [("path", Json.get payload "input_file")]
        produces := "file_content" }
  | .stream =>
      { tool := .streamRead
        args := [("path", Json.get payload "input_file")]
        produces := "file_stream" }

/-- `_template_search_report` -/
def templateSearchReport
    (payload : List (Text × Json)) (mode : ExecutionMode) : List Step :=
  let read := readStep payload mode
  [ read,
    { tool := .searchLines
      args := [("pattern", Json.get payload "query")]
      produces := "search_results"
      consumes := some read.produces },
    { tool := .buildReport
      args := [("format", .string "search_summary")]
      produces := "final_output"
      consumes := some "search_results" } ]

/-- `_template_filter_lines` -/
def templateFilterLines
    (payload : List (Text × Json)) (mode : ExecutionMode) (outFile : Json) :
    List Step :=
  let read := readStep payload mode
  let filter : Step :=
    { tool := .filterLines
      args := [("pattern", Json.get payload "query")]
      produces := "filtered_lines"
      consumes := some read.produces }
  if outFile.truthy then
    [ read, filter,
      { tool := .writeFile
        args := [("path", outFile)]
        produces := "write_status"
        consumes := some "filtered_lines" },
      { tool := .buildReport
        args := [("format", .string "action_completion"),
          ("msg", .string ("Filtered lines written to " ++ host.str outFile))]
        produces := "final_output" } ]
  else [read, filter]

/-- `_template_hash_and_store` -/
def templateHashAndStore (payload : List (Text × Json)) : List Step :=
  let destFile := Json.get payload "out_file"
  [ { tool := .streamRead
      args := [("path", Json.get payload "input_file"), ("binary", .bool true)]
      produces := "file_stream" },
    { tool := .hashSha256
      args := []
      produces := "hash_result"
      consumes := some "file_stream" },
    { tool := .writeFile
      args := [("path", destFile)]
      produces := "write_status"
      consumes := some "hash_result" },
    { tool := .buildReport
      args := [("format", .string "action_completion"),
        ("msg", .string ("Hash written to " ++ host.str destFile))]
      produces := "final_output" } ]

/-- The template of a task: explanation, steps and whether it has side
effects. -/
def template
    (opcode : Int) (payload : List (Text × Json)) (mode : ExecutionMode) :
    Except PyError (Text × List Step × Bool) :=
  if opcode = opTaskSearchReport then
    .ok ("Search pattern in file and generate report.",
      templateSearchReport payload mode, false)
  else if opcode = opTaskFilterLines then
    let outFile := Json.get payload "out_file"
    .ok ("Filter lines matching pattern.",
      templateFilterLines host payload mode outFile, outFile.truthy)
  else if opcode = opTaskHashAndStore then
    .ok ("Compute SHA256 hash and store to file.",
      templateHashAndStore host payload, true)
  else valueError ("Unknown Task Opcode: " ++ Text.ofInt opcode)

/-- The step that `options.return_plan` adds. -/
def planSteps (payload : List (Text × Json)) (context : TaskContext) :
    Except PyError (List Step) :=
  match (Json.get? payload "options").getD (.object []) with
  | .object options =>
      if (Json.get options "return_plan").truthy then
        .ok
          [ { tool := .writeArtifact
              args :=
                [("path", .string (makeArtifactPath context "plan.json")),
                  ("content_key", .string "__PLAN_JSON__")]
              produces := "plan_artifact_path" } ]
      else .ok []
  | _ => .error ⟨.attributeError, "object has no attribute 'get'"⟩

/-- `build_plan` -/
def buildPlan
    (opcode : Int) (payload : List (Text × Json)) (context : TaskContext) :
    Except PyError Plan := do
  let fileSize := context.fileSize.getD 0
  let executionMode :=
    if fileSize ≤ streamThreshold then ExecutionMode.memory else .stream
  let outputPolicy := OutputPolicy.dynamic
  let (explanation, steps, sideEffects) ←
    template host opcode payload executionMode
  let planSteps ← planSteps payload context
  let payloadText ← host.jsonDumps { sortKeys := true } (.object payload)
  let planText :=
    Text.join "-"
      [ Text.ofInt opcode, payloadText,
        host.formatMember executionMode.names.1 executionMode.names.2,
        host.formatMember outputPolicy.names.1 outputPolicy.names.2,
        host.str (.bool sideEffects) ]
  let planBytes ← host.encode planText
  return {
    planId := (host.sha256 planBytes).take 16
    taskType := opcode
    executionMode := executionMode
    outputPolicy := outputPolicy
    steps := steps ++ planSteps
    sideEffects := sideEffects
    explanation := explanation
    initialContext := context }

end Planner

end RudpAgentStack

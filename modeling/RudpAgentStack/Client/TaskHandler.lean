import RudpAgentStack.Agent.LargeReports
import RudpAgentStack.Client.AgentClient

/-!
# The client's side of a task

`TaskHandler` of `client/agent/handlers/task.py`: it sends a task and, when the
answer names an artifact, asks the client for the file.  `AgentClient` has no
method for that, so the caller is given a report only if it is short enough to
be returned inline.
-/

namespace RudpAgentStack

open Foundation

namespace AgentClient

/-- The exception for a method that the class does not have. -/
def noGetFile : PyError :=
  ⟨.attributeError, "'AgentClient' object has no attribute 'get_file'"⟩

/-- `client.get_file` -/
def getFile {State : Type} (_filename : Json) :
    Action (AgentClient State) Bytes :=
  throw noGetFile

namespace TaskHandler

variable {World State : Type}

/-- `build_request` -/
def buildRequest (opcode : Int) (kwargs : List (Text × Json)) :
    ClientRequestSpec where
  opcode := opcode
  metadata := kwargs.filter fun entry => entry.1 ≠ Text.ofString "opcode"

/-- `status >= 300` -/
def isFailure (status : Json) : Except PyError Bool :=
  match status.number? with
  | some value => .ok ((FloatValue.finite 300).le value)
  | none => .error ⟨.typeError, "'>=' not supported"⟩

/-- `parse_response` -/
def parseResponse (statusCode metadata : Json) :
    Except PyError OperationResult := do
  if ← isFailure statusCode then
    match metadata with
    | .object members =>
        return {
          status := statusCode
          error := some
            ((Json.get? members "message").getD (.string "Task Failed")) }
    | _ => .error ⟨.attributeError, "object has no attribute 'get'"⟩
  else return { status := statusCode, data := some metadata }

/-- The name under which an artifact is saved. -/
def localOutputPath : Json → Except PyError Text
  | .string artifactFile =>
      .ok (Text.ofString "downloaded_" ++ artifactFile.map fun point =>
        if point = 0x2F ∨ point = 0x5C then 0x5F else point)
  | _ => .error ⟨.attributeError, "object has no attribute 'replace'"⟩

/-- The part of `run` that retrieves an artifact.  `saveFile` writes a local
file. -/
def retrieve
    (saveFile : Text → Bytes → Action State Unit) (artifactFile : Json)
    (data : List (Text × Json)) :
    Action (AgentClient State) OperationResult := do
  let saved ← attempted do
    let contentBytes ← getFile artifactFile
    let path ← localOutputPath artifactFile
    onTransport (saveFile path contentBytes)
    return path
  match saved with
  | .ok path =>
      return {
        status := .int 200
        data := some (.object
          [("status", .string "Task Complete (Artifact Downloaded)"),
            ("artifact_local_path", .string path),
            ("original_meta", .object data)]) }
  | .error error =>
      return {
        status := .int 500
        error := some (.string
          (Text.ofString "Artifact Retrieval Failed: " ++ error.message)) }

/-- The part of `run` after the response. -/
def finish
    (saveFile : Text → Bytes → Action State Unit) (response : Response) :
    Action (AgentClient State) OperationResult := do
  let taskRes ← parseResponse response.status response.respMeta
  if ← isFailure taskRes.status then return taskRes
  let data : List (Text × Json) :=
    match taskRes.data with
    | some (.object members) => members
    | _ => []
  match (Json.get? data "data").getD (.object []) with
  | .object innerData =>
      let artifactFile := Json.get innerData "artifact_path"
      if artifactFile.truthy then retrieve saveFile artifactFile data
      else return taskRes
  | _ => throw ⟨.attributeError, "object has no attribute 'get'"⟩

/-- `run` -/
def run
    (host : Host World) (transport : ClientTransport State)
    (saveFile : Text → Bytes → Action State Unit) (opcode : Int)
    (kwargs : List (Text × Json)) :
    Action (AgentClient State) OperationResult := do
  let sent ← attempted
    (sendRequestSpec host transport (buildRequest opcode kwargs))
  match sent with
  | .ok response => finish saveFile response
  | .error error =>
      return { status := .int 500, error := some (.string error.message) }

/-! ## What the caller is given -/

/-- The caller is given the text: in the output of the response, or as the
content of a file that was saved. -/
def Gives
    (content : State → Contents) (report : Text)
    (outcome : Except PyError OperationResult × AgentClient State) : Prop :=
  ∃ result members, outcome.1 = .ok result ∧ result.status = .int 200 ∧
    result.data = some (.object members) ∧
    ((∃ innerData, Json.get? members "data" = some (.object innerData) ∧
        Json.get? innerData "output" = some (.string report)) ∨
      ∃ path bytes,
        Json.get? members "artifact_local_path" = some (.string path) ∧
        Text.encodeUtf8 report = some bytes ∧
        content outcome.2.world path = some bytes)

variable {host : Host World} {saveFile : Text → Bytes → Action State Unit}
  {client : AgentClient State} {report path : Text}

/-- A response with the output is handed on. -/
theorem finish_output (report : Text) (client : AgentClient State) :
    (finish saveFile ⟨.int 200, ResponseBuilder.statusDict 200 none
        (.object [(Text.ofString "output", .string report)]), none⟩).run
          client =
      (.ok { status := .int 200
             data := some (ResponseBuilder.statusDict 200 none
               (.object [(Text.ofString "output", .string report)])) },
        client) := by
  rfl

/-- A response with an artifact ends with the failure to retrieve it. -/
theorem finish_artifact (nonempty : path ≠ []) (client : AgentClient State) :
    (finish saveFile ⟨.int 200, ResponseBuilder.statusDict 200 none
        (.object [(Text.ofString "artifact_path", .string path)]), none⟩).run
          client =
      (.ok { status := .int 500
             error := some (.string (Text.ofString
               "Artifact Retrieval Failed: " ++ noGetFile.message)) },
        client) := by
  obtain ⟨point, path, rfl⟩ := List.exists_cons_of_ne_nil nonempty
  rfl

end TaskHandler

end AgentClient

end RudpAgentStack

import RudpAgentStack.Client.AppendOverRudp
import RudpAgentStack.Client.TaskHandler

/-!
# The operations of the client

The handlers of `client/agent/handlers`, the dispatcher of
`client/agent/dispatcher.py` and `AgentClient.execute`.  Most handlers build
one request and parse its response; an upload sends a file in chunks through
the client, each under a request id made from the upload and the offset.
-/

namespace RudpAgentStack

open Foundation

/-- The data of a result: a JSON value, or the bytes of a file. -/
inductive ResultData
  | json (value : Json)
  | bytes (content : Bytes)

/-- `OperationResult`, with data of either kind. -/
structure ExecuteResult where
  status : Json
  data : Option ResultData := none
  error : Option Json := none

/-- The result of a task. -/
def ExecuteResult.ofTask (result : OperationResult) : ExecuteResult where
  status := result.status
  data := result.data.map .json
  error := result.error

/-! ## Parsing responses -/

/-- `meta.get(key, default)` -/
def metaGet (metadata : Json) (key : Text) (absent : Json) :
    Except PyError Json :=
  match metadata with
  | .object members => .ok ((Json.get? members key).getD absent)
  | _ => .error ⟨.attributeError, "object has no attribute 'get'"⟩

/-- The result for a status that is not 200.  GET leaves the metadata out. -/
def failedResult
    (unknown : String) (keepsMeta : Bool) (statusCode metadata : Json) :
    Except PyError ExecuteResult := do
  let error ← metaGet metadata "error" (.string unknown)
  return {
    status := statusCode
    data := if keepsMeta then some (.json metadata) else none
    error := some error }

/-- `parse_response` of `AppendHandler` and of `PutChunkHandler`. -/
def parseWritten
    (unknown : String) (statusCode metadata : Json) :
    Except PyError ExecuteResult :=
  if statusCode.equalsInt 200 then
    .ok { status := .int 200, data := some (.json metadata) }
  else failedResult unknown true statusCode metadata

namespace GetHandler

/-- `build_request` -/
def buildRequest (filename : Text) : ClientRequestSpec where
  opcode := opGet
  metadata := [("filename", .string filename)]

/-- `parse_response` -/
def parseResponse (statusCode metadata : Json) (binary : Option Bytes) :
    Except PyError ExecuteResult :=
  if statusCode.equalsInt 200 then
    .ok { status := .int 200, data := binary.map .bytes }
  else failedResult "Unknown GET Error" false statusCode metadata

end GetHandler

/-- `parse_response` of `AppendHandler`. -/
def AppendHandler.parseResponse (statusCode metadata : Json) :
    Except PyError ExecuteResult :=
  parseWritten "Unknown APPEND Error" statusCode metadata

namespace ListHandler

/-- `build_request` -/
def buildRequest : ClientRequestSpec where
  opcode := opList
  metadata := []

/-- `parse_response` -/
def parseResponse (statusCode metadata : Json) : Except PyError ExecuteResult :=
  if statusCode.equalsInt 200 then do
    let payload ← metaGet metadata "data" (.object [])
    let files :=
      match payload with
      | .object members => (Json.get? members "files").getD (.array [])
      | _ => .array []
    return { status := .int 200, data := some (.json files) }
  else failedResult "Unknown LIST Error" true statusCode metadata

end ListHandler

namespace PutMetaHandler

/-- `build_request` -/
def buildRequest (filename : Text) (totalSize : Int) (overwrite : Bool) :
    ClientRequestSpec where
  opcode := opPutMeta
  metadata :=
    [("filename", .string filename), ("total_size", .int totalSize),
      ("overwrite", .bool overwrite)]

/-- The id of the upload, inside the data or at the root. -/
def uploadIdOf (metadata : Json) : Except PyError Json := do
  let data ← metaGet metadata "data" (.object [])
  let uploadId ← metaGet data "upload_id" .null
  if uploadId.truthy then return uploadId
  metaGet metadata "upload_id" uploadId

/-- `parse_response` -/
def parseResponse (statusCode metadata : Json) : Except PyError ExecuteResult :=
  if statusCode.equalsInt 200 then do
    let uploadId ← uploadIdOf metadata
    return {
      status := .int 200
      data := some (.json (.object [("upload_id", uploadId)])) }
  else failedResult "Unknown PUT_META Error" true statusCode metadata

end PutMetaHandler

namespace PutChunkHandler

/-- `build_request` -/
def buildRequest (uploadId : Json) (offset : Int) (chunkData : Bytes) :
    ClientRequestSpec where
  opcode := opPutChunk
  metadata :=
    [("upload_id", uploadId), ("offset", .int offset),
      ("chunk_len", .int chunkData.length)]
  binary := some chunkData
  mixed := true

/-- `parse_response` -/
def parseResponse (statusCode metadata : Json) : Except PyError ExecuteResult :=
  parseWritten "Unknown PUT_CHUNK Error" statusCode metadata

end PutChunkHandler

/-! ## Operations of one request -/

/-- An operation of one request, with its arguments. -/
inductive FileOperation
  | get (filename : Text)
  | append (filename : Text) (data : Bytes)
  | list
  | putMeta (filename : Text) (totalSize : Int) (overwrite : Bool)
  | putChunk (uploadId : Json) (offset : Int) (chunkData : Bytes)

namespace FileOperation

/-- `build_request` of the handler. -/
def buildRequest : FileOperation → ClientRequestSpec
  | .get filename => GetHandler.buildRequest filename
  | .append filename data => AppendHandler.buildRequest filename data
  | .list => ListHandler.buildRequest
  | .putMeta filename totalSize overwrite =>
      PutMetaHandler.buildRequest filename totalSize overwrite
  | .putChunk uploadId offset chunkData =>
      PutChunkHandler.buildRequest uploadId offset chunkData

/-- `parse_response` of the handler. -/
def parseResponse
    (operation : FileOperation) (response : AgentClient.Response) :
    Except PyError ExecuteResult :=
  match operation with
  | .get _ =>
      GetHandler.parseResponse response.status response.respMeta
        response.respBinary
  | .append _ _ =>
      AppendHandler.parseResponse response.status response.respMeta
  | .list => ListHandler.parseResponse response.status response.respMeta
  | .putMeta _ _ _ =>
      PutMetaHandler.parseResponse response.status response.respMeta
  | .putChunk _ _ _ =>
      PutChunkHandler.parseResponse response.status response.respMeta

end FileOperation

namespace AgentClient

variable {World State α : Type} (host : Host World)
  (transport : ClientTransport State)

/-- The frame of `execute`: an override, given or inherited, is set for the
operation, and what was set before comes back whatever happens. -/
def overriding
    (requestIdOverride : Option Int) (body : Action (AgentClient State) α) :
    Action (AgentClient State) α :=
  ExceptT.mk fun client =>
    let active := requestIdOverride.or client.activeOverride
    let (result, after) := body.run { client with activeOverride := active }
    (result, { after with activeOverride := client.activeOverride })

/-- The request/response flow of `execute`: build, send and parse. -/
def requestAndParse (operation : FileOperation) :
    Action (AgentClient State) ExecuteResult := do
  let response ← sendRequestSpec host transport operation.buildRequest
  operation.parseResponse response

/-- `execute` of an operation of one request. -/
def executeOperation
    (requestIdOverride : Option Int) (operation : FileOperation) :
    Action (AgentClient State) ExecuteResult :=
  overriding requestIdOverride (requestAndParse host transport operation)

end AgentClient

/-! ## Uploads -/

/-- What an upload uses of the client's own files. -/
structure LocalFiles (State : Type) where
  /-- `os.path.exists` -/
  pathExists : Text → Action State Bool
  /-- `os.path.getsize` -/
  getsize : Text → Action State Int
  /-- Open a file for reading. -/
  openRead : Text → Action State Unit
  /-- `read` of an open file, from a position on. -/
  read : Text → (position size : Nat) → Action State Bytes

namespace UploadClient

variable {State : Type} (localFiles : LocalFiles State)

/-- The default `chunk_size` of `get_chunks`. -/
def chunkSize : Nat := 8192

/-- `validate_file` -/
def validateFile (localPath : Text) : Action State (Option Text) := do
  if ← localFiles.pathExists localPath then
    let fileSize ← localFiles.getsize localPath
    if maxFileSize < fileSize then
      return some ("File size " ++ Text.ofInt fileSize ++ " exceeds limit " ++
        Text.ofInt maxFileSize)
    return none
  return some ("File not found: " ++ localPath)

end UploadClient

namespace UploadHandler

variable {World State : Type} (host : Host World)
  (transport : ClientTransport State) (localFiles : LocalFiles State)

/-- The number a hexadecimal digest stands for. -/
def ofHexDigest (digest : Text) : Nat :=
  digest.foldl
    (fun value point =>
      16 * value +
        (if point.val < 0x3A then point.val - 0x30 else point.val - 0x57))
    0

/-- `_generate_chunk_req_id` -/
def generateChunkReqId (uploadId : Json) (offset : Nat) :
    Except PyError Int := do
  let raw ← host.encode (host.str uploadId ++ ":" ++ Text.ofInt offset)
  return (ofHexDigest (host.sha256 raw) % 2 ^ 31 : Nat)

/-- The loop over `get_chunks`, from an offset on: the result of the chunk
that fails, if one does.  Every turn but the last sends a byte at least, so the
size of the file is enough fuel. -/
def sendChunks (uploadId : Json) (localPath : Text) (fileSize : Int) :
    (fuel offset : Nat) →
      Action (AgentClient State) (Option ExecuteResult)
  | 0, _ => return none
  | fuel + 1, offset => do
      if fileSize ≤ offset then return none
      let chunkData ← AgentClient.onTransport
        (localFiles.read localPath offset UploadClient.chunkSize)
      if chunkData = [] then return none
      let stableReqId ← generateChunkReqId host uploadId offset
      let chunkRes ← AgentClient.executeOperation host transport
        (some stableReqId) (.putChunk uploadId offset chunkData)
      if chunkRes.status.equalsInt 200 then
        sendChunks uploadId localPath fileSize fuel
          (offset + chunkData.length)
      else return some chunkRes

/-- The part of `run` inside its `try` block.  `get_chunks` reads the size of
the file again. -/
def uploadChunks (uploadId : Json) (localPath : Text) :
    Action (AgentClient State) (Option ExecuteResult) := do
  let fileSize ← AgentClient.onTransport (localFiles.getsize localPath)
  AgentClient.onTransport (localFiles.openRead localPath)
  sendChunks host transport localFiles uploadId localPath fileSize
    fileSize.toNat 0

/-- The part of `run` once the upload has an id. -/
def finish (uploadId : Json) (localPath : Text) (fileSize : Int) :
    Action (AgentClient State) ExecuteResult := do
  let sent ← AgentClient.attempted
    (uploadChunks host transport localFiles uploadId localPath)
  match sent with
  | .ok none =>
      return {
        status := .int 200
        data := some (.json (.object
          [("status", .string "Upload Complete"), ("size", .int fileSize)])) }
  | .ok (some chunkRes) => return chunkRes
  | .error error =>
      return { status := .int 500, error := some (.string error.message) }

/-- The id of the upload in the result of PUT_META. -/
def uploadIdOf (metaRes : ExecuteResult) : Json :=
  match metaRes.data with
  | some (.json (.object data)) => Json.get data "upload_id"
  | _ => .null

/-- The part of `run` up to the id of the upload, with the size of the file; or
the result of an upload that ends before. -/
def obtainUploadId (localPath remoteName : Text) :
    Action (AgentClient State) (Except ExecuteResult (Json × Int)) := do
  let error ← AgentClient.onTransport
    (UploadClient.validateFile localFiles localPath)
  match error with
  | some message =>
      return .error { status := .int 400, error := some (.string message) }
  | none =>
      let fileSize ← AgentClient.onTransport (localFiles.getsize localPath)
      let metaRes ← AgentClient.executeOperation host transport none
        (.putMeta remoteName fileSize true)
      if metaRes.status.equalsInt 200 = false then return .error metaRes
      let uploadId := uploadIdOf metaRes
      if uploadId.truthy = false then
        return .error {
          status := .int 500
          error := some (.string "Server did not return upload_id") }
      return .ok (uploadId, fileSize)

/-- `run` -/
def run (localPath remoteName : Text) :
    Action (AgentClient State) ExecuteResult := do
  match ← obtainUploadId host transport localFiles localPath remoteName with
  | .error result => return result
  | .ok (uploadId, fileSize) =>
      finish host transport localFiles uploadId localPath fileSize

end UploadHandler

/-! ## The dispatcher -/

/-- `OP_UPLOAD` -/
def opUpload : Int := 0xFF

/-- The handlers the client registers. -/
inductive ClientHandler
  | get
  | append
  | list
  | putMeta
  | putChunk
  | upload
  | task (opcode : Int)
  deriving DecidableEq

namespace ClientDispatcher

/-- The handlers that `AgentClient` registers, by opcode. -/
def handlers : List (Int × ClientHandler) :=
  [(opGet, .get), (opAppend, .append), (opList, .list),
    (opPutMeta, .putMeta), (opPutChunk, .putChunk), (opUpload, .upload),
    (opTaskSearchReport, .task opTaskSearchReport),
    (opTaskFilterLines, .task opTaskFilterLines),
    (opTaskHashAndStore, .task opTaskHashAndStore)]

/-- An integer as `:#x` formats it. -/
def formatHex (number : Int) : Text :=
  Text.ofString (if number < 0 then "-0x" else "0x") ++
    Text.ofString (String.ofList (Nat.toDigits 16 number.natAbs))

/-- `get_handler` -/
def getHandler (opcode : Int) : Except PyError ClientHandler :=
  match handlers.lookup opcode with
  | some handler => .ok handler
  | none =>
      valueError ("No handler registered for opcode " ++ formatHex opcode)

end ClientDispatcher

/-- The keyword arguments of `execute`. -/
inductive Keywords
  | operation (operation : FileOperation)
  | upload (localPath remoteName : Text)
  | task (kwargs : List (Text × Json))

/-- The handler that takes the arguments of an operation. -/
def FileOperation.handler : FileOperation → ClientHandler
  | .get _ => .get
  | .append _ _ => .append
  | .list => .list
  | .putMeta _ _ _ => .putMeta
  | .putChunk _ _ _ => .putChunk

namespace AgentClient

variable {World State : Type} (host : Host World)
  (transport : ClientTransport State) (localFiles : LocalFiles State)
  (saveFile : Text → Bytes → Action State Unit)

/-- The handler at work, with the arguments it is given. -/
def runHandler : ClientHandler → Keywords →
    Action (AgentClient State) ExecuteResult
  | .upload, .upload localPath remoteName =>
      UploadHandler.run host transport localFiles localPath remoteName
  | .task opcode, .task kwargs =>
      ExecuteResult.ofTask <$>
        TaskHandler.run host transport saveFile opcode kwargs
  | handler, .operation operation =>
      if operation.handler = handler then
        requestAndParse host transport operation
      else throw ⟨.typeError, "got an unexpected keyword argument"⟩
  | _, _ => throw ⟨.typeError, "got an unexpected keyword argument"⟩

/-- `execute` -/
def execute
    (opcode : Int) (requestIdOverride : Option Int) (keywords : Keywords) :
    Action (AgentClient State) ExecuteResult := do
  let handler ← ClientDispatcher.getHandler opcode
  overriding requestIdOverride
    (runHandler host transport localFiles saveFile handler keywords)

/-- Executing an operation by its opcode. -/
theorem execute_operation
    {operation : FileOperation} {opcode : Int}
    (routed : ClientDispatcher.getHandler opcode = .ok operation.handler)
    (requestIdOverride : Option Int) :
    execute host transport localFiles saveFile opcode requestIdOverride
        (.operation operation) =
      executeOperation host transport requestIdOverride operation := by
  unfold execute
  rw [routed]
  change overriding requestIdOverride (runHandler host transport localFiles
    saveFile operation.handler (.operation operation)) = _
  have handled : runHandler host transport localFiles saveFile
      operation.handler (.operation operation) =
        requestAndParse host transport operation := by
    cases operation <;> rfl
  rw [handled]
  rfl

end AgentClient

end RudpAgentStack

import RudpAgentStack.Agent.UploadSession
import RudpAgentStack.Agent.Validations
import RudpAgentStack.Common.Constants
import RudpAgentStack.Common.MixedModeIo

/-!
# Handlers of the file requests

The handlers of `server/agent/handlers` for LIST, GET, APPEND, PUT_META and
PUT_CHUNK.  None of them is given the idempotency cache to work with:
`handle_append` receives it and leaves it alone.
-/

namespace RudpAgentStack

open Foundation

/-- What a handler returns: a finished envelope, or the data of a response
with the binary content that goes with it. -/
inductive HandlerResult
  | bytes (envelope : Bytes)
  | data (content : Json) (binaryContent : Option Bytes)

variable {World : Type} (host : Host World) (guard : PolicyGuard)

/-- The members of a JSON object, on which `.get` is called. -/
def members : Json → Except PyError (List (Text × Json))
  | .object entries => .ok entries
  | _ => .error ⟨.attributeError, "object has no attribute 'get'"⟩

/-- Run a computation, with another exception in the place of some. -/
def rescue {State α : Type} (caught : ErrorKind → Bool)
    (replacement : Text → Text) (action : Action State α) : Action State α :=
  tryCatch action fun error =>
    if caught error.kind then
      throw ⟨.valueError, replacement error.message⟩
    else throw error

/-! ## LIST -/

/-- The metadata of one directory entry, none if it cannot be read. -/
def fileMetadata (name : Text) : Action World (Option (Text × Json)) :=
  tryCatch
    (do
      let (size, mtime) ← host.stat (PosixPath.join guard.sandboxRoot name)
      return some (name, .object
        [("name", .string name), ("size", .int size), ("mtime", mtime)]))
    fun error => if error.kind.isOsError then pure none else throw error

/-- `handle_list`.  The two listings made for diagnosis are kept: they may
change the world, and their exceptions are printed only. -/
def handleList : Action World HandlerResult := do
  let diagnose : Action World Unit :=
    tryCatch (host.listdir guard.sandboxRoot *> pure ()) fun _ => pure ()
  diagnose
  diagnose
  let filenames ← host.listdir guard.sandboxRoot
  let metadata ← filenames.mapM (fileMetadata host guard)
  let sorted := (metadata.filterMap id).mergeSort fun left right =>
    decide (left.1 ≤ right.1)
  return .data (.object [("files", .array (sorted.map Prod.snd))]) none

/-! ## GET and APPEND -/

/-- The file name of a request: a non-empty string. -/
def requestFilename (entries : List (Text × Json)) :
    Except PyError Text :=
  match Json.get entries "filename" with
  | .string name =>
      if name = [] then valueError "Missing 'filename'" else .ok name
  | _ => valueError "Missing 'filename'"

/-- Raise `FileNotFoundError` for a path that does not exist. -/
def requireFile (absPath filename : Text) : Action World Unit := do
  if ← host.exists? absPath then return
  throw ⟨.fileNotFoundError, "File not found: " ++ filename⟩

/-- `handle_get` -/
def handleGet (payload : Bytes) : Action World HandlerResult :=
  rescue (· == .unicodeDecodeError) (fun _ => "Invalid payload encoding") do
    if payload = [] then throw ⟨.valueError, "Missing payload"⟩
    let requestData ←
      rescue (· == .jsonDecodeError) (fun _ => "Invalid JSON payload")
        (host.loadBytes payload : Except PyError Json)
    let entries ← members requestData
    let filename ← requestFilename entries
    let absPath ← guard.validatePath (.string filename)
    requireFile host absPath filename
    let fileSize ← host.getsize absPath
    if maxFileSize < fileSize then
      throw ⟨.valueError, "File too large: " ++ Text.ofInt fileSize ++ " > " ++
        Text.ofInt maxFileSize⟩
    let fileContent ← host.readFile absPath
    return .data
      (.object [("filename", .string filename), ("size", .int fileSize)])
      (some fileContent)

/-- `handle_append` -/
def handleAppend (payload : Bytes) : Action World HandlerResult :=
  rescue (· == .unicodeDecodeError) (fun _ => "Invalid payload encoding") do
    if payload = [] then throw ⟨.valueError, "Missing payload"⟩
    let (metadata, binaryData) ←
      rescue ErrorKind.isValueError ("Invalid Mixed Mode payload: " ++ ·)
        (mixedModeDecode host payload : Except PyError (Json × Bytes))
    let entries ← members metadata
    let filename ← requestFilename entries
    let absPath ← guard.validatePath (.string filename)
    requireFile host absPath filename
    let currentSize ← host.getsize absPath
    let newTotalSize := currentSize + binaryData.length
    if maxFileSize < newTotalSize then
      throw ⟨.valueError, "Append would exceed max file size: " ++
        Text.ofInt newTotalSize ++ " > " ++ Text.ofInt maxFileSize⟩
    host.appendFile absPath binaryData
    let finalSize ← host.getsize absPath
    return .data
      (.object [("filename", .string filename), ("new_size", .int finalSize)])
      none

/-! ## PUT_META and PUT_CHUNK -/

/-- `handle_put_meta` -/
def handlePutMeta (payload : Bytes) :
    Action (Workspace World) HandlerResult :=
  rescue (· == .jsonDecodeError) (fun _ => "Invalid JSON payload") do
    let metadata ← host.loadBytes payload
    let entries ← members metadata
    let filename := Json.get entries "filename"
    let totalSize := Json.get entries "total_size"
    let overwrite := (Json.get entries "overwrite").truthy
    match filename.truthy, totalSize with
    | false, _ | true, .null =>
        throw ⟨.valueError, "Missing 'filename' or 'total_size'"⟩
    | true, totalSize =>
        let absPath ← guard.validatePath filename
        let some size := totalSize.number?
          | throw ⟨.typeError, "'>' not supported between instances"⟩
        if (FloatValue.finite maxFileSize).lt size then
          throw ⟨.valueError, "File size " ++ host.str totalSize ++
            " exceeds limit " ++ Text.ofInt maxFileSize⟩
        let present ← onWorld (host.exists? absPath)
        if present && !overwrite then
          throw ⟨.valueError, "File " ++ host.str filename ++
            " already exists (overwrite=False)"⟩
        onWorld (host.makedirs (PosixPath.directory absPath))
        onWorld (host.createEmpty absPath)
        let uploadId ← UploadSessionManager.createSession host
          (host.str filename) totalSize
        return .data
          (.object
            [("upload_id", .string uploadId), ("status", .string "ready")])
          none

/-- `file_writer` of `handle_put_chunk`.  Seeking needs an integer. -/
def fileWriter : UploadSessionManager.FileWriter World :=
  fun filename fileOffset data => do
    let absPath ← guard.validatePath (.string filename)
    match fileOffset.integer? with
    | some position => host.writeAt absPath position data
    | none =>
        host.openUpdate absPath
        throw ⟨.typeError, "object cannot be interpreted as an integer"⟩

/-- `handle_put_chunk` -/
def handlePutChunk (mode : UploadMode) (payload : Bytes) :
    Action (Workspace World) HandlerResult :=
  rescue ErrorKind.isValueError ("Invalid metadata format: " ++ ·) do
    let (metadata, chunkData) ← mixedModeDecode host payload
    let entries ← members metadata
    let uploadId := Json.get entries "upload_id"
    let offset := Json.get entries "offset"
    let chunkLen := Json.get entries "chunk_len"
    match uploadId.truthy, offset, chunkLen with
    | false, _, _ | true, .null, _ | true, _, .null =>
        throw ⟨.valueError, "Missing 'upload_id', 'offset', or 'chunk_len'"⟩
    | true, offset, chunkLen =>
        if chunkLen.equalsInt chunkData.length = false then
          throw ⟨.valueError, "Chunk length mismatch: Declared " ++
            host.str chunkLen ++ ", Actual " ++ Text.ofInt chunkData.length⟩
        let (isComplete, msg) ← UploadSessionManager.applyChunk host mode
          uploadId offset chunkData (fileWriter host guard)
        return .data
          (.object
            [("upload_id", uploadId), ("bytes_written", chunkLen),
              ("complete", .bool isComplete), ("status", .string msg)])
          none

end RudpAgentStack

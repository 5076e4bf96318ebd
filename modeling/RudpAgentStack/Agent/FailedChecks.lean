import RudpAgentStack.Agent.Requests
import RudpAgentStack.Foundation.Adaptation

/-!
# The checks that requests fail

The handlers of the file requests with detailed exceptions: each says which
check has failed, and what the check was about.  Without these details they
are the handlers of the server.
-/

namespace RudpAgentStack

open Foundation

/-- The kinds of checks a request can fail. -/
inductive Check
  | leavesSandbox
  | sizeLimit
  | noSuchFile
  /-- Any other check of what the client sent. -/
  | rejected
  | operatingSystem
  deriving DecidableEq

/-- Why a request fails: the check, with the texts and numbers it shows. -/
inductive Reason
  | unknownOpcode (opcode : Int)
  | leavesSandbox
  | uploadTooLarge (totalSize : Text)
  | fileTooLarge (size : Int)
  | appendTooLarge (size : Int)
  | readTooLarge (path : Text)
  | responseTooLong (length : Nat)
  | outputTooLong
  | alreadyExists (filename : Text)
  | chunkMismatch (declared : Text) (actual : Nat)
  | unknownSession (uploadId : Text)
  | overlappingChunk (offset : Text) (expected : Int)
  | outOfOrderChunk (offset : Text) (expected : Int)
  /-- An exception of the interpreter or of the operating system, or one whose
  text is fixed.  Some come from using the file that the request names. -/
  | exception (onNamedFile : Bool) (error : PyError)
  /-- PUT_CHUNK puts an introduction before the texts of all its refusals. -/
  | invalidMetadata (reason : Reason)

namespace Reason

/-- The exception the server raises; for an unknown opcode it answers as for
this one. -/
def error : Reason → PyError
  | .unknownOpcode opcode => ⟨.valueError, "Unknown Opcode: " ++
      Text.ofInt opcode⟩
  | .leavesSandbox => ⟨.valueError, "Path traversal detected"⟩
  | .uploadTooLarge totalSize => ⟨.valueError, "File size " ++ totalSize ++
      " exceeds limit " ++ Text.ofInt maxFileSize⟩
  | .fileTooLarge size => ⟨.valueError, "File too large: " ++
      Text.ofInt size ++ " > " ++ Text.ofInt maxFileSize⟩
  | .appendTooLarge size => ⟨.valueError, "Append would exceed max file size: "
      ++ Text.ofInt size ++ " > " ++ Text.ofInt maxFileSize⟩
  | .readTooLarge path => ⟨.valueError, "File " ++ path ++
      " too large for READ_FILE. Use Streaming."⟩
  | .responseTooLong length => ⟨.valueError, "Payload length " ++
      Text.ofInt length ++ " exceeds max " ++ Text.ofInt maxPayloadLen⟩
  | .outputTooLong => ⟨.valueError,
      "Output exceeded inline limit but policy is INLINE"⟩
  | .alreadyExists filename => ⟨.valueError, "File " ++ filename ++
      " already exists (overwrite=False)"⟩
  | .chunkMismatch declared actual => ⟨.valueError,
      "Chunk length mismatch: Declared " ++ declared ++ ", Actual " ++
        Text.ofInt actual⟩
  | .unknownSession uploadId => ⟨.valueError, "Session " ++ uploadId ++
      " not found"⟩
  | .overlappingChunk offset expected => ⟨.valueError, "Overlapping chunk at " ++
      offset ++ " (expected " ++ Text.ofInt expected ++ ")"⟩
  | .outOfOrderChunk offset expected => ⟨.valueError,
      "Out-of-order chunk: Got " ++ offset ++ ", expected " ++
        Text.ofInt expected⟩
  | .exception _ error => error
  | .invalidMetadata reason => rescued ErrorKind.isValueError
      ("Invalid metadata format: " ++ ·) reason.error

/-- The check that has failed.  An `OSError` is a failure of the operating
system, unless it says that the named file does not exist. -/
def check : Reason → Check
  | .leavesSandbox => .leavesSandbox
  | .uploadTooLarge _ | .fileTooLarge _ | .appendTooLarge _ | .readTooLarge _
  | .responseTooLong _ | .outputTooLong => .sizeLimit
  | .unknownOpcode _ | .alreadyExists _ | .chunkMismatch _ _
  | .unknownSession _ | .overlappingChunk _ _ | .outOfOrderChunk _ _ =>
      .rejected
  | .exception onNamedFile error =>
      if error.kind = .fileNotFoundError ∧ onNamedFile = true then .noSuchFile
      else if error.kind.isOsError then .operatingSystem
      else .rejected
  | .invalidMetadata reason => reason.check

/-- Another text in the place of the exceptions of a kind. -/
def rescued (kind : ErrorKind) (text : Text) : Reason → Reason
  | .exception onNamedFile error =>
      .exception onNamedFile
        (RudpAgentStack.rescued (· == kind) (fun _ => text) error)
  | reason => reason

end Reason

/-- A computation on a state that raises reasons. -/
abbrev Checked (State α : Type) : Type := ExceptT Reason (StateM State) α

theorem rescue_eq_adapt {State α : Type}
    (caught : ErrorKind → Bool) (replacement : Text → Text)
    (action : Action State α) :
    rescue caught replacement action =
      action.adapt (rescued caught replacement) := by
  apply ext_run
  intro state
  rw [rescue_run, adapt_run]
  generalize action.run state = outcome
  obtain ⟨error | value, after⟩ := outcome <;> rfl

namespace Checked

variable {World State α : Type}

/-- The computation without the details of its exceptions. -/
def erased (action : Checked State α) : Action State α :=
  action.adapt Reason.error

/-- What is raised shows nothing but texts of its own. -/
def plainly (action : Action State α) : Checked State α :=
  action.adapt (.exception false)

/-- The computation uses the file that the request names. -/
def onNamedFile (action : Action State α) : Checked State α :=
  action.adapt (.exception true)

/-- `rescue` with a fixed text, for a kind of exceptions of the
interpreter. -/
def rescue (kind : ErrorKind) (text : Text) (action : Checked State α) :
    Checked State α :=
  action.adapt (Reason.rescued kind text)

/-- `rescue` of PUT_CHUNK. -/
def introduce (action : Checked State α) : Checked State α :=
  action.adapt .invalidMetadata

/-- A computation on the world, carried out in the workspace. -/
def onWorld (action : Checked World α) : Checked (Workspace World) α :=
  ExceptT.mk fun workspace =>
    let (result, world) := action.run workspace.world
    (result, { workspace with world := world })

/-! ## Erasing the details -/

@[simp] theorem erased_plainly (action : Action State α) :
    erased (plainly action) = action := by
  rw [erased, plainly, adapt_adapt]
  exact adapt_id action

@[simp] theorem erased_onNamedFile (action : Action State α) :
    erased (onNamedFile action) = action := by
  rw [erased, onNamedFile, adapt_adapt]
  exact adapt_id action

@[simp] theorem erased_pure (value : α) :
    erased (pure value : Checked State α) = pure value := rfl

@[simp] theorem erased_throw (reason : Reason) :
    erased (throw reason : Checked State α) = throw reason.error := rfl

@[simp] theorem erased_bind {β : Type}
    (first : Checked State α) (rest : α → Checked State β) :
    erased (first >>= rest) =
      erased first >>= fun value => erased (rest value) :=
  adapt_bind _ _ _

@[simp] theorem erased_ite
    (condition : Prop) [Decidable condition] (first second : Checked State α) :
    erased (if condition then first else second) =
      if condition then erased first else erased second :=
  adapt_ite _ _ _ _

@[simp] theorem erased_lift (result : Except Reason α) :
    erased (liftM result : Checked State α) =
      liftM (result.mapError Reason.error) := rfl

@[simp] theorem erased_introduce (action : Checked State α) :
    erased (introduce action) =
      RudpAgentStack.rescue ErrorKind.isValueError
        ("Invalid metadata format: " ++ ·) (erased action) := by
  rw [rescue_eq_adapt, erased, introduce, erased, adapt_adapt, adapt_adapt]
  rfl

/-- The server raises no exception of the kind itself. -/
theorem erased_rescue
    (kind : ErrorKind) (isValueError : kind.isValueError = true)
    (special : kind ≠ .valueError) (text : Text) (action : Checked State α) :
    erased (rescue kind text action) =
      RudpAgentStack.rescue (· == kind) (fun _ => text) (erased action) := by
  have uncaught : ∀ error : PyError, error.kind ≠ kind →
      rescued (· == kind) (fun _ => text) error = error := by
    intro error different
    exact if_neg (by simpa using different)
  rw [rescue_eq_adapt, erased, rescue, erased, adapt_adapt, adapt_adapt]
  congr 1
  funext reason
  cases reason with
  | exception onNamedFile error => rfl
  | invalidMetadata reason =>
      refine (uncaught _ ?_).symm
      change (rescued ErrorKind.isValueError _ reason.error).kind ≠ kind
      rw [rescued]
      split
      · exact special.symm
      · next noValueError =>
          rintro rfl
          exact noValueError isValueError
  | _ => exact (uncaught _ special.symm).symm

@[simp] theorem erased_onWorld (action : Checked World α) :
    erased (onWorld action) = RudpAgentStack.onWorld (erased action) := by
  apply ext_run
  intro workspace
  rfl

/-! ## The handlers of the file requests -/

variable (host : Host World) (guard : PolicyGuard)

/-- `validate_path` -/
def validatePath (filename : Json) : Except Reason Text :=
  if filename.truthy = false then
    .error (.exception false ⟨.valueError, "Filename cannot be empty"⟩)
  else
    match filename with
    | .string name =>
        let fullPath :=
          PosixPath.normalize (PosixPath.join guard.sandboxRoot name)
        match PosixPath.common guard.sandboxRoot fullPath with
        | none => .error (.exception false
            ⟨.valueError, "Can't mix absolute and relative paths"⟩)
        | some ancestor =>
            if ancestor ≠ guard.sandboxRoot then .error .leavesSandbox
            else .ok fullPath
    | _ => .error (.exception false
        ⟨.typeError,
          "join() argument must be str, bytes, or os.PathLike object"⟩)

@[simp] theorem mapError_validatePath (filename : Json) :
    (validatePath guard filename).mapError Reason.error =
      guard.validatePath filename := by
  unfold validatePath PolicyGuard.validatePath
  by_cases empty : filename.truthy = false
  · rw [if_pos empty, if_pos empty]
    rfl
  rw [if_neg empty, if_neg empty]
  cases filename with
  | string name =>
      dsimp only
      cases PosixPath.common guard.sandboxRoot
        (PosixPath.normalize (PosixPath.join guard.sandboxRoot name)) with
      | none => rfl
      | some ancestor =>
          dsimp only
          split <;> rfl
  | _ => rfl

/-- `handle_list` -/
def handleList : Checked World HandlerResult :=
  plainly (RudpAgentStack.handleList host guard)

/-- `handle_get` -/
def handleGet (payload : Bytes) : Checked World HandlerResult :=
  rescue .unicodeDecodeError "Invalid payload encoding" do
    if payload = [] then
      throw (.exception false ⟨.valueError, "Missing payload"⟩)
    let requestData ← plainly
      (RudpAgentStack.rescue (· == .jsonDecodeError)
        (fun _ => "Invalid JSON payload")
        (host.loadBytes payload : Except PyError Json))
    let entries ← plainly (members requestData : Except PyError _)
    let filename ← plainly (requestFilename entries : Except PyError _)
    let absPath ← validatePath guard (.string filename)
    onNamedFile (requireFile host absPath filename)
    let fileSize ← onNamedFile (host.getsize absPath)
    if maxFileSize < fileSize then throw (.fileTooLarge fileSize)
    let fileContent ← onNamedFile (host.readFile absPath)
    return .data
      (.object [("filename", .string filename), ("size", .int fileSize)])
      (some fileContent)

theorem erased_handleGet (payload : Bytes) :
    erased (handleGet host guard payload) =
      RudpAgentStack.handleGet host guard payload := by
  rw [handleGet, erased_rescue .unicodeDecodeError rfl (by decide)]
  simp only [erased_bind, erased_ite, erased_throw, erased_pure,
    erased_plainly, erased_onNamedFile, erased_lift, mapError_validatePath]
  rfl

/-- `handle_append` -/
def handleAppend (payload : Bytes) : Checked World HandlerResult :=
  rescue .unicodeDecodeError "Invalid payload encoding" do
    if payload = [] then
      throw (.exception false ⟨.valueError, "Missing payload"⟩)
    let (metadata, binaryData) ← plainly
      (RudpAgentStack.rescue ErrorKind.isValueError
        ("Invalid Mixed Mode payload: " ++ ·)
        (mixedModeDecode host payload : Except PyError (Json × Bytes)))
    let entries ← plainly (members metadata : Except PyError _)
    let filename ← plainly (requestFilename entries : Except PyError _)
    let absPath ← validatePath guard (.string filename)
    onNamedFile (requireFile host absPath filename)
    let currentSize ← onNamedFile (host.getsize absPath)
    let newTotalSize := currentSize + binaryData.length
    if maxFileSize < newTotalSize then throw (.appendTooLarge newTotalSize)
    onNamedFile (host.appendFile absPath binaryData)
    let finalSize ← onNamedFile (host.getsize absPath)
    return .data
      (.object [("filename", .string filename), ("new_size", .int finalSize)])
      none

theorem erased_handleAppend (payload : Bytes) :
    erased (handleAppend host guard payload) =
      RudpAgentStack.handleAppend host guard payload := by
  rw [handleAppend, erased_rescue .unicodeDecodeError rfl (by decide)]
  simp only [erased_bind, erased_ite, erased_throw, erased_pure,
    erased_plainly, erased_onNamedFile, erased_lift, mapError_validatePath]
  rfl

/-- The part of `handle_put_meta` behind the checks of its values. -/
def startUpload
    (filename : Json) (absPath : Text) (totalSize : Json) (size : FloatValue)
    (overwrite : Bool) : Checked (Workspace World) HandlerResult := do
  if (FloatValue.finite maxFileSize).lt size then
    throw (.uploadTooLarge (host.str totalSize))
  let present ← onWorld (plainly (host.exists? absPath))
  if present && !overwrite then throw (.alreadyExists (host.str filename))
  onWorld (plainly (host.makedirs (PosixPath.directory absPath)))
  onWorld (plainly (host.createEmpty absPath))
  let uploadId ← plainly (UploadSessionManager.createSession host
    (host.str filename) totalSize)
  return .data
    (.object [("upload_id", .string uploadId), ("status", .string "ready")])
    none

theorem erased_startUpload
    (filename : Json) (absPath : Text) (totalSize : Json) (size : FloatValue)
    (overwrite : Bool) :
    erased (startUpload host filename absPath totalSize size overwrite) =
      RudpAgentStack.startUpload host filename absPath totalSize size
        overwrite := by
  unfold startUpload
  simp only [erased_bind, erased_ite, erased_throw, erased_pure,
    erased_plainly, erased_onWorld]
  rfl

/-- `handle_put_meta` -/
def handlePutMeta (payload : Bytes) :
    Checked (Workspace World) HandlerResult :=
  rescue .jsonDecodeError "Invalid JSON payload" do
    let metadata ← plainly (host.loadBytes payload : Except PyError _)
    let entries ← plainly (members metadata : Except PyError _)
    let filename := Json.get entries "filename"
    let totalSize := Json.get entries "total_size"
    let overwrite := (Json.get entries "overwrite").truthy
    match filename.truthy, totalSize with
    | false, _ | true, .null =>
        throw (.exception false
          ⟨.valueError, "Missing 'filename' or 'total_size'"⟩)
    | true, totalSize =>
        let absPath ← validatePath guard filename
        let some size := totalSize.number?
          | throw (.exception false
              ⟨.typeError, "'>' not supported between instances"⟩)
        startUpload host filename absPath totalSize size overwrite

theorem erased_handlePutMeta (payload : Bytes) :
    erased (handlePutMeta host guard payload) =
      RudpAgentStack.handlePutMeta host guard payload := by
  rw [handlePutMeta, erased_rescue .jsonDecodeError rfl (by decide)]
  unfold RudpAgentStack.handlePutMeta
  simp only [erased_bind, erased_plainly]
  congr 1
  apply bind_congr
  intro metadata
  apply bind_congr
  intro entries
  generalize Json.get entries "filename" = filename
  generalize Json.get entries "total_size" = totalSize
  generalize (Json.get entries "overwrite").truthy = overwrite
  cases filename.truthy with
  | false => rfl
  | true =>
  cases totalSize with
  | null => rfl
  | _ =>
      dsimp only
      rw [erased_bind, erased_lift, mapError_validatePath]
      apply bind_congr
      intro absPath
      generalize Json.number? _ = number
      cases number with
      | none => rfl
      | some size => exact erased_startUpload host _ _ _ _ _

/-- `file_writer` of `handle_put_chunk` -/
def fileWriter (filename : Text) (fileOffset : Json) (data : Bytes) :
    Checked World Unit := do
  let absPath ← validatePath guard (.string filename)
  match fileOffset.integer? with
  | some position => onNamedFile (host.writeAt absPath position data)
  | none =>
      onNamedFile (host.openUpdate absPath)
      throw (.exception false
        ⟨.typeError, "object cannot be interpreted as an integer"⟩)

theorem erased_fileWriter (filename : Text) (fileOffset : Json) (data : Bytes) :
    erased (fileWriter host guard filename fileOffset data) =
      RudpAgentStack.fileWriter host guard filename fileOffset data := by
  unfold fileWriter RudpAgentStack.fileWriter
  rw [erased_bind, erased_lift, mapError_validatePath]
  apply bind_congr
  intro absPath
  cases fileOffset.integer? with
  | none =>
      dsimp only
      rw [erased_bind, erased_onNamedFile]
      rfl
  | some position => exact erased_onNamedFile _

/-- `get_session`, with the exceptions of `apply_chunk` -/
def getSession (uploadId : Json) : Checked (Workspace World) UploadSession := do
  match uploadId with
  | .string key =>
      match (← get).sessions.get? key with
      | some session => return session
      | none => throw (.unknownSession (host.str uploadId))
  | .array _ | .object _ =>
      throw (.exception false ⟨.typeError, "unhashable type"⟩)
  | _ => throw (.unknownSession (host.str uploadId))

theorem erased_getSession (uploadId : Json) :
    erased (getSession host uploadId) =
      UploadSessionManager.getSession host uploadId := by
  cases uploadId with
  | string key =>
      unfold getSession UploadSessionManager.getSession
      dsimp only
      rw [erased_bind]
      apply bind_congr
      intro workspace
      cases workspace.sessions.get? key <;> rfl
  | _ => rfl

/-- `apply_chunk` in strict mode, the mode of the server -/
def applyChunk (uploadId offset : Json) (chunkData : Bytes) :
    Checked (Workspace World) (Bool × Text) := do
  let session ← getSession host uploadId
  let expected := session.nextExpectedOffset
  let some position := offset.number?
    | throw (.exception false
        ⟨.typeError, "'<' not supported between instances"⟩)
  if position.lt (.finite expected) then
    if (position.addInt chunkData.length).le (.finite expected) then
      return (session.totalSize.equalsInt expected, "Duplicate ignored")
    throw (.overlappingChunk (host.str offset) expected)
  if position.eq (.finite expected) then
    onWorld (fileWriter host guard session.filename offset chunkData)
    plainly (UploadSessionManager.updateSession session.uploadId fun current =>
      { current with
        nextExpectedOffset := current.nextExpectedOffset + chunkData.length })
    plainly (UploadSessionManager.finishChunk session.uploadId)
  else throw (.outOfOrderChunk (host.str offset) expected)

theorem erased_applyChunk (uploadId offset : Json) (chunkData : Bytes) :
    erased (applyChunk host guard uploadId offset chunkData) =
      UploadSessionManager.applyChunk host .strict uploadId offset chunkData
        (RudpAgentStack.fileWriter host guard) := by
  unfold applyChunk UploadSessionManager.applyChunk
  rw [erased_bind, erased_getSession]
  apply bind_congr
  intro session
  cases offset.number? with
  | none => rfl
  | some position =>
      simp only [erased_bind, erased_ite, erased_throw, erased_pure,
        erased_plainly, erased_onWorld, erased_fileWriter,
        UploadSessionManager.writeChunk, bind_assoc, reduceCtorEq, if_false]
      rfl

/-- The part of `handle_put_chunk` behind reading the request. -/
def applyRequested
    (uploadId offset chunkLen : Json) (chunkData : Bytes) :
    Checked (Workspace World) HandlerResult := do
  if chunkLen.equalsInt chunkData.length = false then
    throw (.chunkMismatch (host.str chunkLen) chunkData.length)
  let (isComplete, msg) ← applyChunk host guard uploadId offset chunkData
  return .data
    (.object
      [("upload_id", uploadId), ("bytes_written", chunkLen),
        ("complete", .bool isComplete), ("status", .string msg)])
    none

theorem erased_applyRequested
    (uploadId offset chunkLen : Json) (chunkData : Bytes) :
    erased (applyRequested host guard uploadId offset chunkLen chunkData) =
      RudpAgentStack.applyRequested host guard .strict uploadId offset chunkLen
        chunkData := by
  unfold applyRequested
  simp only [erased_bind, erased_ite, erased_throw, erased_pure,
    erased_applyChunk]
  rfl

/-- `handle_put_chunk` -/
def handlePutChunk (payload : Bytes) :
    Checked (Workspace World) HandlerResult :=
  introduce do
    let (metadata, chunkData) ← plainly
      (mixedModeDecode host payload : Except PyError _)
    let entries ← plainly (members metadata : Except PyError _)
    let uploadId := Json.get entries "upload_id"
    let offset := Json.get entries "offset"
    let chunkLen := Json.get entries "chunk_len"
    match uploadId.truthy, offset, chunkLen with
    | false, _, _ | true, .null, _ | true, _, .null =>
        throw (.exception false ⟨.valueError,
          "Missing 'upload_id', 'offset', or 'chunk_len'"⟩)
    | true, offset, chunkLen =>
        applyRequested host guard uploadId offset chunkLen chunkData

theorem erased_handlePutChunk (payload : Bytes) :
    erased (handlePutChunk host guard payload) =
      RudpAgentStack.handlePutChunk host guard .strict payload := by
  rw [handlePutChunk, erased_introduce]
  unfold RudpAgentStack.handlePutChunk
  simp only [erased_bind, erased_plainly]
  congr 1
  apply bind_congr
  rintro ⟨metadata, chunkData⟩
  apply bind_congr
  intro entries
  generalize Json.get entries "upload_id" = uploadId
  generalize Json.get entries "offset" = offset
  generalize Json.get entries "chunk_len" = chunkLen
  cases uploadId.truthy with
  | false => rfl
  | true =>
  cases offset with
  | null => rfl
  | _ =>
  cases chunkLen with
  | null => rfl
  | _ => exact erased_applyRequested host guard _ _ _ _

end Checked

end RudpAgentStack

import RudpAgentStack.Agent.Dispatcher

/-!
# What requests ask for

A request is refused while it is read, or it asks for something definite: the
content of a file, more data in a file, a new upload, a chunk of an upload.
Reading a request looks at nothing but its payload.
-/

namespace RudpAgentStack

open Foundation

variable {World : Type} (host : Host World) (guard : PolicyGuard)

/-! ## Exceptions of reading -/

/-- An exception whose text is fixed, or not shown to the client. -/
inductive Plain : PyError → Prop
  | internal {error : PyError}
      (notMissing : error.kind ≠ .fileNotFoundError)
      (noValueError : error.kind.isValueError = false) : Plain error
  | fixed (text : String) (short : text.length ≤ 64) :
      Plain ⟨.valueError, text⟩

/-- An exception of reading a payload as JSON or in mixed mode. -/
inductive Unreadable : PyError → Prop
  | plain {error : PyError} (isPlain : Plain error) : Unreadable error
  | decoding (bytes : Bytes) :
      Unreadable ⟨.unicodeDecodeError, host.decodeErrorMessage bytes⟩
  | parsing {text : Text} {error : PyError}
      (refused : host.jsonLoads text = .error error) : Unreadable error
  | metadata {text : Text} {error : PyError}
      (refused : host.jsonLoads text = .error error) :
      Unreadable ⟨.valueError, "Invalid JSON metadata: " ++ error.message⟩
  | incomplete (required actual : Nat)
      (announced : required < metaLenSize + 2 ^ 32)
      (missing : actual < required) :
      Unreadable ⟨.valueError, "Payload incomplete. Expected at least " ++
        Text.ofInt required ++ " bytes, got " ++ Text.ofInt actual⟩

/-- An exception of reading a request: that of its payload, or one with its
text after a fixed introduction. -/
inductive Malformed : PyError → Prop
  | unreadable {error : PyError} (isUnreadable : Unreadable host error) :
      Malformed error
  | introduced (introduction : String) (short : introduction.length ≤ 32)
      {error : PyError} (isValueError : error.kind.isValueError = true)
      (isUnreadable : Unreadable host error) :
      Malformed ⟨.valueError, introduction ++ error.message⟩

variable {host guard}

theorem Malformed.plain
    {error : PyError} (isPlain : Plain error) : Malformed host error :=
  .unreadable (.plain isPlain)

theorem PolicyGuard.plain_of_validatePath
    {filename : Json} {error : PyError}
    (refused : guard.validatePath filename = .error error) :
    Plain error := by
  unfold validatePath at refused
  split at refused
  · cases refused
    exact .fixed _ (by decide)
  · split at refused
    · dsimp only at refused
      split at refused
      · cases refused
        exact .fixed _ (by decide)
      · split at refused
        · cases refused
          exact .fixed _ (by decide)
        · cases refused
    · cases refused
      exact .internal (by decide) (by decide)

/-- Only a string names a file. -/
theorem PolicyGuard.eq_string_of_validatePath
    {filename : Json} {path : Text}
    (valid : guard.validatePath filename = .ok path) :
    filename = .string (host.str filename) := by
  unfold validatePath at valid
  split at valid
  · cases valid
  · split at valid
    · rfl
    · cases valid

theorem plain_of_members
    {value : Json} {error : PyError} (refused : members value = .error error) :
    Plain error := by
  unfold members at refused
  split at refused
  · cases refused
  · cases refused
    exact .internal (by decide) (by decide)

theorem eq_object_of_members
    {value : Json} {entries : List (Text × Json)}
    (read : members value = .ok entries) : value = .object entries := by
  unfold members at read
  split at read
  · cases read
    rfl
  · cases read

theorem plain_of_requestFilename
    {entries : List (Text × Json)} {error : PyError}
    (refused : requestFilename entries = .error error) : Plain error := by
  unfold requestFilename at refused
  split at refused
  · split at refused
    · cases refused
      exact .fixed _ (by decide)
    · cases refused
  · cases refused
    exact .fixed _ (by decide)

theorem unreadable_of_loadBytes
    {bytes : Bytes} {error : PyError}
    (refused : host.loadBytes bytes = .error error) : Unreadable host error := by
  unfold Host.loadBytes Host.decode at refused
  split at refused
  · exact .parsing refused
  · cases refused
    exact .decoding bytes

theorem unreadable_of_mixedModeDecode
    {data : Bytes} {error : PyError}
    (refused : mixedModeDecode host data = .error error) :
    Unreadable host error := by
  unfold mixedModeDecode at refused
  by_cases prefixed : data.length < metaLenSize
  · simp only [prefixed, if_true, valueError] at refused
    cases refused
    exact .plain (.fixed _ (by decide))
  · simp only [prefixed, if_false] at refused
    by_cases complete :
        data.length < metaLenSize + ofBigEndian (data.take metaLenSize)
    · simp only [complete, if_true, valueError] at refused
      cases refused
      refine .incomplete _ _ ?_ complete
      have announced := ofBigEndian_lt (data.take metaLenSize)
      rw [List.length_take_of_le (not_lt.mp prefixed)] at announced
      exact Nat.add_lt_add_left announced _
    · simp only [complete, if_false] at refused
      cases loaded : host.loadBytes ((data.drop metaLenSize).take
          (ofBigEndian (data.take metaLenSize))) with
      | ok metadata =>
          simp [loaded, pure, Except.pure] at refused
      | error failure =>
          simp only [loaded] at refused
          split at refused
          · next isParsing =>
              cases refused
              unfold Host.loadBytes Host.decode at loaded
              split at loaded
              · exact .metadata loaded
              · cases loaded
                cases isParsing
          · cases refused
            exact unreadable_of_loadBytes loaded

/-! ## Rescued computations -/

/-- The exception of a rescued computation. -/
def rescued
    (caught : ErrorKind → Bool) (replacement : Text → Text) (error : PyError) :
    PyError :=
  if caught error.kind then ⟨.valueError, replacement error.message⟩ else error

section Rescue

variable
  {State α β : Type} {caught : ErrorKind → Bool} {replacement : Text → Text}

theorem rescue_run (action : Action State α) (state : State) :
    (rescue caught replacement action).run state =
      match action.run state with
      | (.ok value, after) => (.ok value, after)
      | (.error error, after) =>
          (.error (rescued caught replacement error), after) := by
  unfold rescue rescued
  rw [Action.run_tryCatch]
  generalize action.run state = result
  obtain ⟨error | value, after⟩ := result
  · dsimp only
    split <;> rfl
  · rfl

theorem rescue_run_snd (action : Action State α) (state : State) :
    ((rescue caught replacement action).run state).2 =
      (action.run state).2 := by
  rw [rescue_run]
  generalize action.run state = result
  obtain ⟨error | value, after⟩ := result <;> rfl

theorem bind_ok (value : α) (rest : α → Action State β) :
    (liftM (Except.ok value : Except PyError α) : Action State α) >>= rest =
      rest value := rfl

theorem bind_error (error : PyError) (rest : α → Action State β) :
    (liftM (Except.error error : Except PyError α) : Action State α) >>= rest =
      throw error := rfl

theorem rescue_ok (value : α) :
    rescue caught replacement
        (liftM (Except.ok value : Except PyError α) : Action State α) =
      liftM (Except.ok value : Except PyError α) := rfl

theorem rescue_error (error : PyError) :
    rescue caught replacement
        (liftM (Except.error error : Except PyError α) : Action State α) =
      liftM (Except.error (rescued caught replacement error) :
        Except PyError α) := by
  change (if caught error.kind then throw _ else throw error :
    Action State α) = _
  unfold rescued
  split <;> rfl

theorem rescue_throw (error : PyError) :
    rescue caught replacement (throw error : Action State α) =
      throw (rescued caught replacement error) :=
  rescue_error error

end Rescue

theorem Malformed.rescued_fixed
    {caught : ErrorKind → Bool} {error : PyError} (text : String)
    (short : text.length ≤ 64) (malformed : Malformed host error) :
    Malformed host (rescued caught (fun _ => text) error) := by
  unfold rescued
  split
  · exact .plain (.fixed text short)
  · exact malformed

theorem Malformed.rescued_introduced
    {error : PyError} (introduction : String)
    (short : introduction.length ≤ 32) (unreadable : Unreadable host error) :
    Malformed host
      (rescued ErrorKind.isValueError (introduction ++ ·) error) := by
  unfold rescued
  split
  · next isValueError =>
      exact .introduced introduction short isValueError unreadable
  · exact .unreadable unreadable

/-! ## GET -/

/-- The payload asks for a file by its name. -/
structure GetRequest
    (host : Host World) (guard : PolicyGuard) (payload : Bytes)
    (filename absPath : Text) : Prop where
  nonempty : payload ≠ []
  read : ∃ entries, host.loadBytes payload = .ok (.object entries) ∧
    requestFilename entries = .ok filename
  valid : guard.validatePath (.string filename) = .ok absPath

/-- The content of a requested file. -/
def readRequested
    (host : Host World) (absPath filename : Text) :
    Action World HandlerResult := do
  requireFile host absPath filename
  let fileSize ← host.getsize absPath
  if maxFileSize < fileSize then
    throw ⟨.valueError, "File too large: " ++ Text.ofInt fileSize ++ " > " ++
      Text.ofInt maxFileSize⟩
  let fileContent ← host.readFile absPath
  return .data
    (.object [("filename", .string filename), ("size", .int fileSize)])
    (some fileContent)

theorem handleGet_of_request
    {payload : Bytes} {filename absPath : Text}
    (request : GetRequest host guard payload filename absPath) :
    handleGet host guard payload =
      rescue (· == .unicodeDecodeError) (fun _ => "Invalid payload encoding")
        (readRequested host absPath filename) := by
  obtain ⟨entries, loaded, named⟩ := request.read
  simp only [handleGet, request.nonempty, if_false, loaded, rescue_ok, bind_ok,
    members, named, request.valid, readRequested]

/-- A payload that asks for no file is refused. -/
theorem handleGet_cases (host : Host World) (guard : PolicyGuard)
    (payload : Bytes) :
    (∃ filename absPath, GetRequest host guard payload filename absPath) ∨
      ∃ error, Malformed host error ∧
        handleGet host guard payload = throw error := by
  have refused : ∀ error, Malformed host error →
      handleGet host guard payload =
        throw (rescued (· == .unicodeDecodeError)
          (fun _ => "Invalid payload encoding") error) →
      ∃ error, Malformed host error ∧
        handleGet host guard payload = throw error :=
    fun error malformed raised =>
      ⟨_, malformed.rescued_fixed _ (by decide), raised⟩
  by_cases empty : payload = []
  · right
    refine refused _ (.plain (.fixed "Missing payload" (by decide))) ?_
    simp only [handleGet, empty, if_true]
    rw [← rescue_throw]
    rfl
  cases loaded : host.loadBytes payload with
  | error error =>
      right
      have malformed : Malformed host (rescued (· == .jsonDecodeError)
          (fun _ => "Invalid JSON payload") error) :=
        .rescued_fixed _ (by decide)
          (.unreadable (unreadable_of_loadBytes loaded))
      refine refused _ malformed ?_
      simp only [handleGet, empty, if_false, loaded, rescue_error, bind_error,
        rescue_throw]
  | ok requestData =>
  cases read : members requestData with
  | error error =>
      right
      refine refused _ (.plain (plain_of_members read)) ?_
      simp only [handleGet, empty, if_false, loaded, rescue_ok, bind_ok, read,
        bind_error, rescue_throw]
  | ok entries =>
  cases named : requestFilename entries with
  | error error =>
      right
      refine refused _ (.plain (plain_of_requestFilename named)) ?_
      simp only [handleGet, empty, if_false, loaded, rescue_ok, bind_ok, read,
        named, bind_error, rescue_throw]
  | ok filename =>
  cases valid : guard.validatePath (.string filename) with
  | error error =>
      right
      refine refused _ (.plain (PolicyGuard.plain_of_validatePath valid)) ?_
      simp only [handleGet, empty, if_false, loaded, rescue_ok, bind_ok, read,
        named, valid, bind_error, rescue_throw]
  | ok absPath =>
      left
      obtain rfl := eq_object_of_members read
      exact ⟨filename, absPath, empty, ⟨entries, loaded, named⟩, valid⟩

/-! ## APPEND -/

/-- The payload asks to append data to a file. -/
structure AppendRequest
    (host : Host World) (guard : PolicyGuard) (payload : Bytes)
    (filename absPath : Text) (binaryData : Bytes) : Prop where
  nonempty : payload ≠ []
  read : ∃ entries,
    mixedModeDecode host payload = .ok (.object entries, binaryData) ∧
      requestFilename entries = .ok filename
  valid : guard.validatePath (.string filename) = .ok absPath

/-- Append to a requested file. -/
def appendRequested
    (host : Host World) (absPath filename : Text) (binaryData : Bytes) :
    Action World HandlerResult := do
  requireFile host absPath filename
  let currentSize ← host.getsize absPath
  let newTotalSize := currentSize + binaryData.length
  if maxFileSize < newTotalSize then
    throw ⟨.valueError, "Append would exceed max file size: " ++
      Text.ofInt newTotalSize ++ " > " ++ Text.ofInt maxFileSize⟩
  host.appendFile absPath binaryData
  let finalSize ← host.getsize absPath
  return .data
    (.object [("filename", .string filename), ("new_size", .int finalSize)])
    none

theorem handleAppend_of_request
    {payload : Bytes} {filename absPath : Text} {binaryData : Bytes}
    (request : AppendRequest host guard payload filename absPath binaryData) :
    handleAppend host guard payload =
      rescue (· == .unicodeDecodeError) (fun _ => "Invalid payload encoding")
        (appendRequested host absPath filename binaryData) := by
  obtain ⟨entries, decoded, named⟩ := request.read
  simp only [handleAppend, request.nonempty, if_false, decoded, rescue_ok,
    bind_ok, members, named, request.valid, appendRequested]

/-- A payload that asks for no append is refused. -/
theorem handleAppend_cases
    (host : Host World) (guard : PolicyGuard) (payload : Bytes) :
    (∃ filename absPath binaryData,
      AppendRequest host guard payload filename absPath binaryData) ∨
      ∃ error, Malformed host error ∧
        handleAppend host guard payload = throw error := by
  have refused : ∀ error, Malformed host error →
      handleAppend host guard payload =
        throw (rescued (· == .unicodeDecodeError)
          (fun _ => "Invalid payload encoding") error) →
      ∃ error, Malformed host error ∧
        handleAppend host guard payload = throw error :=
    fun error malformed raised =>
      ⟨_, malformed.rescued_fixed _ (by decide), raised⟩
  by_cases empty : payload = []
  · right
    refine refused _ (.plain (.fixed "Missing payload" (by decide))) ?_
    simp only [handleAppend, empty, if_true]
    rw [← rescue_throw]
    rfl
  cases decoded : mixedModeDecode host payload with
  | error error =>
      right
      have malformed : Malformed host (rescued ErrorKind.isValueError
          ("Invalid Mixed Mode payload: " ++ ·) error) :=
        .rescued_introduced _ (by decide)
          (unreadable_of_mixedModeDecode decoded)
      refine refused _ malformed ?_
      simp only [handleAppend, empty, if_false, decoded, rescue_error,
        bind_error, rescue_throw]
  | ok request =>
  obtain ⟨metadata, binaryData⟩ := request
  cases read : members metadata with
  | error error =>
      right
      refine refused _ (.plain (plain_of_members read)) ?_
      simp only [handleAppend, empty, if_false, decoded, rescue_ok, bind_ok,
        read, bind_error, rescue_throw]
  | ok entries =>
  cases named : requestFilename entries with
  | error error =>
      right
      refine refused _ (.plain (plain_of_requestFilename named)) ?_
      simp only [handleAppend, empty, if_false, decoded, rescue_ok, bind_ok,
        read, named, bind_error, rescue_throw]
  | ok filename =>
  cases valid : guard.validatePath (.string filename) with
  | error error =>
      right
      refine refused _ (.plain (PolicyGuard.plain_of_validatePath valid)) ?_
      simp only [handleAppend, empty, if_false, decoded, rescue_ok, bind_ok,
        read, named, valid, bind_error, rescue_throw]
  | ok absPath =>
      left
      obtain rfl := eq_object_of_members read
      exact ⟨filename, absPath, binaryData, empty, ⟨entries, decoded, named⟩,
        valid⟩

/-! ## PUT_META -/

/-- The payload asks to upload a file of a size. -/
structure PutMetaRequest
    (host : Host World) (guard : PolicyGuard) (payload : Bytes)
    (filename : Json) (absPath : Text) (totalSize : Json) (size : FloatValue)
    (overwrite : Bool) : Prop where
  read : ∃ entries, host.loadBytes payload = .ok (.object entries) ∧
    Json.get entries "filename" = filename ∧
    Json.get entries "total_size" = totalSize ∧
    (Json.get entries "overwrite").truthy = overwrite
  named : filename.truthy = true
  valid : guard.validatePath filename = .ok absPath
  number : totalSize.number? = some size

/-- Start a requested upload. -/
def startUpload
    (host : Host World) (filename : Json) (absPath : Text) (totalSize : Json)
    (size : FloatValue) (overwrite : Bool) :
    Action (Workspace World) HandlerResult := do
  if (FloatValue.finite maxFileSize).lt size then
    throw ⟨.valueError, "File size " ++ host.str totalSize ++
      " exceeds limit " ++ Text.ofInt maxFileSize⟩
  let present ← onWorld (host.exists? absPath)
  if present && !overwrite then
    throw ⟨.valueError, "File " ++ host.str filename ++
      " already exists (overwrite=False)"⟩
  onWorld (host.makedirs (PosixPath.directory absPath))
  onWorld (host.createEmpty absPath)
  let uploadId ← UploadSessionManager.createSession host
    (host.str filename) totalSize
  return .data
    (.object [("upload_id", .string uploadId), ("status", .string "ready")])
    none

/-- A file that is not to be overwritten stays as it is. -/
theorem startUpload_run_present
    {before : Workspace World} {filename totalSize : Json} {absPath : Text}
    {size : FloatValue}
    (present : host.pathExists absPath before.world = true) :
    ((startUpload host filename absPath totalSize size false).run before).2 =
      before := by
  unfold startUpload
  split
  · rfl
  · rw [Action.run_bind]
    change ((if host.pathExists absPath before.world && !false then _
      else _ : Action (Workspace World) HandlerResult).run before).2 = _
    rw [present]
    rfl

theorem handlePutMeta_of_request
    {payload : Bytes} {filename : Json} {absPath : Text} {totalSize : Json}
    {size : FloatValue} {overwrite : Bool}
    (request : PutMetaRequest host guard payload filename absPath totalSize
      size overwrite) :
    handlePutMeta host guard payload =
      rescue (· == .jsonDecodeError) (fun _ => "Invalid JSON payload")
        (startUpload host filename absPath totalSize size overwrite) := by
  obtain ⟨entries, loaded, rfl, rfl, rfl⟩ := request.read
  have named := request.named
  have valid := request.valid
  have number := request.number
  cases totalSize : Json.get entries "total_size" with
  | null =>
    rw [totalSize] at number
    cases number
  | _ =>
    simp only [totalSize] at number
    simp only [handlePutMeta, loaded, bind_ok, members, named, valid,
      totalSize, number, startUpload]

/-- A payload that asks for no upload is refused. -/
theorem handlePutMeta_cases
    (host : Host World) (guard : PolicyGuard) (payload : Bytes) :
    (∃ filename absPath totalSize size overwrite,
      PutMetaRequest host guard payload filename absPath totalSize size
        overwrite) ∨
      ∃ error, Malformed host error ∧
        handlePutMeta host guard payload = throw error := by
  have refused : ∀ error, Malformed host error →
      handlePutMeta host guard payload =
        throw (rescued (· == .jsonDecodeError)
          (fun _ => "Invalid JSON payload") error) →
      ∃ error, Malformed host error ∧
        handlePutMeta host guard payload = throw error :=
    fun error malformed raised =>
      ⟨_, malformed.rescued_fixed _ (by decide), raised⟩
  cases loaded : host.loadBytes payload with
  | error error =>
      right
      refine refused _ (.unreadable (unreadable_of_loadBytes loaded)) ?_
      simp only [handlePutMeta, loaded, bind_error, rescue_throw]
  | ok metadata =>
  cases read : members metadata with
  | error error =>
      right
      refine refused _ (.plain (plain_of_members read)) ?_
      simp only [handlePutMeta, loaded, bind_ok, read, bind_error,
        rescue_throw]
  | ok entries =>
  have missing : (Json.get entries "filename").truthy = false ∨
      Json.get entries "total_size" = .null →
      handlePutMeta host guard payload =
        throw (rescued (· == .jsonDecodeError)
          (fun _ => "Invalid JSON payload")
          ⟨.valueError, "Missing 'filename' or 'total_size'"⟩) := by
    intro missing
    rw [← rescue_throw]
    simp only [handlePutMeta, loaded, bind_ok, read]
    rcases missing with unnamed | unsized
    · simp only [unnamed]
    · rw [unsized]
      cases (Json.get entries "filename").truthy <;> rfl
  cases named : (Json.get entries "filename").truthy with
  | false =>
      right
      exact refused _ (.plain (.fixed _ (by decide))) (missing (.inl named))
  | true =>
  cases valid : guard.validatePath (Json.get entries "filename") with
  | error error =>
      right
      by_cases unsized : Json.get entries "total_size" = .null
      · exact refused _ (.plain (.fixed _ (by decide)))
          (missing (.inr unsized))
      · refine refused _ (.plain (PolicyGuard.plain_of_validatePath valid)) ?_
        cases totalSize : Json.get entries "total_size" with
        | null => exact absurd totalSize unsized
        | _ =>
            simp only [handlePutMeta, loaded, bind_ok, read, named, totalSize,
              valid, bind_error, rescue_throw]
  | ok absPath =>
  cases number : (Json.get entries "total_size").number? with
  | none =>
      right
      by_cases unsized : Json.get entries "total_size" = .null
      · exact refused _ (.plain (.fixed _ (by decide)))
          (missing (.inr unsized))
      · refine refused ⟨.typeError, "'>' not supported between instances"⟩
          (.plain (.internal (by decide) (by decide))) ?_
        cases totalSize : Json.get entries "total_size" with
        | null => exact absurd totalSize unsized
        | _ =>
            rw [totalSize] at number
            simp only [handlePutMeta, loaded, bind_ok, read, named, totalSize,
              valid, number, rescue_throw]
  | some size =>
      left
      obtain rfl := eq_object_of_members read
      exact ⟨_, absPath, _, size, _, ⟨entries, loaded, rfl, rfl, rfl⟩, named,
        valid, number⟩

/-! ## PUT_CHUNK -/

/-- The payload asks to apply a chunk to an upload. -/
structure PutChunkRequest
    (host : Host World) (payload : Bytes) (uploadId offset chunkLen : Json)
    (chunkData : Bytes) : Prop where
  read : ∃ entries,
    mixedModeDecode host payload = .ok (.object entries, chunkData) ∧
      Json.get entries "upload_id" = uploadId ∧
      Json.get entries "offset" = offset ∧
      Json.get entries "chunk_len" = chunkLen
  identified : uploadId.truthy = true
  placed : offset ≠ .null
  measured : chunkLen ≠ .null

/-- Apply a requested chunk. -/
def applyRequested
    (host : Host World) (guard : PolicyGuard) (mode : UploadMode)
    (uploadId offset chunkLen : Json) (chunkData : Bytes) :
    Action (Workspace World) HandlerResult := do
  if chunkLen.equalsInt chunkData.length = false then
    throw ⟨.valueError, "Chunk length mismatch: Declared " ++
      host.str chunkLen ++ ", Actual " ++ Text.ofInt chunkData.length⟩
  let (isComplete, msg) ← UploadSessionManager.applyChunk host mode
    uploadId offset chunkData (fileWriter host guard)
  return .data
    (.object
      [("upload_id", uploadId), ("bytes_written", chunkLen),
        ("complete", .bool isComplete), ("status", .string msg)])
    none

theorem handlePutChunk_of_request
    {mode : UploadMode} {payload : Bytes} {uploadId offset chunkLen : Json}
    {chunkData : Bytes}
    (request : PutChunkRequest host payload uploadId offset chunkLen
      chunkData) :
    handlePutChunk host guard mode payload =
      rescue ErrorKind.isValueError ("Invalid metadata format: " ++ ·)
        (applyRequested host guard mode uploadId offset chunkLen
          chunkData) := by
  obtain ⟨entries, decoded, rfl, rfl, rfl⟩ := request.read
  have identified := request.identified
  cases offset : Json.get entries "offset" with
  | null => exact absurd offset request.placed
  | _ =>
    cases chunkLen : Json.get entries "chunk_len" with
    | null => exact absurd chunkLen request.measured
    | _ =>
      simp only [handlePutChunk, decoded, bind_ok, members, identified,
        offset, chunkLen, applyRequested]

/-- A payload that asks for no chunk to be applied is refused. -/
theorem handlePutChunk_cases
    (host : Host World) (guard : PolicyGuard) (mode : UploadMode)
    (payload : Bytes) :
    (∃ uploadId offset chunkLen chunkData,
      PutChunkRequest host payload uploadId offset chunkLen chunkData) ∨
      ∃ error, Malformed host error ∧
        handlePutChunk host guard mode payload = throw error := by
  have refused : ∀ error, Unreadable host error →
      handlePutChunk host guard mode payload =
        throw (rescued ErrorKind.isValueError
          ("Invalid metadata format: " ++ ·) error) →
      ∃ error, Malformed host error ∧
        handlePutChunk host guard mode payload = throw error :=
    fun error unreadable raised =>
      ⟨_, .rescued_introduced _ (by decide) unreadable, raised⟩
  cases decoded : mixedModeDecode host payload with
  | error error =>
      right
      refine refused _ (unreadable_of_mixedModeDecode decoded) ?_
      simp only [handlePutChunk, decoded, bind_error, rescue_throw]
  | ok request =>
  obtain ⟨metadata, chunkData⟩ := request
  cases read : members metadata with
  | error error =>
      right
      refine refused _ (.plain (plain_of_members read)) ?_
      simp only [handlePutChunk, decoded, bind_ok, read, bind_error,
        rescue_throw]
  | ok entries =>
  by_cases complete : (Json.get entries "upload_id").truthy = true ∧
      Json.get entries "offset" ≠ .null ∧ Json.get entries "chunk_len" ≠ .null
  · left
    obtain rfl := eq_object_of_members read
    exact ⟨_, _, _, chunkData, ⟨entries, decoded, rfl, rfl, rfl⟩, complete.1,
      complete.2.1, complete.2.2⟩
  · right
    refine refused
      ⟨.valueError, "Missing 'upload_id', 'offset', or 'chunk_len'"⟩
      (.plain (.fixed _ (by decide))) ?_
    rw [← rescue_throw]
    simp only [handlePutChunk, decoded, bind_ok, read]
    cases identified : (Json.get entries "upload_id").truthy with
    | false => rfl
    | true =>
      cases offset : Json.get entries "offset" with
      | null => rfl
      | _ =>
        cases chunkLen : Json.get entries "chunk_len" with
        | null => rfl
        | _ =>
          exact absurd ⟨identified, by simp [offset], by simp [chunkLen]⟩
            complete

end RudpAgentStack

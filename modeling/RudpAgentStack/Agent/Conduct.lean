import RudpAgentStack.Agent.ChunkFlow
import RudpAgentStack.Agent.Requests

/-!
# The conduct of the handlers

A conduct says what is demanded of the operations of a host: they keep an
invariant of the world when they work on validated paths, and raise certain
exceptions only.  Every handler then keeps the invariant, and what it raises is
an exception of an operation, a failure with a text of its own, or a refusal
whose text repeats what the client sent.
-/

namespace RudpAgentStack

open Foundation

variable {World : Type} {host : Host World} {guard : PolicyGuard}

/-- What the operations of a host keep, return and raise. -/
structure Conduct (host : Host World) (guard : PolicyGuard) where
  /-- What every operation keeps. -/
  invariant : World → Prop
  /-- What the operations raise. -/
  raised : PyError → Prop
  /-- The size a file can be reported to have. -/
  size : (path : Text) → Int → Prop
  /-- What reading a file can return. -/
  content : Bytes → Prop
  /-- The validated paths to which a temporary file may be renamed. -/
  writable : Text → Prop
  /-- The names of temporary files. -/
  temporary : Text → Prop
  uuid4 : Keeps invariant host.uuid4 (fun _ => True) raised
  getsize : ∀ path, Keeps invariant (host.getsize path) (size path) raised
  listdir : Keeps invariant (host.listdir guard.sandboxRoot) (fun _ => True)
    raised
  stat : ∀ path, Keeps invariant (host.stat path) (fun _ => True) raised
  makedirs : ∀ {name path}, guard.validatePath name = .ok path →
    Keeps invariant (host.makedirs (PosixPath.directory path)) (fun _ => True)
      raised
  readFile : ∀ {name path}, guard.validatePath name = .ok path →
    Keeps invariant (host.readFile path) content raised
  createEmpty : ∀ {name path}, guard.validatePath name = .ok path →
    Keeps invariant (host.createEmpty path) (fun _ => True) raised
  appendFile : ∀ {name path} data, guard.validatePath name = .ok path →
    Keeps invariant (host.appendFile path data) (fun _ => True) raised
  openUpdate : ∀ {name path}, guard.validatePath name = .ok path →
    Keeps invariant (host.openUpdate path) (fun _ => True) raised
  writeAt : ∀ {name path} position data,
    guard.validatePath name = .ok path →
    Keeps invariant (host.writeAt path position data) (fun _ => True) raised
  createTemporary : ∀ {name path}, guard.validatePath name = .ok path →
    writable path →
    Keeps invariant (host.createTemporary (PosixPath.directory path)) temporary
      raised
  writeTemporary : ∀ {name} data, temporary name →
    Keeps invariant (host.writeTemporary name data) (fun _ => True) raised
  flushTemporary : ∀ {name}, temporary name →
    Keeps invariant (host.flushTemporary name) (fun _ => True) raised
  syncTemporary : ∀ {name}, temporary name →
    Keeps invariant (host.syncTemporary name) (fun _ => True) raised
  closeTemporary : ∀ {name}, temporary name →
    Keeps invariant (host.closeTemporary name) (fun _ => True) raised
  replace : ∀ {source name path}, temporary source →
    guard.validatePath name = .ok path →
    Keeps invariant (host.replace source path) (fun _ => True) raised
  remove : ∀ {name}, temporary name →
    Keeps invariant (host.remove name) (fun _ => True) raised

/-! ## Exceptions -/

/-- An exception of an operation, or one of the agent whose text does not
repeat what the client sent. -/
inductive Failure (conduct : Conduct host guard) (payload : Bytes) :
    PyError → Prop
  | operation {error : PyError} (raised : conduct.raised error) :
      Failure conduct payload error
  | introduced (introduction : String) (short : introduction.length ≤ 32)
      {error : PyError} (isValueError : error.kind.isValueError = true)
      (raised : conduct.raised error) :
      Failure conduct payload ⟨.valueError, introduction ++ error.message⟩
  | malformed {error : PyError} (isMalformed : Malformed host error) :
      Failure conduct payload error
  | encoding (text : Text) :
      Failure conduct payload
        ⟨.unicodeEncodeError, host.encodeErrorMessage text⟩
  | dumping {style : JsonStyle} {value : Json} {error : PyError}
      (refused : host.jsonDumps style value = .error error) :
      Failure conduct payload error
  | fileTooLarge {path : Text} {size : Int}
      (measured : conduct.size path size) :
      Failure conduct payload
        ⟨.valueError, "File too large: " ++ Text.ofInt size ++ " > " ++
          Text.ofInt maxFileSize⟩
  | appendTooLarge {path : Text} {size : Int} {added : Nat}
      (measured : conduct.size path size) (sent : added ≤ payload.length) :
      Failure conduct payload
        ⟨.valueError, "Append would exceed max file size: " ++
          Text.ofInt (size + added) ++ " > " ++ Text.ofInt maxFileSize⟩
  | readTooLarge {path : Text} {size : Int}
      (measured : conduct.size path size) :
      Failure conduct payload
        ⟨.valueError, "File " ++ path ++
          " too large for READ_FILE. Use Streaming."⟩
  | missingInput (tool : ToolName) {key : Text} (short : key.length ≤ 32) :
      Failure conduct payload
        ⟨.valueError, "Step " ++
          host.formatMember tool.names.1 tool.names.2 ++ " requires " ++ key ++
          " which is missing from context."⟩
  | responseTooLong {value : Json} {serialized : Bytes} {content : Bytes}
      {length : Nat}
      (isResponse :
        (∃ data, value = ResponseBuilder.payloadDict .ok none data) ∨
          value = ResponseBuilder.fallbackDict)
      (dumped : host.dumpBytes value = .ok serialized)
      (read : content = [] ∨ conduct.content content)
      (bounded : length ≤ metaLenSize + serialized.length + content.length) :
      Failure conduct payload
        ⟨.valueError, "Payload length " ++ Text.ofInt length ++
          " exceeds max " ++ Text.ofInt maxPayloadLen⟩

variable {conduct : Conduct host guard} {payload : Bytes}

theorem Failure.plain
    {error : PyError} (isPlain : Plain error) : Failure conduct payload error :=
  .malformed (.plain isPlain)

theorem Failure.rescued_fixed
    {caught : ErrorKind → Bool} {error : PyError} (text : String)
    (short : text.length ≤ 64) (failure : Failure conduct payload error) :
    Failure conduct payload (rescued caught (fun _ => text) error) := by
  unfold rescued
  split
  · exact .plain (.fixed text short)
  · exact failure

/-- A refusal whose text repeats what the client sent, and when a request is
refused with it. -/
inductive Repeats (host : Host World) (guard : PolicyGuard) :
    Handler → Bytes → Workspace World → PyError → Prop
  | getMissing {payload : Bytes} {workspace : Workspace World}
      {filename absPath : Text}
      (request : GetRequest host guard payload filename absPath)
      (missing : host.pathExists absPath workspace.world = false) :
      Repeats host guard .get payload workspace
        ⟨.fileNotFoundError, "File not found: " ++ filename⟩
  | appendMissing {payload : Bytes} {workspace : Workspace World}
      {filename absPath : Text} {binaryData : Bytes}
      (request : AppendRequest host guard payload filename absPath binaryData)
      (missing : host.pathExists absPath workspace.world = false) :
      Repeats host guard .append payload workspace
        ⟨.fileNotFoundError, "File not found: " ++ filename⟩
  | uploadTooLarge {payload : Bytes} {workspace : Workspace World}
      {filename totalSize : Json} {absPath : Text} {size : FloatValue}
      {overwrite : Bool}
      (request : PutMetaRequest host guard payload filename absPath totalSize
        size overwrite)
      (tooLarge : (FloatValue.finite maxFileSize).lt size = true) :
      Repeats host guard .putMeta payload workspace
        ⟨.valueError, "File size " ++ host.str totalSize ++
          " exceeds limit " ++ Text.ofInt maxFileSize⟩
  | uploadPresent {payload : Bytes} {workspace : Workspace World}
      {filename totalSize : Json} {absPath : Text} {size : FloatValue}
      (request : PutMetaRequest host guard payload filename absPath totalSize
        size false)
      (fits : (FloatValue.finite maxFileSize).lt size = false)
      (present : host.pathExists absPath workspace.world = true) :
      Repeats host guard .putMeta payload workspace
        ⟨.valueError, "File " ++ host.str filename ++
          " already exists (overwrite=False)"⟩
  | chunkMismatch {payload : Bytes} {workspace : Workspace World}
      {uploadId offset chunkLen : Json} {chunkData : Bytes}
      (request : PutChunkRequest host payload uploadId offset chunkLen
        chunkData)
      (mismatch : chunkLen.equalsInt chunkData.length = false) :
      Repeats host guard .putChunk payload workspace
        ⟨.valueError, "Invalid metadata format: " ++
          (Text.ofString "Chunk length mismatch: Declared " ++
            host.str chunkLen ++ ", Actual " ++ Text.ofInt chunkData.length)⟩
  | sessionUnknown {payload : Bytes} {workspace : Workspace World}
      {uploadId offset chunkLen : Json} {chunkData : Bytes}
      (request : PutChunkRequest host payload uploadId offset chunkLen
        chunkData)
      (agreed : chunkLen.equalsInt chunkData.length = true)
      (hashable : ∀ elements, uploadId ≠ .array elements)
      (hashable' : ∀ entries, uploadId ≠ .object entries)
      (unknown : ∀ key, uploadId = .string key →
        workspace.sessions.get? key = none) :
      Repeats host guard .putChunk payload workspace
        ⟨.valueError, "Invalid metadata format: " ++
          (Text.ofString "Session " ++ host.str uploadId ++ " not found")⟩
  | chunkOverlap {payload : Bytes} {workspace : Workspace World}
      {uploadId : Text} {offset chunkLen : Json} {chunkData : Bytes}
      {session : UploadSession} {position : FloatValue}
      (request : PutChunkRequest host payload (.string uploadId) offset
        chunkLen chunkData)
      (agreed : chunkLen.equalsInt chunkData.length = true)
      (known : workspace.sessions.get? uploadId = some session)
      (number : offset.number? = some position)
      (early : position.lt (.finite session.nextExpectedOffset) = true)
      (beyond : (position.addInt chunkData.length).le
        (.finite session.nextExpectedOffset) = false) :
      Repeats host guard .putChunk payload workspace
        ⟨.valueError, "Invalid metadata format: " ++
          (Text.ofString "Overlapping chunk at " ++ host.str offset ++
            " (expected " ++ Text.ofInt session.nextExpectedOffset ++ ")")⟩
  | chunkOutOfOrder {payload : Bytes} {workspace : Workspace World}
      {uploadId : Text} {offset chunkLen : Json} {chunkData : Bytes}
      {session : UploadSession} {position : FloatValue}
      (request : PutChunkRequest host payload (.string uploadId) offset
        chunkLen chunkData)
      (agreed : chunkLen.equalsInt chunkData.length = true)
      (known : workspace.sessions.get? uploadId = some session)
      (number : offset.number? = some position)
      (notEarly : position.lt (.finite session.nextExpectedOffset) = false)
      (notNext : position.eq (.finite session.nextExpectedOffset) = false) :
      Repeats host guard .putChunk payload workspace
        ⟨.valueError, "Invalid metadata format: " ++
          (Text.ofString "Out-of-order chunk: Got " ++ host.str offset ++
            ", expected " ++ Text.ofInt session.nextExpectedOffset)⟩

/-! ## Computations that keep the conduct -/

/-- The computation keeps the invariant, returns what is described, and raises
failures only. -/
abbrev Behaves (conduct : Conduct host guard) (payload : Bytes) {α : Type}
    (action : Action World α) (returned : α → Prop) : Prop :=
  Keeps conduct.invariant action returned (Failure conduct payload)

/-- From a workspace, the handler keeps the invariant of the world, and it
raises a failure or a refusal. -/
def Serves (conduct : Conduct host guard) (handler : Handler) (payload : Bytes)
    (workspace : Workspace World) {α : Type} (returned : α → Prop)
    (action : Action (Workspace World) α) : Prop :=
  Ends action workspace
    (fun value after => returned value ∧ conduct.invariant after.world)
    (fun error after => (Failure conduct payload error ∨
        Repeats host guard handler payload workspace error) ∧
      conduct.invariant after.world)

/-- An operation behaves. -/
theorem Conduct.behaves {α : Type} {action : Action World α}
    {returned : α → Prop}
    (keeps : Keeps conduct.invariant action returned conduct.raised) :
    Behaves conduct payload action returned :=
  keeps.mono (fun _ holds => holds) fun _ raised => .operation raised

/-- A rescued computation ends as the computation does, with another exception
in the place of some. -/
theorem ends_rescue_iff {State α : Type}
    {caught : ErrorKind → Bool} {replacement : Text → Text}
    {action : Action State α} {state : State}
    {returned : α → State → Prop} {raised : PyError → State → Prop} :
    Ends (rescue caught replacement action) state returned raised ↔
      Ends action state returned
        (fun error after =>
          raised (rescued caught replacement error) after) := by
  unfold Ends
  rw [rescue_run]
  generalize action.run state = result
  obtain ⟨error | value, after⟩ := result <;> exact Iff.rfl

/-- A computation on the world serves in a workspace as it does there. -/
theorem Serves.onWorld {α : Type} {handler : Handler}
    {action : Action World α} {returned : α → Prop}
    {workspace : Workspace World}
    (ends : Ends action workspace.world
      (fun value after => returned value ∧ conduct.invariant after)
      (fun error after => (Failure conduct payload error ∨
          Repeats host guard handler payload workspace error) ∧
        conduct.invariant after)) :
    Serves conduct handler payload workspace returned (onWorld action) := by
  unfold Serves
  unfold Ends at ends ⊢
  rw [onWorld_run]
  generalize action.run workspace.world = result at ends
  obtain ⟨error | value, after⟩ := result <;> exact ends

theorem Behaves.serves {α : Type} {handler : Handler}
    {action : Action World α} {returned : α → Prop}
    (behaves : Behaves conduct payload action returned)
    {workspace : Workspace World} (holds : conduct.invariant workspace.world) :
    Serves conduct handler payload workspace returned (onWorld action) :=
  .onWorld ((behaves workspace.world holds).mono (fun _ _ ends => ends)
    fun _ _ ends => ⟨.inl ends.1, ends.2⟩)

/-! ## LIST, GET and APPEND -/

/-- What a handler may return: data with content that was read, or an envelope
with a response. -/
def HandlerResult.Sound (conduct : Conduct host guard) (header : AppHeader) :
    HandlerResult → Prop
  | .data _ content => ∀ bytes ∈ content, conduct.content bytes
  | .bytes envelope => ∃ value, ResponseBuilder.buildResponse host
      header.opcode header.requestId .ok value = .ok envelope

variable {header : AppHeader}

theorem handleList_behaves :
    Behaves conduct payload (handleList host guard)
      (HandlerResult.Sound conduct header) := by
  unfold handleList
  have diagnose : Behaves conduct payload
      (tryCatch (host.listdir guard.sandboxRoot *> pure ()) fun _ => pure () :
        Action World Unit) (fun _ => True) := by
    refine Keeps.tryCatch (?listed : Keeps _ _ _ fun _ => True) fun _ _ =>
      Keeps.of_pure trivial
    rw [seqRight_eq_bind]
    exact (conduct.listdir.mono (fun _ _ => trivial) fun _ _ => trivial).bind
      fun _ _ => Keeps.of_pure trivial
  have each : ∀ name, Behaves conduct payload (fileMetadata host guard name)
      (fun _ => True) := by
    intro name
    unfold fileMetadata
    refine Keeps.tryCatch (?stat : Behaves conduct payload _ _)
      fun error failure => ?_
    · exact (conduct.behaves (conduct.stat _)).bind fun _ _ =>
        Keeps.of_pure trivial
    · split
      · exact Keeps.of_pure trivial
      · exact Keeps.of_throw failure
  refine diagnose.bind fun _ _ => diagnose.bind fun _ _ => ?_
  refine (conduct.behaves conduct.listdir).bind fun filenames _ => ?_
  exact (Keeps.mapM fun name _ => each name).bind fun _ _ =>
    Keeps.of_pure nofun

theorem requireFile_run (absPath filename : Text) (world : World) :
    (requireFile host absPath filename).run world =
      (if host.pathExists absPath world then .ok ()
        else .error ⟨.fileNotFoundError, "File not found: " ++ filename⟩,
        world) := by
  unfold requireFile
  rw [Action.run_bind, Host.exists?_run]
  cases host.pathExists absPath world <;> rfl

/-- A handler that serves a file by its name raises a failure, or the file is
missing. -/
theorem rescue_requireFile_ends {α : Type} {absPath filename : Text}
    {rest : Action World α} {returned : α → Prop}
    (behaves : Behaves conduct payload rest returned)
    {world : World} (holds : conduct.invariant world) :
    Ends
      (rescue (· == .unicodeDecodeError) (fun _ => "Invalid payload encoding")
        (do
          requireFile host absPath filename
          rest))
      world
      (fun value after => returned value ∧ conduct.invariant after)
      (fun error after => (Failure conduct payload error ∨
          host.pathExists absPath world = false ∧
            error =
              ⟨.fileNotFoundError, "File not found: " ++ filename⟩) ∧
        conduct.invariant after) := by
  rw [ends_rescue_iff, Ends.bind_iff]
  unfold Ends
  rw [requireFile_run]
  cases present : host.pathExists absPath world with
  | false => exact ⟨.inr ⟨rfl, rfl⟩, holds⟩
  | true =>
      exact (behaves world holds).mono (fun _ _ ends => ends)
        fun _ _ ends => ⟨.inl (ends.1.rescued_fixed _ (by decide)), ends.2⟩

theorem handleGet_serves
    {workspace : Workspace World} (holds : conduct.invariant workspace.world) :
    Serves conduct .get payload workspace
      (HandlerResult.Sound conduct header)
      (onWorld (handleGet host guard payload)) := by
  refine .onWorld ?_
  rcases handleGet_cases host guard payload with
    ⟨filename, absPath, request⟩ | ⟨error, malformed, refused⟩
  · rw [handleGet_of_request request]
    refine (rescue_requireFile_ends ?_ holds).mono (fun _ _ ends => ends)
      fun error after ends => ⟨ends.1.imp_right ?_, ends.2⟩
    · refine (conduct.behaves (conduct.getsize absPath)).bind
        fun size measured => ?_
      split
      · exact Keeps.of_throw (.fileTooLarge measured)
      · refine (conduct.behaves (conduct.readFile request.valid)).bind
          fun content read => Keeps.of_pure ?_
        rintro _ ⟨⟩
        exact read
    · rintro ⟨missing, rfl⟩
      exact .getMissing request missing
  · rw [refused]
    exact ⟨.inl (.malformed malformed), holds⟩

/-- The binary data is the end of the payload. -/
theorem length_of_mixedModeDecode
    {metadata : Json} {binaryData : Bytes}
    (decoded : mixedModeDecode host payload = .ok (metadata, binaryData)) :
    binaryData.length ≤ payload.length := by
  unfold mixedModeDecode at decoded
  simp only [valueError] at decoded
  split at decoded
  · cases decoded
  · split at decoded
    · cases decoded
    · split at decoded
      · cases decoded
        rw [List.length_drop]
        exact Nat.sub_le _ _
      · split at decoded <;> cases decoded

theorem handleAppend_serves
    {workspace : Workspace World} (holds : conduct.invariant workspace.world) :
    Serves conduct .append payload workspace
      (HandlerResult.Sound conduct header)
      (onWorld (handleAppend host guard payload)) := by
  refine .onWorld ?_
  rcases handleAppend_cases host guard payload with
    ⟨filename, absPath, binaryData, request⟩ |
      ⟨error, malformed, refused⟩
  · rw [handleAppend_of_request request]
    refine (rescue_requireFile_ends ?_ holds).mono (fun _ _ ends => ends)
      fun error after ends => ⟨ends.1.imp_right ?_, ends.2⟩
    · refine (conduct.behaves (conduct.getsize absPath)).bind
        fun size measured => ?_
      dsimp only
      split
      · obtain ⟨_, decoded, _⟩ := request.read
        exact Keeps.of_throw
          (.appendTooLarge measured (length_of_mixedModeDecode decoded))
      · refine (conduct.behaves (conduct.appendFile _ request.valid)).bind
          fun _ _ => ?_
        exact (conduct.behaves (conduct.getsize absPath)).bind fun _ _ =>
          Keeps.of_pure nofun
    · rintro ⟨missing, rfl⟩
      exact .appendMissing request missing
  · rw [refused]
    exact ⟨.inl (.malformed malformed), holds⟩

/-! ## Uploads -/

/-- A computation on the workspace keeps the invariant of the world. -/
abbrev KeepsWorld (conduct : Conduct host guard) {α : Type}
    (action : Action (Workspace World) α) (returned : α → Prop)
    (raised : PyError → Prop) : Prop :=
  Keeps (fun workspace => conduct.invariant workspace.world) action returned
    raised

theorem KeepsWorld.onWorld {α : Type} {action : Action World α}
    {returned : α → Prop} {raised : PyError → Prop}
    (keeps : Keeps conduct.invariant action returned raised) :
    KeepsWorld conduct (onWorld action) returned raised := by
  intro workspace holds
  have ends := keeps workspace.world holds
  unfold Ends at ends ⊢
  rw [onWorld_run]
  generalize action.run workspace.world = result at ends
  obtain ⟨error | value, after⟩ := result <;> exact ends

theorem updateSession_keeps
    (uploadId : Text) (change : UploadSession → UploadSession)
    (raised : PyError → Prop) :
    KeepsWorld conduct (UploadSessionManager.updateSession uploadId change)
      (fun _ => True) raised := by
  refine Keeps.of_modify fun workspace holds => ?_
  split <;> exact holds

theorem createSession_keeps (filename : Text) (totalSize : Json) :
    KeepsWorld conduct
      (UploadSessionManager.createSession host filename totalSize)
      (fun _ => True) conduct.raised := by
  refine (KeepsWorld.onWorld conduct.uuid4).bind fun uploadId _ => ?_
  exact Keeps.bind (Keeps.of_modify fun _ holds => holds) fun _ _ =>
    Keeps.of_pure trivial

/-- The preparation of an upload keeps the invariant. -/
theorem prepareUpload_keeps
    {filename totalSize : Json} {absPath : Text}
    (valid : guard.validatePath filename = .ok absPath) :
    KeepsWorld conduct
      (do
        onWorld (host.makedirs (PosixPath.directory absPath))
        onWorld (host.createEmpty absPath)
        let uploadId ← UploadSessionManager.createSession host
          (host.str filename) totalSize
        return .data
          (.object
            [("upload_id", .string uploadId), ("status", .string "ready")])
          none)
      (HandlerResult.Sound conduct header) conduct.raised := by
  refine (KeepsWorld.onWorld (conduct.makedirs valid)).bind fun _ _ => ?_
  refine (KeepsWorld.onWorld (conduct.createEmpty valid)).bind fun _ _ => ?_
  exact (createSession_keeps _ _).bind fun _ _ => Keeps.of_pure nofun

theorem handlePutMeta_serves
    {workspace : Workspace World} (holds : conduct.invariant workspace.world) :
    Serves conduct .putMeta payload workspace
      (HandlerResult.Sound conduct header)
      (handlePutMeta host guard payload) := by
  unfold Serves
  rcases handlePutMeta_cases host guard payload with
    ⟨filename, absPath, totalSize, size, overwrite, request⟩ |
      ⟨error, malformed, refused⟩
  · rw [handlePutMeta_of_request request, ends_rescue_iff]
    unfold startUpload
    cases tooLarge : (FloatValue.finite maxFileSize).lt size with
    | true => exact ⟨.inr (.uploadTooLarge request tooLarge), holds⟩
    | false =>
      simp only [Bool.false_eq_true, if_false]
      rw [Ends.bind_iff]
      have looked : (onWorld (host.exists? absPath)).run workspace =
          (.ok (host.pathExists absPath workspace.world), workspace) := rfl
      rw [Ends.of_run_ok looked]
      split
      · next conflict =>
          rw [Bool.and_eq_true, Bool.not_eq_true'] at conflict
          obtain ⟨present, rfl⟩ := conflict
          exact ⟨.inr (.uploadPresent request tooLarge present), holds⟩
      · refine (prepareUpload_keeps request.valid workspace holds).mono
          (fun _ _ ends => ends) fun _ _ ends => ⟨.inl ?_, ends.2⟩
        exact (Failure.operation ends.1).rescued_fixed _ (by decide)
  · rw [refused]
    exact ⟨.inl (.malformed malformed), holds⟩

/-- What applying a chunk to a known session raises, apart from refusals. -/
abbrev ChunkFailure (conduct : Conduct host guard) (error : PyError) : Prop :=
  conduct.raised error ∨ Plain error

theorem ChunkFailure.rescued
    {error : PyError} (failure : ChunkFailure conduct error) :
    Failure conduct payload (rescued ErrorKind.isValueError
      ("Invalid metadata format: " ++ ·) error) := by
  unfold RudpAgentStack.rescued
  split
  · next isValueError =>
      rcases failure with raised | isPlain
      · exact .introduced _ (by decide) isValueError raised
      · exact .malformed
          (.introduced _ (by decide) isValueError (.plain isPlain))
  · rcases failure with raised | isPlain
    · exact .operation raised
    · exact .plain isPlain

theorem fileWriter_keeps (filename : Text) (offset : Json) (data : Bytes) :
    Keeps conduct.invariant (fileWriter host guard filename offset data)
      (fun _ => True) (ChunkFailure conduct) := by
  unfold fileWriter
  have validated : Keeps conduct.invariant
      (guard.validatePath (.string filename) : Action World Text)
      (fun path => guard.validatePath (.string filename) = .ok path)
      (ChunkFailure conduct) :=
    Keeps.of_lift (fun _ valid => valid) fun _ refused =>
      .inr (PolicyGuard.plain_of_validatePath refused)
  refine validated.bind fun path valid => ?_
  split
  · exact (conduct.writeAt _ data valid).mono (fun _ holds => holds)
      fun _ => .inl
  · refine Keeps.bind ((conduct.openUpdate valid).mono (fun _ holds => holds)
      fun _ => .inl) fun _ _ => ?_
    exact Keeps.of_throw (.inr (.internal (by decide) (by decide)))

theorem writeChunk_keeps
    (session : UploadSession) (offset : Json) (data : Bytes) :
    KeepsWorld conduct
      (UploadSessionManager.writeChunk session offset data
        (fileWriter host guard))
      (fun _ => True) (ChunkFailure conduct) :=
  (KeepsWorld.onWorld (fileWriter_keeps _ offset data)).bind fun _ _ =>
    updateSession_keeps _ _ _

theorem processBuffer_keeps (uploadId : Text) (fuel : Nat) :
    KeepsWorld conduct
      (UploadSessionManager.processBuffer uploadId (fileWriter host guard)
        fuel)
      (fun _ => True) (ChunkFailure conduct) := by
  induction fuel with
  | zero => exact Keeps.of_pure trivial
  | succ fuel inductionHypothesis =>
      unfold UploadSessionManager.processBuffer
      refine Keeps.bind Keeps.of_get fun workspace _ => ?_
      split
      · exact Keeps.of_pure trivial
      · dsimp only
        split
        · exact Keeps.of_pure trivial
        · exact (updateSession_keeps _ _ _).bind fun _ _ =>
            (writeChunk_keeps _ _ _).bind fun _ _ => inductionHypothesis

theorem finishChunk_keeps (uploadId : Text) (raised : PyError → Prop) :
    KeepsWorld conduct (UploadSessionManager.finishChunk uploadId)
      (fun _ => True) raised := by
  unfold UploadSessionManager.finishChunk
  refine Keeps.bind Keeps.of_get fun workspace _ => ?_
  split
  · split
    · exact Keeps.bind (Keeps.of_modify fun _ holds => holds) fun _ _ =>
        Keeps.of_pure trivial
    · exact Keeps.of_pure trivial
  · exact Keeps.of_pure trivial

theorem applyNext_keeps
    (mode : UploadMode) (session : UploadSession) (offset : Json)
    (chunkData : Bytes) :
    KeepsWorld conduct
      (UploadSessionManager.applyNext mode session offset chunkData
        (fileWriter host guard))
      (fun _ => True) (ChunkFailure conduct) := by
  refine (writeChunk_keeps session offset chunkData).bind fun _ _ => ?_
  split
  · exact (processBuffer_keeps _ _).bind fun _ _ => finishChunk_keeps _ _
  · exact finishChunk_keeps _ _

theorem bufferChunk_keeps
    (session : UploadSession) (position : FloatValue) (chunkData : Bytes) :
    KeepsWorld conduct
      (UploadSessionManager.bufferChunk session position chunkData)
      (fun _ => True) (ChunkFailure conduct) :=
  (updateSession_keeps _ _ _).bind fun _ _ => finishChunk_keeps _ _

/-- Applying a requested chunk keeps the invariant, and raises a failure or a
refusal. -/
theorem applyChunk_ends
    (mode : UploadMode) {uploadId offset chunkLen : Json} {chunkData : Bytes}
    (request : PutChunkRequest host payload uploadId offset chunkLen chunkData)
    (agreed : chunkLen.equalsInt chunkData.length = true)
    {workspace : Workspace World} (holds : conduct.invariant workspace.world) :
    Ends
      (UploadSessionManager.applyChunk host mode uploadId offset chunkData
        (fileWriter host guard))
      workspace
      (fun _ after => conduct.invariant after.world)
      (fun error after =>
        (Failure conduct payload (rescued ErrorKind.isValueError
            ("Invalid metadata format: " ++ ·) error) ∨
          Repeats host guard .putChunk payload workspace
            (rescued ErrorKind.isValueError
              ("Invalid metadata format: " ++ ·) error)) ∧
          conduct.invariant after.world) := by
  have plain : ∀ message : Text, Failure conduct payload
      (rescued ErrorKind.isValueError ("Invalid metadata format: " ++ ·)
        ⟨.typeError, message⟩) := fun message =>
    ChunkFailure.rescued (.inr (.internal nofun rfl))
  rcases UploadSessionManager.getSession_cases host uploadId workspace with
    ⟨key, session, rfl, known⟩ | unhashable | ⟨noArray, noObject, unknown⟩
  · unfold Ends
    rw [UploadSessionManager.applyChunk_run_known known]
    cases number : offset.number? with
    | none => exact ⟨.inl (plain _), holds⟩
    | some position =>
      dsimp only
      cases early : position.lt (.finite session.nextExpectedOffset) with
      | true =>
        cases within : (position.addInt chunkData.length).le
            (.finite session.nextExpectedOffset) with
        | true => exact holds
        | false =>
          exact ⟨.inr (.chunkOverlap request agreed known number early
            within), holds⟩
      | false =>
        cases next : position.eq (.finite session.nextExpectedOffset) with
        | true =>
          exact (applyNext_keeps mode session offset chunkData workspace
            holds).mono (fun _ _ ends => ends.2)
              fun _ _ ends => ⟨.inl ends.1.rescued, ends.2⟩
        | false =>
          cases mode with
          | strict =>
            exact ⟨.inr (.chunkOutOfOrder request agreed known number early
              next), holds⟩
          | bufferable =>
            exact (bufferChunk_keeps session position chunkData workspace
              holds).mono (fun _ _ ends => ends.2)
                fun _ _ ends => ⟨.inl ends.1.rescued, ends.2⟩
  · unfold Ends
    rw [UploadSessionManager.applyChunk_run_refused unhashable]
    exact ⟨.inl (plain _), holds⟩
  · unfold Ends
    rw [UploadSessionManager.applyChunk_run_refused
      (UploadSessionManager.getSession_run_unknown noArray noObject unknown)]
    exact ⟨.inr (.sessionUnknown request agreed noArray noObject unknown),
      holds⟩

theorem handlePutChunk_serves
    (mode : UploadMode) {workspace : Workspace World}
    (holds : conduct.invariant workspace.world) :
    Serves conduct .putChunk payload workspace
      (HandlerResult.Sound conduct header)
      (handlePutChunk host guard mode payload) := by
  unfold Serves
  rcases handlePutChunk_cases host guard mode payload with
    ⟨uploadId, offset, chunkLen, chunkData, request⟩ |
      ⟨error, malformed, refused⟩
  · rw [handlePutChunk_of_request request, ends_rescue_iff]
    unfold applyRequested
    cases agreed : chunkLen.equalsInt chunkData.length with
    | false => exact ⟨.inr (.chunkMismatch request agreed), holds⟩
    | true =>
      simp only [Bool.true_eq_false, if_false]
      rw [Ends.bind_iff]
      exact (applyChunk_ends mode request agreed holds).mono
        (fun _ _ kept => ⟨nofun, kept⟩) fun _ _ ends => ends
  · rw [refused]
    exact ⟨.inl (.malformed malformed), holds⟩

end RudpAgentStack

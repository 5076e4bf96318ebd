import RudpAgentStack.Agent.StrictUploads
import RudpAgentStack.Client.RemoteOperations

/-!
# The requests of an upload

What the requests of one upload, and of a GET after it, do to the file and its
session, as long as other clients leave these alone: PUT_META empties the file,
a chunk is written after those before it, and GET returns the content.
-/

namespace RudpAgentStack

open Foundation RequestLink AgentClient

variable {World : Type} {host : Host World} {guard : PolicyGuard}
  {clientId : Text}

/-! ## Reading what the client has written -/

/-- The server reads the metadata of a JSON request. -/
theorem loadBytes_of_payloadOf
    (trips : host.JsonRoundTrips) {spec : ClientRequestSpec} {payload : Bytes}
    (plain : spec.mixed = false)
    (payloaded : payloadOf host spec = .ok payload) :
    host.loadBytes payload = .ok (.object spec.metadata) := by
  unfold payloadOf at payloaded
  rw [plain, if_neg Bool.false_ne_true] at payloaded
  exact Host.loadBytes_of_dumpBytes (trips.readsBack _) payloaded

/-- The server reads the metadata and the data of a request in mixed mode. -/
theorem mixedModeDecode_of_payloadOf
    (trips : host.JsonRoundTrips) {spec : ClientRequestSpec} {payload : Bytes}
    (mixed : spec.mixed = true)
    (payloaded : payloadOf host spec = .ok payload) :
    mixedModeDecode host payload =
      .ok (.object spec.metadata, spec.binary.getD []) := by
  unfold payloadOf at payloaded
  rw [mixed, if_pos rfl] at payloaded
  obtain ⟨metaBytes, dumped, fits, rfl⟩ := of_mixedModeEncode payloaded
  exact mixedModeDecode_of_loadBytes
    (Host.loadBytes_of_dumpBytes (trips.readsBack _) dumped) fits _

/-! ## The file on the server -/

section Server

variable (files : FileSystem host) (path remoteName : Text)

/-- The call leaves the file alone, and the uploads of that name. -/
structure Spares
    (guard : PolicyGuard) (state : AgentState World) (call : Call) : Prop where
  content : files.content
      (AgentServer.serve host guard state call).2.workspace.world path =
    files.content state.workspace.world path
  sessions : ∀ key session,
    state.workspace.sessions.get? key = some session →
    session.filename = remoteName →
      (AgentServer.serve host guard state call).2.workspace.sessions.get? key =
        some session

/-- The client is answered, and other clients leave its file alone. -/
structure Undisturbed
    (guard : PolicyGuard) (clientId : Text)
    (state : AgentState World) (call : Call) : Prop where
  answers : AnswersClient host guard clientId state call
  spares : call.clientId ≠ clientId →
    Spares files path remoteName guard state call

/-- The session of an upload that has come as far as this. -/
def uploadingSession (key : Text) (size reached : Nat) : UploadSession where
  uploadId := key
  filename := remoteName
  totalSize := .int size
  nextExpectedOffset := reached

/-- The file holds the beginning of what is uploaded, and its session goes on
unless this is all of it. -/
structure Holding
    (key : Text) (size : Nat) (data : Bytes)
    (workspace : Workspace World) : Prop where
  content : files.content workspace.world path = some data
  session : data.length ≠ size → workspace.sessions.get? key =
    some (uploadingSession remoteName key size data.length)

variable {files path remoteName}

theorem Holding.spared
    {key : Text} {size : Nat} {data : Bytes} {state : AgentState World}
    {call : Call}
    (holding : Holding files path remoteName key size data state.workspace)
    (spares : Spares files path remoteName guard state call) :
    Holding files path remoteName key size data
      (AgentServer.serve host guard state call).2.workspace where
  content := spares.content.trans holding.content
  session := fun incomplete =>
    spares.sessions key _ (holding.session incomplete) rfl

/-! ## Starting the upload -/

/-- A rescued computation returns as before. -/
theorem ends_rescue_returned
    {σ α : Type} {caught : ErrorKind → Bool} {replacement : Text → Text}
    {action : Action σ α} {state : σ} {returned : α → σ → Prop}
    (ends : Ends action state returned (fun _ _ => True)) :
    Ends (rescue caught replacement action) state returned
      (fun _ _ => True) := by
  unfold Ends at ends ⊢
  rw [rescue_run]
  generalize action.run state = outcome at ends ⊢
  obtain ⟨error | value, after⟩ := outcome <;> exact ends

open UploadSessionManager

/-- The reply to PUT_META names the upload, whose file is empty. -/
def Started
    (files : FileSystem host) (path remoteName : Text) (size : Nat)
    (reply : Except PyError HandlerResult) (workspace : Workspace World) :
    Prop :=
  ∀ value, reply = .ok value → ∃ key entries binary,
    value = .data (.object entries) binary ∧
    Json.get entries "upload_id" = .string key ∧
    Holding files path remoteName key size [] workspace

theorem reported?_eq_some
    {result : HandlerResult} {key status : Text}
    (reported : result.reported? = some (key, status)) :
    ∃ entries binary, result = .data (.object entries) binary ∧
      Json.get entries "upload_id" = .string key := by
  unfold HandlerResult.reported? at reported
  split at reported
  · next entries binary =>
      split at reported
      · next uploadId _ named _ =>
          obtain ⟨rfl, rfl⟩ := Prod.mk.inj (Option.some.inj reported)
          exact ⟨entries, binary, rfl, named⟩
      · cases reported
  · cases reported

/-- The request of the client starts the upload. -/
theorem handlePutMeta_started
    (valid : guard.validatePath (.string remoteName) = .ok path)
    {payload : Bytes} {size : Nat}
    (loaded : host.loadBytes payload =
      .ok (.object (PutMetaHandler.buildRequest remoteName size
        true).metadata))
    (workspace : Workspace World) :
    Started files path remoteName size
      ((handlePutMeta host guard payload).run workspace).1
      ((handlePutMeta host guard payload).run workspace).2 := by
  have named : (Json.string remoteName).truthy = true := by
    by_contra empty
    rw [Bool.not_eq_true] at empty
    unfold PolicyGuard.validatePath at valid
    rw [if_pos empty] at valid
    cases valid
  have asks : PutMetaRequest host guard payload (.string remoteName) path
      (.int size) (.finite size) true :=
    { read := ⟨_, loaded, rfl, rfl, rfl⟩
      named
      valid
      number := rfl }
  intro value returned
  rw [handlePutMeta_of_request asks] at returned ⊢
  obtain ⟨key, reported, content, sessions⟩ := ends_of_fst
    (ends_rescue_returned (startUpload_ends files (.string remoteName) path
      (.int size) (.finite size) true workspace).returns) returned
  obtain ⟨entries, binary, rfl, identified⟩ := reported?_eq_some reported
  refine ⟨key, entries, binary, rfl, identified, ?_, fun _ => ?_⟩
  · rw [content, Function.update_self]
  · rw [sessions, Dict.get?_set_self]
    rfl

/-! ## A chunk -/

theorem equalsInt_int_iff {left right : Int} :
    (Json.int left).equalsInt right = true ↔ left = right := by
  simp [Json.equalsInt, Json.number?, FloatValue.eq]

/-- The next chunk is written after what is there. -/
theorem applyNext_holding
    (valid : guard.validatePath (.string remoteName) = .ok path)
    {key : Text} {size : Nat} {data : Bytes} {workspace : Workspace World}
    (holding : Holding files path remoteName key size data workspace)
    (incomplete : data.length ≠ size) (chunk : Bytes) :
    Ends
      (applyNext .strict (uploadingSession remoteName key size data.length)
        (.int data.length) chunk (fileWriter host guard)) workspace
      (fun _ after =>
        Holding files path remoteName key size (data ++ chunk) after)
      (fun _ _ => True) := by
  have natural : ∀ position,
      (Json.int data.length).integer? = some position → 0 ≤ position := by
    intro position isInteger
    rw [← Option.some.inj isInteger]
    exact Int.natCast_nonneg _
  unfold applyNext writeChunk
  rw [Ends.bind_iff, Ends.bind_iff, ends_onWorld_iff]
  refine (fileWriter_ends files remoteName chunk workspace.world
    natural).mono (fun _ world wrote => ?_) fun _ _ _ => trivial
  obtain ⟨target, position, validAgain, isInteger, written⟩ := wrote
  have sameTarget : target = path :=
    Except.ok.inj (validAgain.symm.trans valid)
  have samePosition : position.toNat = data.length := by
    rw [← Option.some.inj isInteger]
    exact Int.toNat_natCast _
  rw [sameTarget, samePosition, holding.content, Option.getD_some,
    overwrite_length] at written
  have holds : files.content world path = some (data ++ chunk) := by
    rw [written, Function.update_self]
  rw [Ends.of_run_ok (updateSession_run_known _
    (by exact holding.session incomplete))]
  dsimp only
  rw [if_neg (by decide)]
  unfold finishChunk
  simp only [Ends.bind_iff, Ends.get_iff, uploadingSession,
    Dict.get?_set_self]
  split
  · next complete =>
      rw [Ends.bind_iff, Ends.modify_iff]
      refine ⟨holds, fun still => absurd ?_ still⟩
      rw [List.length_append]
      exact_mod_cast (equalsInt_int_iff.mp complete).symm
  · refine ⟨holds, fun _ => ?_⟩
    rw [Dict.get?_set_self, uploadingSession, List.length_append,
      Nat.cast_add]

/-- The request of the client for the next chunk. -/
theorem handlePutChunk_holding
    (valid : guard.validatePath (.string remoteName) = .ok path)
    {key : Text} (identified : (Json.string key).truthy = true) {size : Nat}
    {data chunk payload : Bytes} {workspace : Workspace World}
    (decoded : mixedModeDecode host payload =
      .ok (.object (PutChunkHandler.buildRequest (.string key) data.length
        chunk).metadata, chunk))
    (holding : Holding files path remoteName key size data workspace)
    (incomplete : data.length ≠ size) {value : HandlerResult}
    (returned : ((handlePutChunk host guard .strict payload).run
      workspace).1 = .ok value) :
    Holding files path remoteName key size (data ++ chunk)
      ((handlePutChunk host guard .strict payload).run workspace).2 := by
  have asks : PutChunkRequest host payload (.string key) (.int data.length)
      (.int chunk.length) chunk :=
    { read := ⟨_, decoded, rfl, rfl, rfl⟩
      identified
      placed := by simp
      measured := by simp }
  have applied : Ends (applyChunk host .strict (.string key)
      (.int data.length) chunk (fileWriter host guard)) workspace
      (fun _ after =>
        Holding files path remoteName key size (data ++ chunk) after)
      (fun _ _ => True) := by
    have behind : ¬ FloatValue.lt (.finite (data.length : Int))
        (.finite (data.length : Int)) = true := by
      simp [FloatValue.lt]
    have next : FloatValue.eq (.finite (data.length : Int))
        (.finite (data.length : Int)) = true := by
      simp [FloatValue.eq]
    have run : (applyChunk host .strict (.string key) (.int data.length) chunk
        (fileWriter host guard)).run workspace =
          (applyNext .strict (uploadingSession remoteName key size data.length)
            (.int data.length) chunk (fileWriter host guard)).run
              workspace := by
      rw [applyChunk_run_known (holding.session incomplete)]
      exact (if_neg behind).trans (if_pos next)
    unfold Ends
    rw [run]
    exact applyNext_holding valid holding incomplete chunk
  have ends : Ends (applyRequested host guard .strict (.string key)
      (.int data.length) (.int chunk.length) chunk) workspace
      (fun _ after =>
        Holding files path remoteName key size (data ++ chunk) after)
      (fun _ _ => True) := by
    unfold applyRequested
    rw [equalsInt_int_iff.mpr rfl, if_neg (by simp)]
    refine applied.bind ?_
    exact fun _ _ holds => holds
  rw [handlePutChunk_of_request asks] at returned ⊢
  exact ends_of_fst (ends_rescue_returned ends) returned

/-! ## Getting the file -/

/-- The metadata of a file that is sent. -/
def fileInfo (filename : Text) (content : Bytes) : Json :=
  .object [("filename", .string filename), ("size", .int content.length)]

/-- The request of the client for the file. -/
theorem handleGet_run
    (valid : guard.validatePath (.string remoteName) = .ok path)
    {payload content : Bytes} {world : World}
    (nonempty : payload ≠ [])
    (loaded : host.loadBytes payload =
      .ok (.object (GetHandler.buildRequest remoteName).metadata))
    (fits : (content.length : Int) ≤ maxFileSize)
    (holds : files.content world path = some content) :
    (handleGet host guard payload).run world =
      (.ok (.data (fileInfo remoteName content) (some content)), world) := by
  have named : remoteName ≠ [] := by
    rintro rfl
    cases valid
  have asks : GetRequest host guard payload remoteName path :=
    { nonempty
      read := ⟨_, loaded, if_neg named⟩
      valid }
  have present := files.pathExists_of_content holds
  rw [handleGet_of_request asks, rescue_run]
  have read : (readRequested host path remoteName).run world =
      (.ok (.data (fileInfo remoteName content) (some content)), world) := by
    simp only [readRequested, Action.run_bind, requireFile_run, present,
      files.getsize_run holds, if_true]
    rw [if_neg (not_lt.mpr fits), Action.run_bind, files.readFile_run holds]
    rfl
  rw [read]

/-- What the client makes of the reply to a GET: the content if the response
can be sent, and an error otherwise. -/
theorem result_of_sent
    (trips : host.JsonRoundTrips) {header : AppHeader}
    {reply : Except PyError HandlerResult} {decoded : Response}
    {content : Bytes} {got : ExecuteResult}
    (encodable : Encodable header.opcode header.requestId)
    (responds : AgentServer.responseTo host header reply ≠ [])
    (read : decodeResponse host (AgentServer.responseTo host header reply) =
      .ok decoded)
    (parsed : (FileOperation.get remoteName).parseResponse decoded = .ok got)
    (sent : reply = .ok (.data (fileInfo remoteName content) (some content))) :
    (Sendable host (fileInfo remoteName content) (some content) →
        got = { status := .int 200, data := some (.bytes content) }) ∧
      (¬ Sendable host (fileInfo remoteName content) (some content) →
        got.status.equalsInt 200 = false) := by
  rw [sent] at responds read
  constructor
  · intro sendable
    rw [decodeResponse_of_sendable trips encodable sendable] at read
    rw [← Except.ok.inj read] at parsed
    exact (Except.ok.inj parsed).symm
  · intro unsendable
    have reads := reads_of_responseTo trips
      (fun value returned => ⟨_, _, (Except.ok.inj returned).symm⟩) responds
      read
    have failed : decoded.status.equalsInt 200 = false := by
      by_contra succeeded
      rw [Bool.not_eq_false] at succeeded
      obtain ⟨info, binary, same, sendable, _⟩ := reads.of_status succeeded
      obtain ⟨rfl, rfl⟩ := HandlerResult.data.inj (Except.ok.inj same)
      exact unsendable sendable
    rw [status_of_parseResponse parsed failed, failed]

/-! ## As calls of the client -/

section Calls

variable {payload message : Bytes} {header : AppHeader}

/-- PUT_META over a link on which the file is left alone. -/
theorem putMeta_remote
    (trips : host.JsonRoundTrips)
    (valid : guard.validatePath (.string remoteName) = .ok path) {size : Nat}
    (payloaded : payloadOf host
      (PutMetaHandler.buildRequest remoteName size true) = .ok payload)
    (payload_eq : message.drop headerSize = payload)
    (opcode : header.opcode = opPutMeta)
    (framed : frame? message = some header) :
    RemoteCall host guard clientId
      (Undisturbed files path remoteName guard clientId) message header
      (fun _ => True)
      (Replies host header (Started files path remoteName size)) := by
  have routed : handlers.lookup header.opcode = some .putMeta := by
    rw [opcode]
    rfl
  have loaded := loadBytes_of_payloadOf trips rfl payloaded
  rw [← payload_eq] at loaded
  refine .of_fileAction framed routed rfl
    (fun state call undisturbed => undisturbed.answers)
    (fun workspace _ => handlePutMeta_started valid loaded workspace)
    (fun _ _ _ _ _ => trivial) ?_
  intro reply state call foreign undisturbed started value returned
  obtain ⟨key, entries, binary, data, identified, holding⟩ :=
    started value returned
  exact ⟨key, entries, binary, data, identified,
    holding.spared (undisturbed.spares foreign)⟩

/-- What a chunk does where it is applied. -/
def Extended
    (files : FileSystem host) (path remoteName key : Text) (size : Nat)
    (data : Bytes) (reply : Except PyError HandlerResult)
    (workspace : Workspace World) : Prop :=
  ∀ value, reply = .ok value →
    Holding files path remoteName key size data workspace

/-- PUT_CHUNK for the next chunk. -/
theorem putChunk_remote
    (trips : host.JsonRoundTrips)
    (valid : guard.validatePath (.string remoteName) = .ok path)
    {key : Text} (identified : (Json.string key).truthy = true) {size : Nat}
    {data chunk : Bytes} (incomplete : data.length ≠ size)
    (payloaded : payloadOf host
      (PutChunkHandler.buildRequest (.string key) data.length chunk) =
        .ok payload)
    (payload_eq : message.drop headerSize = payload)
    (opcode : header.opcode = opPutChunk)
    (framed : frame? message = some header) :
    RemoteCall host guard clientId
      (Undisturbed files path remoteName guard clientId) message header
      (Holding files path remoteName key size data)
      (Replies host header
        (Extended files path remoteName key size (data ++ chunk))) := by
  have routed : handlers.lookup header.opcode = some .putChunk := by
    rw [opcode]
    rfl
  have decoded := mixedModeDecode_of_payloadOf trips rfl payloaded
  rw [← payload_eq] at decoded
  refine .of_fileAction framed routed rfl
    (fun state call undisturbed => undisturbed.answers)
    (fun workspace holding value returned =>
      handlePutChunk_holding valid identified decoded holding incomplete
        returned)
    (fun state call foreign undisturbed holding =>
      holding.spared (undisturbed.spares foreign)) ?_
  intro reply state call foreign undisturbed extended value returned
  exact (extended value returned).spared (undisturbed.spares foreign)

/-- What GET does: it returns the content, which stays. -/
def Sent
    (files : FileSystem host) (path remoteName : Text) (content : Bytes)
    (reply : Except PyError HandlerResult) (workspace : Workspace World) :
    Prop :=
  reply = .ok (.data (fileInfo remoteName content) (some content)) ∧
    files.content workspace.world path = some content

/-- GET for a file on the server. -/
theorem get_remote
    (trips : host.JsonRoundTrips)
    (valid : guard.validatePath (.string remoteName) = .ok path)
    {content : Bytes} (fits : (content.length : Int) ≤ maxFileSize)
    (payloaded : payloadOf host (GetHandler.buildRequest remoteName) =
      .ok payload)
    (payload_eq : message.drop headerSize = payload)
    (opcode : header.opcode = opGet)
    (framed : frame? message = some header) :
    RemoteCall host guard clientId
      (Undisturbed files path remoteName guard clientId) message header
      (fun workspace => files.content workspace.world path = some content)
      (Replies host header (Sent files path remoteName content)) := by
  have routed : handlers.lookup header.opcode = some .get := by
    rw [opcode]
    rfl
  have loaded := loadBytes_of_payloadOf trips rfl payloaded
  obtain ⟨rest, braced⟩ := Host.head?_of_dumpBytes trips.braces payloaded
  have nonempty : payload ≠ [] := by
    rw [braced]
    exact List.cons_ne_nil _ _
  rw [← payload_eq] at loaded nonempty
  refine .of_fileAction framed routed rfl
    (fun state call undisturbed => undisturbed.answers) ?_
    (fun state call foreign undisturbed holds =>
      (undisturbed.spares foreign).content.trans holds)
    (fun reply state call foreign undisturbed sent =>
      ⟨sent.1, (undisturbed.spares foreign).content.trans sent.2⟩)
  intro workspace holds
  have run : (onWorld (handleGet host guard (message.drop headerSize))).run
      workspace =
        (.ok (.data (fileInfo remoteName content) (some content)),
          workspace) := by
    change (((handleGet host guard (message.drop headerSize)).run
        workspace.world).1,
      ({ workspace with
        world := ((handleGet host guard (message.drop headerSize)).run
          workspace.world).2 } : Workspace World)) = _
    rw [handleGet_run valid nonempty loaded fits holds]
  rw [run]
  exact ⟨rfl, holds⟩

end Calls

end Server

end RudpAgentStack

import RudpAgentStack.Agent.ClientIsolation
import RudpAgentStack.Agent.FailingHost

/-!
# Answers to requests

A request that is well framed is answered with an envelope for it, unless it is
refused with a text that repeats so much of what the client sent that the
response does not fit an envelope.  Then the dispatcher raises, and the server
answers with nothing.
-/

namespace RudpAgentStack

open Foundation

variable {World : Type} {host : Host World} {guard : PolicyGuard}

/-- An envelope with a request id and an opcode that announces the length of
its payload. -/
def IsResponse (requestId opcode : Int) (response : Bytes) : Prop :=
  ∃ header, frame? response = some header ∧ header.requestId = requestId ∧
    header.opcode = opcode

theorem not_isResponse_nil (requestId opcode : Int) :
    ¬ IsResponse requestId opcode [] := by
  rintro ⟨header, framed, _⟩
  revert framed
  exact nofun

/-- What is built is a response. -/
theorem isResponse_of_buildResponse
    {opcode requestId : Int} {statusCode : ErrorCode} {value : Json}
    {errorMessage : Option Text} {content : Option Bytes} {response : Bytes}
    (built : ResponseBuilder.buildResponse host opcode requestId statusCode
      value errorMessage content = .ok response) :
    IsResponse requestId opcode response := by
  have encoded : ∃ payloadBytes,
      encodeMessage opcode 0 requestId payloadBytes = .ok response := by
    rw [buildResponse_eq] at built
    split at built
    · exact ⟨_, built⟩
    · cases dumped : host.dumpBytes ResponseBuilder.fallbackDict with
      | error error =>
        rw [dumped] at built
        cases built
      | ok payloadBytes =>
        rw [dumped] at built
        exact ⟨payloadBytes, built⟩
  obtain ⟨payloadBytes, encoded⟩ := encoded
  exact ⟨_, (frame?_of_encodeMessage encoded).1, rfl, rfl⟩

theorem isResponse_of_buildErrorResponse
    {opcode requestId : Int} {errorCode : ErrorCode} {message : Text}
    {response : Bytes}
    (built : ResponseBuilder.buildErrorResponse host opcode requestId errorCode
      message = .ok response) :
    IsResponse requestId opcode response :=
  isResponse_of_buildResponse built

/-! ## Responses to exceptions -/

theorem buildErrorResponse_eq
    (modest : ModestHost host) (opcode requestId : Int) (errorCode : ErrorCode)
    (message : Text) :
    ∃ payloadBytes,
      payloadBytes.length =
        ((ResponseBuilder.payloadDict errorCode (some message) .null).write
          false).length ∧
      ResponseBuilder.buildErrorResponse host opcode requestId errorCode
          message =
        encodeMessage opcode 0 requestId payloadBytes := by
  obtain ⟨payloadBytes, dumped, length_eq⟩ :=
    modest.dumpBytes_errorDict errorCode message
  refine ⟨payloadBytes, length_eq, ?_⟩
  rw [ResponseBuilder.buildErrorResponse, buildResponse_eq]
  simp only [serialize, dumped]

/-- The response to an error is built when it fits an envelope. -/
theorem buildErrorResponse_of_fits
    (modest : ModestHost host) {opcode requestId : Int}
    (encodable : Encodable opcode requestId) {errorCode : ErrorCode}
    {message : Text}
    (fits : (((ResponseBuilder.payloadDict errorCode (some message)
      .null).write false).length : Int) ≤ maxPayloadLen) :
    ∃ response, ResponseBuilder.buildErrorResponse host opcode requestId
      errorCode message = .ok response := by
  obtain ⟨payloadBytes, length_eq, built⟩ :=
    buildErrorResponse_eq modest opcode requestId errorCode message
  rw [built]
  rw [← length_eq] at fits
  exact encodeMessage_of_length encodable fits

/-- Otherwise building it raises an exception again. -/
theorem buildErrorResponse_of_tooLong
    (modest : ModestHost host) {opcode requestId : Int} {errorCode : ErrorCode}
    {message : Text}
    (tooLong : maxPayloadLen < ((ResponseBuilder.payloadDict errorCode
      (some message) .null).write false).length) :
    ∃ error, ResponseBuilder.buildErrorResponse host opcode requestId
      errorCode message = .error error := by
  obtain ⟨payloadBytes, length_eq, built⟩ :=
    buildErrorResponse_eq modest opcode requestId errorCode message
  rw [built]
  rw [← length_eq] at tooLong
  exact encodeMessage_of_tooLong tooLong

namespace Dispatcher

variable {header : AppHeader} {error : PyError}

/-- The response to a text of moderate length fits an envelope. -/
theorem fits_of_modest (modest : error.Modest 70000) :
    ((errorText error).length : Int) ≤ maxPayloadLen := by
  have short := length_mapError_le modest (by decide)
  have written :=
    (length_write_payloadDict (mapError error).1 (mapError error).2).2
  have limit : maxPayloadLen = 1048576 := rfl
  rw [limit, errorText, errorDict]
  omega

/-! ## Refusals -/

variable {payload : Bytes} {now : Readings} {state : AgentState World}

theorem onWorkspace_run_fst {α : Type} (action : Action (Workspace World) α) :
    ((onWorkspace action).run state).1 = (action.run state.workspace).1 := rfl

/-- A chunk that cannot be applied is refused. -/
theorem runHandler_of_applyChunk
    {uploadId offset chunkLen : Json} {chunkData : Bytes} {message : Text}
    (request : PutChunkRequest host payload uploadId offset chunkLen chunkData)
    (agreed : chunkLen.equalsInt chunkData.length = true)
    (refused : (UploadSessionManager.applyChunk host .strict uploadId offset
      chunkData (fileWriter host guard)).run state.workspace =
        (.error ⟨.valueError, message⟩, state.workspace)) :
    ((runHandler host guard .putChunk header payload none now).run state).1 =
      .error ⟨.valueError, "Invalid metadata format: " ++ message⟩ := by
  simp only [runHandler, onWorkspace_run_fst,
    handlePutChunk_of_request request, rescue_run, applyRequested, agreed,
    Bool.true_eq_false, if_false, Action.run_bind, refused]
  rfl

/-- A request that is refused with a repeating text is always refused so. -/
theorem runHandler_of_repeats
    {handler : Handler}
    (repeated : Repeats host guard handler payload state.workspace error) :
    ((runHandler host guard handler header payload none now).run state).1 =
      .error error := by
  cases repeated with
  | getMissing request missing =>
    simp only [runHandler, onWorkspace_run_fst, onWorld_run,
      handleGet_of_request request, rescue_run, readRequested,
      Action.run_bind, requireFile_run, missing]
    rfl
  | appendMissing request missing =>
    simp only [runHandler, onWorkspace_run_fst, onWorld_run,
      handleAppend_of_request request, rescue_run, appendRequested,
      Action.run_bind, requireFile_run, missing]
    rfl
  | uploadTooLarge request tooLarge =>
    simp only [runHandler, onWorkspace_run_fst,
      handlePutMeta_of_request request, rescue_run, startUpload, tooLarge]
    rfl
  | uploadPresent request fits present =>
    simp only [runHandler, onWorkspace_run_fst,
      handlePutMeta_of_request request, rescue_run, startUpload, fits,
      Bool.false_eq_true, if_false, Action.run_bind, onWorld_run,
      Host.exists?_run, present]
    rfl
  | chunkMismatch request mismatch =>
    simp only [runHandler, onWorkspace_run_fst,
      handlePutChunk_of_request request, rescue_run, applyRequested, mismatch]
    rfl
  | sessionUnknown request agreed noArray noObject unknown =>
    exact runHandler_of_applyChunk request agreed
      (UploadSessionManager.applyChunk_run_refused
        (UploadSessionManager.getSession_run_unknown noArray noObject unknown))
  | chunkOverlap request agreed known number early beyond =>
    refine runHandler_of_applyChunk request agreed ?_
    rw [UploadSessionManager.applyChunk_run_known known, number]
    simp only [early, beyond, Bool.false_eq_true, if_true, if_false]
  | chunkOutOfOrder request agreed known number notEarly notNext =>
    refine runHandler_of_applyChunk request agreed ?_
    rw [UploadSessionManager.applyChunk_run_known known, number]
    simp only [notEarly, notNext, Bool.false_eq_true, if_true, if_false]

end Dispatcher

/-! ## The dispatcher -/

/-- Every refusal of the request that repeats what the client sent has a
response that fits an envelope. -/
def RefusalsFit
    (host : Host World) (guard : PolicyGuard) (header : AppHeader)
    (payload : Bytes) (workspace : Workspace World) : Prop :=
  ∀ handler error, handlers.lookup header.opcode = some handler →
    Repeats host guard handler payload workspace error →
    ((Dispatcher.errorText error).length : Int) ≤ maxPayloadLen

/-- Every response in the cache is one for its key. -/
def IdempotencyCache.Answering (cache : IdempotencyCache) : Prop :=
  ∀ clientId requestId opcode entry,
    cache.get? (clientId, requestId, opcode) = some entry →
    IsResponse requestId opcode entry.value

namespace IdempotencyCache

variable {cache : IdempotencyCache}

theorem answering_empty : Answering .empty := by
  intro clientId requestId opcode entry present
  cases present

theorem Answering.isResponse_of_answer?
    (answering : cache.Answering) {clientId : Text} {requestId opcode : Int}
    {now : ℚ} {response : Bytes}
    (answer : cache.answer? (clientId, requestId, opcode) now =
      some response) :
    IsResponse requestId opcode response := by
  obtain ⟨found, _⟩ := answer?_eq_some_iff.mp answer
  obtain ⟨entry, present, _, rfl⟩ := TtlCache.find?_eq_some_iff.mp found
  exact answering _ _ _ _ present

theorem Answering.lookup
    (answering : cache.Answering) (key : IdempotencyKey) (now : ℚ) :
    Answering (TtlCache.lookup idempotencyTtl cache key now).2 := by
  intro clientId requestId opcode entry present
  rw [TtlCache.get?_lookup] at present
  split at present
  · next same =>
      rw [TtlCache.liveEntry, Option.filter_eq_some_iff, ← same] at present
      exact answering _ _ _ _ present.1
  · exact answering _ _ _ _ present

theorem Answering.store
    (answering : cache.Answering) (clientId : Text) {requestId opcode : Int}
    {response : Bytes} (isResponse : IsResponse requestId opcode response)
    (now : ℚ) :
    Answering
      (TtlCache.store cache (clientId, requestId, opcode) response now) := by
  intro otherClient otherRequest otherOpcode entry present
  rw [TtlCache.get?_store] at present
  split at present
  · next same =>
      cases same
      cases present
      exact isResponse
  · exact answering _ _ _ _ present

end IdempotencyCache

/-- A dispatch leaves responses in the cache when it returns one. -/
theorem TaskHandler.CacheEffect.answering
    {header : AppHeader} {now : Readings} {cache stored : IdempotencyCache}
    {result : Except PyError Bytes}
    (effect : CacheEffect header now cache result stored)
    (answering : cache.Answering)
    (returned : ∀ response, result = .ok response →
      IsResponse header.requestId header.opcode response) :
    stored.Answering := by
  cases effect with
  | untouched => exact answering
  | looked => exact answering.lookup _ _
  | stored response unanswered =>
      exact (answering.lookup _ _).store _ (returned response rfl) _

namespace Dispatcher

variable
  {header : AppHeader} {payload : Bytes} {now : Readings}
  {state : AgentState World}

theorem envelope_of_responded {value : HandlerResult} {response : Bytes}
    (responded : respond host header value = .ok response) :
    envelope host header (.ok value) = .ok response := by
  simp only [envelope, bind, Except.bind, responded]

theorem envelope_of_refused {value : HandlerResult} {error : PyError}
    (refused : respond host header value = .error error) :
    envelope host header (.ok value) = respondError host header error := by
  simp only [envelope, bind, Except.bind, refused]

/-- The envelope for a sound result is a response. -/
theorem isResponse_of_envelope
    {conduct : Conduct host guard} {result : Except PyError HandlerResult}
    (sound : ∀ value ∈ result.toOption, value.Sound conduct header)
    {response : Bytes} (enveloped : envelope host header result = .ok response) :
    IsResponse header.requestId header.opcode response := by
  cases result with
  | error error => exact isResponse_of_buildErrorResponse enveloped
  | ok value =>
    cases responded : respond host header value with
    | ok responseBytes =>
      rw [envelope_of_responded responded] at enveloped
      cases enveloped
      cases value with
      | bytes envelope =>
        cases responded
        obtain ⟨value, built⟩ := sound _ rfl
        exact isResponse_of_buildResponse built
      | data content binaryContent =>
        exact isResponse_of_buildResponse responded
    | error error =>
      rw [envelope_of_refused responded] at enveloped
      exact isResponse_of_buildErrorResponse enveloped

/-- There is an envelope for a sound result, and for an exception whose
response fits. -/
theorem envelope_returns
    (modest : ModestHost host)
    (encodable : Encodable header.opcode header.requestId)
    {result : Except PyError HandlerResult}
    (sound : ∀ value ∈ result.toOption,
      value.Sound (modest.answering guard) header)
    (fits : ∀ error, result = .error error →
      ((errorText error).length : Int) ≤ maxPayloadLen) :
    ∃ response, envelope host header result = .ok response := by
  cases result with
  | error error =>
    exact buildErrorResponse_of_fits modest encodable (fits error rfl)
  | ok value =>
    cases responded : respond host header value with
    | ok response => exact ⟨response, envelope_of_responded responded⟩
    | error error =>
      rw [envelope_of_refused responded]
      cases value with
      | bytes envelope => cases responded
      | data content binaryContent =>
        have failure : Failure (modest.answering guard) [] error :=
          failure_of_buildResponse (sound _ rfl) responded
        exact buildErrorResponse_of_fits modest encodable
          (fits_of_modest (failure.modest modest (by decide)))

/-- What a handler returns is sound, and what it raises has a response that
fits, if the refusals have. -/
theorem runHandler_answers
    (modest : ModestHost host) {handler : Handler}
    (routed : handlers.lookup header.opcode = some handler)
    (sent : (payload.length : Int) ≤ maxPayloadLen)
    (unshared : sharedAnswer? host header payload now state.cache = none) :
    (∀ value ∈ (((runHandler host guard handler header payload none now).run
        (called handler header payload state)).1).toOption,
      value.Sound (modest.answering guard) header) ∧
    (RefusalsFit host guard header payload state.workspace →
      ∀ error, ((runHandler host guard handler header payload none now).run
          (called handler header payload state)).1 = .error error →
        ((errorText error).length : Int) ≤ maxPayloadLen) := by
  have shared_called : sharedAnswer? host header payload now
      (called handler header payload state).cache = none := unshared
  have allowed : TaskWritesAllowed (modest.answering guard) header payload :=
    modest.taskWritesAllowed header payload
  have ends := runHandler_ends routed trivial shared_called allowed
  unfold Ends at ends
  generalize (runHandler host guard handler header payload none now).run
    (called handler header payload state) = handled at ends
  obtain ⟨error | value, after⟩ := handled
  · refine ⟨nofun, ?_⟩
    rintro refusalsFit _ ⟨⟩
    rcases ends.1 with failure | repeated
    · exact fits_of_modest (failure.modest modest sent)
    · exact refusalsFit handler error routed repeated
  · refine ⟨?_, nofun⟩
    rintro _ ⟨⟩
    exact ends.1

/-- Whatever the dispatcher returns is a response to the request. -/
theorem isResponse_of_dispatch
    (modest : ModestHost host) (answering : state.cache.Answering)
    (sent : (payload.length : Int) ≤ maxPayloadLen) {response : Bytes}
    (returned : ((dispatch host guard header payload none now).run state).1 =
      .ok response) :
    IsResponse header.requestId header.opcode response := by
  cases shared : sharedAnswer? host header payload now state.cache with
  | some answer =>
    rw [dispatch_of_sharedAnswer? host guard shared] at returned
    cases returned
    exact answering.isResponse_of_answer? (answer?_of_sharedAnswer? host shared)
  | none =>
  cases routed : handlers.lookup header.opcode with
  | none =>
    rw [dispatch_run_unknown host guard routed] at returned
    exact isResponse_of_buildErrorResponse returned
  | some handler =>
    rw [dispatch_run host guard routed] at returned
    exact isResponse_of_envelope
      (runHandler_answers modest routed sent shared).1 returned

/-- The dispatcher returns exactly when the refusals of the request fit. -/
theorem dispatch_returns_iff
    (modest : ModestHost host)
    (encodable : Encodable header.opcode header.requestId)
    (sent : (payload.length : Int) ≤ maxPayloadLen) :
    (∃ response, ((dispatch host guard header payload none now).run state).1 =
        .ok response) ↔
      RefusalsFit host guard header payload state.workspace := by
  cases routed : handlers.lookup header.opcode with
  | none =>
    have refusalsFit : RefusalsFit host guard header payload
        state.workspace := by
      intro handler error found
      rw [routed] at found
      cases found
    rw [dispatch_run_unknown host guard routed]
    refine iff_of_true (buildErrorResponse_of_fits modest encodable ?_)
      refusalsFit
    have written := (length_write_payloadDict .badRequest
      ("Unknown Opcode: " ++ Text.ofInt header.opcode)).2
    have opcodeRange := encodable.opcode
    have shown : (Text.ofInt header.opcode).length ≤ 20 :=
      length_ofInt_le opcodeRange.1 (by omega)
    have start : ("Unknown Opcode: " : String).length = 16 := rfl
    have limit : maxPayloadLen = 1048576 := rfl
    rw [List.length_append, length_ofString, start] at written
    omega
  | some handler =>
  constructor
  · rintro ⟨response, returned⟩ other error found repeated
    rw [routed] at found
    cases found
    by_contra tooLong
    obtain ⟨failure, refused⟩ : ∃ failure,
        respondError host header error = .error failure :=
      buildErrorResponse_of_tooLong modest (not_le.mp tooLong)
    have raised : ((runHandler host guard handler header payload none now).run
        (called handler header payload state)).1 = .error error :=
      runHandler_of_repeats repeated
    rw [dispatch_run host guard routed, raised] at returned
    cases refused.symm.trans returned
  · intro refusalsFit
    cases shared : sharedAnswer? host header payload now state.cache with
    | some answer =>
      rw [dispatch_of_sharedAnswer? host guard shared]
      exact ⟨answer, rfl⟩
    | none =>
      obtain ⟨sound, fits⟩ := runHandler_answers modest routed sent shared
      rw [dispatch_run host guard routed]
      exact envelope_returns modest encodable sound (fits refusalsFit)

end Dispatcher

/-! ## The server -/

namespace AgentServer

variable {call : Call} {header : AppHeader} {state : AgentState World}

variable (guard) in
/-- What the dispatcher returns for a well-framed request is a response to
it. -/
theorem isResponse_of_returned
    (modest : ModestHost host) (answering : state.cache.Answering)
    (framed : frame? call.data = some header) (response : Bytes)
    (returned : ((Dispatcher.dispatch host guard header
      (call.data.drop headerSize) none call.now).run
        (ownLookedUp call.clientId header call.now state)).1 = .ok response) :
    IsResponse header.requestId header.opcode response := by
  obtain ⟨_, length_eq, fits⟩ := of_frame? framed
  rw [length_eq] at fits
  exact Dispatcher.isResponse_of_dispatch modest (answering.lookup _ _) fits
    returned

/-- Step lemma: the responses in the cache stay responses for their keys. -/
theorem serve_answering
    (modest : ModestHost host) (answering : state.cache.Answering)
    (call : Call) :
    (serve host guard state call).2.cache.Answering := by
  apply serve_keeps host guard fun state => state.cache.Answering
  · exact answering
  intro header framed own
  have returned := isResponse_of_returned guard modest answering framed
  have kept := (Dispatcher.dispatch_cacheEffect host guard header
    (call.data.drop headerSize) call.now
    (ownLookedUp call.clientId header call.now state)).answering
      (answering.lookup _ _) returned
  rw [serve_of_unanswered host guard framed own]
  unfold carryOut
  generalize (Dispatcher.dispatch host guard header
    (call.data.drop headerSize) none call.now).run
    (ownLookedUp call.clientId header call.now state) = dispatched
    at returned kept
  obtain ⟨error | response, after⟩ := dispatched
  · exact kept
  · exact kept.store call.clientId (returned response rfl) call.now.store

/-- Run lemma: the responses in the cache are responses for their keys. -/
theorem run_answering
    (modest : ModestHost host) (world : World) (calls : List Call) :
    (run host guard (new world) calls).cache.Answering := by
  apply run_keeps host guard fun state => state.cache.Answering
  · exact IdempotencyCache.answering_empty
  · intro state call answering
    exact serve_answering modest answering call

/-- In whatever state the calls before have left the server, a well-framed
request is answered with an envelope for it exactly when it has an answer in
the cache or its refusals fit an envelope. -/
theorem serve_answered_iff
    (modest : ModestHost host) (world : World) (calls : List Call)
    (call : Call) {header : AppHeader}
    (framed : frame? call.data = some header) :
    IsResponse header.requestId header.opcode
        (serve host guard (run host guard (new world) calls) call).1 ↔
      ((run host guard (new world) calls).cache.answer?
          (requestKey call.clientId header) call.now.lookup).isSome = true ∨
        RefusalsFit host guard header (call.data.drop headerSize)
          (run host guard (new world) calls).workspace := by
  have answering : (run host guard (new world) calls).cache.Answering :=
    run_answering modest world calls
  generalize run host guard (new world) calls = state at answering
  rw [serve_of_framed host guard framed]
  cases own : state.cache.answer? (requestKey call.clientId header)
      call.now.lookup with
  | some response =>
    rw [processFrame_of_answer? host guard own]
    exact iff_of_true (answering.isResponse_of_answer? own) (.inl rfl)
  | none =>
  obtain ⟨encodable, length_eq, fits⟩ := of_frame? framed
  rw [length_eq] at fits
  have returns : (∃ response,
      ((Dispatcher.dispatch host guard header (call.data.drop headerSize) none
        call.now).run (ownLookedUp call.clientId header call.now state)).1 =
          .ok response) ↔ _ :=
    Dispatcher.dispatch_returns_iff modest encodable fits
  have isResponse := isResponse_of_returned guard modest answering framed
  rw [processFrame_of_answer?_none host guard own]
  simp only [Option.isSome_none, Bool.false_eq_true, false_or]
  change _ ↔ RefusalsFit host guard header (call.data.drop headerSize)
    (ownLookedUp call.clientId header call.now state).workspace
  rw [← returns]
  unfold carryOut
  generalize (Dispatcher.dispatch host guard header
    (call.data.drop headerSize) none call.now).run
    (ownLookedUp call.clientId header call.now state) = dispatched
    at isResponse
  obtain ⟨error | response, after⟩ := dispatched
  · exact iff_of_false (not_isResponse_nil _ _) nofun
  · exact iff_of_true (isResponse response rfl) ⟨response, rfl⟩

/-- The equivalence holds of a chunk for a session with a short id. -/
theorem serve_answered_iff_shortSessionId :
    ∃ header, frame? (Sample.longChunkCall 8).data = some header ∧
      (IsResponse header.requestId header.opcode
          (serve (Sample.failingHost 8) Sample.policyGuard
            (run (Sample.failingHost 8) Sample.policyGuard (new ()) [])
            (Sample.longChunkCall 8)).1 ↔
        ((run (Sample.failingHost 8) Sample.policyGuard (new ())
            []).cache.answer?
              (requestKey (Sample.longChunkCall 8).clientId header)
              (Sample.longChunkCall 8).now.lookup).isSome = true ∨
          RefusalsFit (Sample.failingHost 8) Sample.policyGuard header
            ((Sample.longChunkCall 8).data.drop headerSize)
            (run (Sample.failingHost 8) Sample.policyGuard (new ())
              []).workspace) := by
  obtain ⟨header, framed, _⟩ :=
    Sample.longChunkRequest_framed (show 0 < 8 by decide) (by decide)
  exact ⟨header, framed,
    serve_answered_iff (Sample.failingHost_modest 8) () [] _ framed⟩

/-- A chunk for an unknown session is refused with the id of the session, and
for a long id that does not fit an envelope. -/
theorem not_refusalsFit_longChunkRequest
    {count : Nat} (long : 1048492 ≤ count) {header : AppHeader}
    (isChunk : header.opcode = opPutChunk)
    (request : PutChunkRequest (Sample.failingHost count)
      ((Sample.longChunkCall count).data.drop headerSize)
      (.string (Sample.longSessionId count)) (.int 0) (.int 0) []) :
    ¬ RefusalsFit (Sample.failingHost count) guard header
      ((Sample.longChunkCall count).data.drop headerSize)
      (new ()).workspace := by
  intro refusalsFit
  have routed : handlers.lookup header.opcode = some .putChunk := by
    rw [isChunk]
    rfl
  let refusal : PyError :=
    ⟨.valueError, "Invalid metadata format: " ++
      (Text.ofString "Session " ++ Sample.longSessionId count ++
        " not found")⟩
  have fits : ((Dispatcher.errorText refusal).length : Int) ≤ maxPayloadLen :=
    refusalsFit _ _ routed
      (.sessionUnknown request (by decide) nofun nofun fun _ _ => rfl)
  have written : refusal.message.length + 42 ≤
      (Dispatcher.errorText refusal).length :=
    Dispatcher.length_errorText (.inr rfl)
  have start : ("Invalid metadata format: " : String).length = 25 := rfl
  have middle : ("Session " : String).length = 8 := rfl
  have finish : (" not found" : String).length = 10 := rfl
  have message_eq : refusal.message.length = count + 43 := by
    simp only [refusal, List.length_append, length_ofString, start, middle,
      finish, Sample.longSessionId, List.length_replicate]
    omega
  have limit : maxPayloadLen = 1048576 := rfl
  omega

/-- Its request is not answered. -/
theorem longChunkRequest_not_answered :
    ∃ header,
      frame? (Sample.longChunkCall 1048516).data = some header ∧
      ¬ IsResponse header.requestId header.opcode
        (serve (Sample.failingHost 1048516) Sample.policyGuard (new ())
          (Sample.longChunkCall 1048516)).1 := by
  have unanswered : ∀ count, 1048492 ≤ count → count + 50 ≤ 1048576 →
      ∃ header, frame? (Sample.longChunkCall count).data = some header ∧
        ¬ IsResponse header.requestId header.opcode
          (serve (Sample.failingHost count) Sample.policyGuard (new ())
            (Sample.longChunkCall count)).1 := by
    intro count long short
    obtain ⟨header, framed, isChunk, _, request⟩ :=
      Sample.longChunkRequest_framed (show 0 < count by omega) short
    refine ⟨header, framed, fun isResponse => ?_⟩
    have answered := (serve_answered_iff (Sample.failingHost_modest count) ()
      [] (Sample.longChunkCall count) framed).mp isResponse
    rcases answered with cached | refusalsFit
    · cases cached
    · exact not_refusalsFit_longChunkRequest long isChunk request refusalsFit
  exact unanswered 1048516 (by omega) (by omega)

end AgentServer

end RudpAgentStack

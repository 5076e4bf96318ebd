import RudpAgentStack.Agent.Answers
import RudpAgentStack.Agent.FileRequests
import RudpAgentStack.Client.AgentClient

/-!
# What a client reads from the answer to a file operation

The handlers of files return data, never an envelope of their own.  So the
answer to a file operation is either the data of the handler with status 200 or
an error with another status, and a client that can read it can tell which.
-/

namespace RudpAgentStack

open Foundation

variable {World : Type} {host : Host World} {guard : PolicyGuard}

/-! ## The handlers of files -/

/-- What a handler of files does to the workspace. -/
def Handler.fileAction?
    (host : Host World) (guard : PolicyGuard) (payload : Bytes) :
    Handler → Option (Action (Workspace World) HandlerResult)
  | .list => some (onWorld (handleList host guard))
  | .putMeta => some (handlePutMeta host guard payload)
  | .putChunk => some (handlePutChunk host guard .strict payload)
  | .get => some (onWorld (handleGet host guard payload))
  | .append => some (onWorld (handleAppend host guard payload))
  | .task => none

/-- The computation returns data. -/
def ReturnsData {State : Type} (action : Action State HandlerResult) : Prop :=
  ∀ state, Ends action state
    (fun result _ => ∃ content binary, result = .data content binary)
    (fun _ _ => True)

namespace ReturnsData

variable {State α : Type}

theorem data (content : Json) (binary : Option Bytes) :
    ReturnsData (pure (.data content binary) : Action State HandlerResult) :=
  fun _ => ⟨content, binary, rfl⟩

theorem raises (error : PyError) :
    ReturnsData (throw error : Action State HandlerResult) :=
  fun _ => trivial

theorem bind
    (first : Action State α) {rest : α → Action State HandlerResult}
    (returns : ∀ value, ReturnsData (rest value)) :
    ReturnsData (first >>= rest) := by
  intro state
  rw [Ends.bind_iff]
  have harmless : Ends first state (fun _ _ => True) (fun _ _ => True) :=
    Ends.true_iff.mpr trivial
  exact harmless.mono (fun value after _ => returns value after)
    fun _ _ _ => trivial

theorem ite
    {condition : Prop} [Decidable condition]
    {first second : Action State HandlerResult}
    (onTrue : ReturnsData first) (onFalse : ReturnsData second) :
    ReturnsData (if condition then first else second) := by
  split
  · exact onTrue
  · exact onFalse

theorem rescued
    {caught : ErrorKind → Bool} {replacement : Text → Text}
    {action : Action State HandlerResult} (returns : ReturnsData action) :
    ReturnsData (rescue caught replacement action) := by
  intro state
  have ends := returns state
  unfold Ends at ends ⊢
  rw [rescue_run]
  generalize action.run state = result at ends ⊢
  obtain ⟨error | value, after⟩ := result
  · trivial
  · exact ends

theorem inWorld {action : Action World HandlerResult}
    (returns : ReturnsData action) : ReturnsData (onWorld action) := by
  intro workspace
  rw [ends_onWorld_iff]
  exact returns workspace.world

end ReturnsData

theorem handleList_returnsData (host : Host World) (guard : PolicyGuard) :
    ReturnsData (handleList host guard) := by
  unfold handleList
  repeat refine ReturnsData.bind _ fun _ => ?_
  exact .data _ _

theorem handleGet_returnsData
    (host : Host World) (guard : PolicyGuard) (payload : Bytes) :
    ReturnsData (handleGet host guard payload) := by
  rcases handleGet_cases host guard payload with
    ⟨filename, absPath, request⟩ | ⟨error, _, refused⟩
  · rw [handleGet_of_request request]
    apply ReturnsData.rescued
    unfold readRequested
    refine .bind _ fun _ => .bind _ fun _ => .ite (.raises _) ?_
    exact .bind _ fun _ => .data _ _
  · rw [refused]
    exact .raises _

theorem handleAppend_returnsData
    (host : Host World) (guard : PolicyGuard) (payload : Bytes) :
    ReturnsData (handleAppend host guard payload) := by
  rcases handleAppend_cases host guard payload with
    ⟨filename, absPath, binaryData, request⟩ | ⟨error, _, refused⟩
  · rw [handleAppend_of_request request]
    apply ReturnsData.rescued
    unfold appendRequested
    refine .bind _ fun _ => .bind _ fun _ => .ite (.raises _) ?_
    exact .bind _ fun _ => .bind _ fun _ => .data _ _
  · rw [refused]
    exact .raises _

theorem handlePutMeta_returnsData
    (host : Host World) (guard : PolicyGuard) (payload : Bytes) :
    ReturnsData (handlePutMeta host guard payload) := by
  rcases handlePutMeta_cases host guard payload with
    ⟨filename, absPath, totalSize, size, overwrite, request⟩ |
      ⟨error, _, refused⟩
  · rw [handlePutMeta_of_request request]
    apply ReturnsData.rescued
    unfold startUpload
    refine .ite (.raises _) (.bind _ fun _ => .ite (.raises _) ?_)
    refine .bind _ fun _ => .bind _ fun _ => .bind _ fun _ => .data _ _
  · rw [refused]
    exact .raises _

theorem handlePutChunk_returnsData
    (host : Host World) (guard : PolicyGuard) (mode : UploadMode)
    (payload : Bytes) :
    ReturnsData (handlePutChunk host guard mode payload) := by
  rcases handlePutChunk_cases host guard mode payload with
    ⟨uploadId, offset, chunkLen, chunkData, request⟩ | ⟨error, _, refused⟩
  · rw [handlePutChunk_of_request request]
    apply ReturnsData.rescued
    unfold applyRequested
    exact .ite (.raises _) (.bind _ fun _ => .data _ _)
  · rw [refused]
    exact .raises _

theorem Handler.fileAction?_returnsData
    {handler : Handler} {payload : Bytes}
    {action : Action (Workspace World) HandlerResult}
    (acts : handler.fileAction? host guard payload = some action) :
    ReturnsData action := by
  cases handler with
  | list =>
      rw [← Option.some.inj acts]
      exact (handleList_returnsData host guard).inWorld
  | putMeta =>
      rw [← Option.some.inj acts]
      exact handlePutMeta_returnsData host guard payload
  | putChunk =>
      rw [← Option.some.inj acts]
      exact handlePutChunk_returnsData host guard .strict payload
  | get =>
      rw [← Option.some.inj acts]
      exact (handleGet_returnsData host guard payload).inWorld
  | append =>
      rw [← Option.some.inj acts]
      exact (handleAppend_returnsData host guard payload).inWorld
  | task => exact absurd acts (by simp [fileAction?])

/-! ## How the server answers -/

namespace AgentServer

variable {state : AgentState World} {call : Call} {header : AppHeader}
  {handler : Handler} {action : Action (Workspace World) HandlerResult}

/-- The response to what a handler returned or raised, empty if there is
none. -/
def responseTo
    (host : Host World) (header : AppHeader)
    (result : Except PyError HandlerResult) : Bytes :=
  (Dispatcher.envelope host header result).toOption.getD []

/-- The response of a request that is carried out. -/
theorem carryOut_response
    {clientId : Text} {payload : Bytes} {now : Readings} :
    (carryOut host guard clientId header payload now state).1 =
      ((Dispatcher.dispatch host guard header payload none now).run
        state).1.toOption.getD [] := by
  unfold carryOut
  generalize (Dispatcher.dispatch host guard header payload none now).run
    state = result
  obtain ⟨error | responseBytes, after⟩ := result <;> rfl

/-- A handler of files acts on the workspace alone. -/
theorem runHandler_eq_onWorkspace {payload : Bytes} {now : Readings}
    (acts : handler.fileAction? host guard payload = some action) :
    Dispatcher.runHandler host guard handler header payload none now =
      Dispatcher.onWorkspace action := by
  cases handler with
  | task => exact absurd acts (by simp [Handler.fileAction?])
  | _ =>
      rw [← Option.some.inj acts]
      rfl

/-- A file operation that is not answered from the cache acts on the
workspace, and is answered with what came of it. -/
theorem serve_of_fileAction
    (framed : frame? call.data = some header)
    (own : state.cache.answer? (requestKey call.clientId header)
      call.now.lookup = none)
    (routed : handlers.lookup header.opcode = some handler)
    (acts : handler.fileAction? host guard (call.data.drop headerSize) =
      some action) :
    (serve host guard state call).1 =
        responseTo host header (action.run state.workspace).1 ∧
      (serve host guard state call).2.workspace =
        (action.run state.workspace).2 := by
  rw [serve_of_unanswered host guard framed own, carryOut_response,
    carryOut_workspace, Dispatcher.dispatch_run host guard routed,
    runHandler_eq_onWorkspace acts]
  exact ⟨rfl, rfl⟩

/-- A non-empty response to a file operation is an envelope with the id of the
request. -/
theorem isResponse_of_responseTo
    (acts : ∃ payload, handler.fileAction? host guard payload = some action)
    {workspace : Workspace World}
    (responds : responseTo host header (action.run workspace).1 ≠ []) :
    IsResponse header.requestId header.opcode
      (responseTo host header (action.run workspace).1) := by
  obtain ⟨payload, acts⟩ := acts
  have data := Handler.fileAction?_returnsData acts workspace
  unfold Ends at data
  unfold responseTo at responds ⊢
  generalize action.run workspace = result at data responds ⊢
  cases enveloped : Dispatcher.envelope host header result.1 with
  | error error =>
      rw [enveloped] at responds
      exact absurd rfl responds
  | ok response =>
  obtain ⟨error | value, after⟩ := result
  · exact isResponse_of_buildErrorResponse enveloped
  · obtain ⟨content, binary, rfl⟩ := data
    cases responded :
        Dispatcher.respond host header (.data content binary) with
    | ok envelope =>
        rw [Dispatcher.envelope_of_responded responded] at enveloped
        rw [← Except.ok.inj enveloped]
        exact isResponse_of_buildResponse responded
    | error error =>
        rw [Dispatcher.envelope_of_refused responded] at enveloped
        exact isResponse_of_buildErrorResponse enveloped

end AgentServer

/-! ## How the client reads the answer -/

/-- `json.loads` reads what `json.dumps` has written, and objects are written
in braces. -/
structure Host.JsonRoundTrips (host : Host World) : Prop where
  readsBack : ∀ value, host.ReadsBack value
  braces : host.BracesObjects

namespace AgentClient

open ResponseBuilder (statusDict)

/-- The response of a success can be serialised and is not too long. -/
def Sendable
    (host : Host World) (content : Json) (binary : Option Bytes) : Prop :=
  ∃ payload, ResponseBuilder.serialize host 200 content none binary =
      .ok payload ∧
    (payload.length : Int) ≤ maxPayloadLen

/-- What a client can read from an answer: the data of a success, or an error
with another status. -/
inductive Reads (host : Host World) :
    Except PyError HandlerResult → Response → Prop
  | success (content : Json) (binary : Option Bytes)
      (sendable : Sendable host content binary) :
      Reads host (.ok (.data content binary))
        ⟨.int 200, statusDict 200 none content, binary⟩
  | failure (result : Except PyError HandlerResult) (code : ErrorCode)
      (message : Text) (different : code ≠ .ok) :
      Reads host result
        ⟨.int code.value, statusDict code.value (some message) .null, none⟩

/-- No other status equals 200. -/
theorem not_equalsInt_of_ne_ok {code : ErrorCode} (different : code ≠ .ok) :
    (Json.int code.value).equalsInt 200 = false := by
  cases code with
  | ok => exact absurd rfl different
  | _ => decide

/-- A success is read from the answer to a success. -/
theorem Reads.of_status
    {result : Except PyError HandlerResult} {response : Response}
    (reads : Reads host result response)
    (succeeded : response.status.equalsInt 200 = true) :
    ∃ content binary, result = .ok (.data content binary) ∧
      Sendable host content binary ∧
      response = ⟨.int 200, statusDict 200 none content, binary⟩ := by
  cases reads with
  | success content binary sendable =>
      exact ⟨content, binary, rfl, sendable, rfl⟩
  | failure _ code message different =>
      rw [not_equalsInt_of_ne_ok different] at succeeded
      exact absurd succeeded Bool.false_ne_true

/-- A message is read as its payload. -/
theorem decodeResponse_of_encodeMessage
    {opcode requestId : Int} {payload message : Bytes}
    (encoded : encodeMessage opcode 0 requestId payload = .ok message) :
    decodeResponse host message = decodePayload host payload ∧
      (payload.length : Int) ≤ maxPayloadLen := by
  obtain ⟨framed, payload_eq⟩ := frame?_of_encodeMessage encoded
  have decoded := (decodeHeader_of_frame? framed).1
  have fits := (of_frame? framed).2.2
  refine ⟨?_, fits⟩
  rw [decodeResponse, decoded]
  dsimp only [bind, Except.bind]
  rw [if_neg (not_lt.mpr fits), payload_eq, Int.toNat_natCast,
    List.take_length]

theorem mapError_ne_ok (error : PyError) :
    (Dispatcher.mapError error).1 ≠ .ok := by
  unfold Dispatcher.mapError
  dsimp only
  split_ifs <;> simp

variable (trips : host.JsonRoundTrips)

include trips in
/-- What the client reads from what `build_response` builds: what it was built
from, or that the response could not be serialised. -/
theorem decodeResponse_of_buildResponse
    {opcode requestId : Int} {code : ErrorCode} {data : Json}
    {errorMessage : Option Text} {binary : Option Bytes} {message : Bytes}
    (built : ResponseBuilder.buildResponse host opcode requestId code data
      errorMessage binary = .ok message) :
    ((∃ payload, ResponseBuilder.serialize host code.value data errorMessage
          binary = .ok payload ∧ (payload.length : Int) ≤ maxPayloadLen) ∧
        decodeResponse host message =
          .ok ⟨.int code.value, statusDict code.value errorMessage data,
            binary⟩) ∨
      decodeResponse host message =
        .ok ⟨.int 500, statusDict 500
          (some "Response serialization failed") .null, none⟩ := by
  rw [ResponseBuilder.buildResponse_eq, ResponseBuilder.buildStatusResponse]
    at built
  cases serialized : ResponseBuilder.serialize host code.value data
      errorMessage binary with
  | ok payload =>
      rw [serialized] at built
      have encoded : encodeMessage opcode 0 requestId payload = .ok message :=
        built
      obtain ⟨read, fits⟩ := decodeResponse_of_encodeMessage encoded
      left
      refine ⟨⟨payload, rfl, fits⟩, ?_⟩
      rw [read]
      exact decodePayload_of_serialize trips.braces (trips.readsBack _)
        serialized fits
  | error error =>
      rw [serialized] at built
      cases dumped : host.dumpBytes ResponseBuilder.fallbackDict with
      | error error =>
          rw [dumped] at built
          exact absurd built (by simp [bind, Except.bind])
      | ok payload =>
          rw [dumped] at built
          have encoded :
              encodeMessage opcode 0 requestId payload = .ok message := built
          obtain ⟨read, fits⟩ := decodeResponse_of_encodeMessage encoded
          have serializedAgain : ResponseBuilder.serialize host 500 .null
              (some "Response serialization failed") none = .ok payload :=
            dumped
          right
          rw [read]
          exact decodePayload_of_serialize trips.braces (trips.readsBack _)
            serializedAgain fits

include trips in
/-- What the client reads from the response to an exception. -/
theorem exists_code_of_respondError
    {header : AppHeader} {error : PyError} {response : Bytes}
    {decoded : Response}
    (responded : Dispatcher.respondError host header error = .ok response)
    (read : decodeResponse host response = .ok decoded) :
    ∃ code message, code ≠ ErrorCode.ok ∧
      decoded =
        ⟨.int code.value, statusDict code.value (some message) .null,
          none⟩ := by
  have built : ResponseBuilder.buildResponse host header.opcode
      header.requestId (Dispatcher.mapError error).1 .null
      (some (Dispatcher.mapError error).2) none = .ok response := responded
  rcases decodeResponse_of_buildResponse trips built with ⟨_, same⟩ | failed
  · rw [read] at same
    exact ⟨_, _, mapError_ne_ok error, Except.ok.inj same⟩
  · rw [read] at failed
    exact ⟨.internalServerError, _, by decide, Except.ok.inj failed⟩

include trips in
theorem reads_of_respondError
    {header : AppHeader} {error : PyError} {response : Bytes}
    {decoded : Response} (result : Except PyError HandlerResult)
    (responded : Dispatcher.respondError host header error = .ok response)
    (read : decodeResponse host response = .ok decoded) :
    Reads host result decoded := by
  obtain ⟨code, message, different, rfl⟩ :=
    exists_code_of_respondError trips responded read
  exact .failure _ _ _ different

include trips in
/-- What the client reads from the answer to a file operation. -/
theorem reads_of_responseTo
    {header : AppHeader} {result : Except PyError HandlerResult}
    (data : ∀ value, result = .ok value →
      ∃ content binary, value = .data content binary)
    {decoded : Response}
    (responds : AgentServer.responseTo host header result ≠ [])
    (read : decodeResponse host (AgentServer.responseTo host header result) =
      .ok decoded) :
    Reads host result decoded := by
  unfold AgentServer.responseTo at responds read
  cases enveloped : Dispatcher.envelope host header result with
  | error error =>
      rw [enveloped] at responds
      exact absurd rfl responds
  | ok response =>
  rw [enveloped] at read
  change decodeResponse host response = .ok decoded at read
  cases result with
  | error error => exact reads_of_respondError trips _ enveloped read
  | ok value =>
  obtain ⟨content, binary, rfl⟩ := data value rfl
  cases responded :
      Dispatcher.respond host header (.data content binary) with
  | error error =>
      rw [Dispatcher.envelope_of_refused responded] at enveloped
      exact reads_of_respondError trips _ enveloped read
  | ok envelope =>
      rw [Dispatcher.envelope_of_responded responded] at enveloped
      rw [← Except.ok.inj enveloped] at read
      have built : ResponseBuilder.buildResponse host header.opcode
          header.requestId .ok content none binary = .ok envelope := responded
      rcases decodeResponse_of_buildResponse trips built with
        ⟨sendable, same⟩ | failed
      · rw [read] at same
        rw [Except.ok.inj same]
        exact .success content binary sendable
      · rw [read] at failed
        rw [Except.ok.inj failed]
        exact .failure _ .internalServerError _ (by decide)

include trips in
/-- A success that can be sent is read as it is. -/
theorem decodeResponse_of_sendable
    {header : AppHeader} {content : Json} {binary : Option Bytes}
    (encodable : Encodable header.opcode header.requestId)
    (sendable : Sendable host content binary) :
    decodeResponse host (AgentServer.responseTo host header
        (.ok (.data content binary))) =
      .ok ⟨.int 200, statusDict 200 none content, binary⟩ := by
  obtain ⟨payload, serialized, fits⟩ := sendable
  obtain ⟨message, encoded⟩ := encodeMessage_of_length encodable fits
  have responded : Dispatcher.respond host header (.data content binary) =
      .ok message := by
    change ResponseBuilder.buildStatusResponse host header.opcode
      header.requestId 200 content none binary = _
    unfold ResponseBuilder.buildStatusResponse
    rw [serialized]
    exact encoded
  unfold AgentServer.responseTo
  rw [Dispatcher.envelope_of_responded responded]
  change decodeResponse host message = _
  rw [(decodeResponse_of_encodeMessage encoded).1]
  exact decodePayload_of_serialize trips.braces (trips.readsBack _) serialized
    fits

end AgentClient

end RudpAgentStack

import RudpAgentStack.Client.RequestLink

/-!
# Operations over a link with delays

An operation on files, from the request the client builds to the result it
parses.  If it returns at all then the server has carried it out once; so what
its handler does to a workspace decides what the client is told and what the
workspace is like afterwards.
-/

namespace RudpAgentStack

open Foundation RequestLink

variable {World State : Type} {host : Host World} {guard : PolicyGuard}
  {clientId : Text} {start : AgentState World}
  {Admits : AgentState World → Call → Prop} {ids : Set Int}
  {before : Workspace World → Prop}
  {post : Except PyError HandlerResult → Workspace World → Prop}

/-! ## What a handler replies -/

/-- The response reports what a handler has returned or raised. -/
def Replies
    (host : Host World) (header : AppHeader)
    (post : Except PyError HandlerResult → Workspace World → Prop)
    (response : Bytes) (workspace : Workspace World) : Prop :=
  ∃ reply, response = AgentServer.responseTo host header reply ∧
    (∀ value, reply = .ok value →
      ∃ content binary, value = .data content binary) ∧
    post reply workspace

/-- What holds where a computation returns. -/
theorem ends_of_fst
    {σ α : Type} {action : Action σ α} {state : σ}
    {returned : α → σ → Prop} {raised : PyError → σ → Prop}
    (ends : Ends action state returned raised) {value : α}
    (returns : (action.run state).1 = .ok value) :
    returned value (action.run state).2 :=
  (Ends.iff_forall.mp ends).1 value _ (Prod.ext returns rfl)

/-- A file operation as a call: what its handler does where one thing holds of
the workspace, and what other clients leave alone. -/
theorem RequestLink.RemoteCall.of_fileAction
    {message : Bytes} {header : AppHeader} {handler : Handler}
    {action : Action (Workspace World) HandlerResult}
    (framed : frame? message = some header)
    (routed : handlers.lookup header.opcode = some handler)
    (acts : handler.fileAction? host guard (message.drop headerSize) =
      some action)
    (answers : ∀ state call, Admits state call →
      AnswersClient host guard clientId state call)
    (does : ∀ workspace, before workspace →
      post (action.run workspace).1 (action.run workspace).2)
    (keepsBefore : ∀ state call, call.clientId ≠ clientId →
      Admits state call → before state.workspace →
        before (AgentServer.serve host guard state call).2.workspace)
    (keepsPost : ∀ reply state call, call.clientId ≠ clientId →
      Admits state call → post reply state.workspace →
        post reply (AgentServer.serve host guard state call).2.workspace) :
    RemoteCall host guard clientId Admits message header before
      (Replies host header post) where
  framed := framed
  handled := by
    refine ⟨handler, routed, ?_⟩
    rintro rfl
    exact absurd acts (by simp [Handler.fileAction?])
  answers := fun state call own admitted => answers state call admitted own
  carriesOut := by
    intro state now holds carriedOut _
    obtain ⟨other, framedAgain, own⟩ :=
      AgentServer.isCarriedOut_iff.mp carriedOut
    have same : other = header :=
      Option.some.inj (framedAgain.symm.trans framed)
    rw [same] at own
    have framedCall : frame? (⟨clientId, message, now⟩ : Call).data =
        some header := framed
    have served :=
      AgentServer.serve_of_fileAction framedCall own routed acts
    rw [served.2]
    exact ⟨_, served.1, fun value returned =>
      ends_of_fst (Handler.fileAction?_returnsData acts state.workspace)
        returned,
      does state.workspace holds⟩
  keepsBefore := keepsBefore
  keepsAfter := by
    rintro _ state call foreign admitted ⟨reply, rfl, data, holds⟩
    exact ⟨reply, rfl, data,
      keepsPost reply state call foreign admitted holds⟩

namespace AgentClient

/-! ## What an operation returns -/

/-- The id of the next request, if another is not given for it. -/
def requestIdOf (client : AgentClient State) (requestIdOverride : Option Int) :
    Int :=
  nextId { client with
    activeOverride := requestIdOverride.or client.activeOverride }

variable (host guard clientId start ids post) in
/-- An operation has returned a result: the reply of a handler was read, and
no request is open. -/
structure Returned
    (operation : FileOperation) (result : ExecuteResult)
    (link : RequestLink World) : Prop where
  settled : Settled host guard clientId start ids link
  reply : ∃ header reply decoded,
    Encodable header.opcode header.requestId ∧
    (∀ value, reply = .ok value →
      ∃ content binary, value = .data content binary) ∧
    AgentServer.responseTo host header reply ≠ [] ∧
    decodeResponse host (AgentServer.responseTo host header reply) =
      .ok decoded ∧
    operation.parseResponse decoded = .ok result ∧
    post reply link.agent.workspace

variable {transport : ClientTransport State} {operation : FileOperation}
  {client : AgentClient State} {requestIdOverride : Option Int}

theorem requestAndParse_run (caller : AgentClient State) :
    (requestAndParse host transport operation).run caller =
      (((sendRequestSpec host transport operation.buildRequest).run caller).1
          >>= operation.parseResponse,
        ((sendRequestSpec host transport operation.buildRequest).run
          caller).2) := by
  unfold requestAndParse
  rw [Action.run_bind]
  generalize (sendRequestSpec host transport operation.buildRequest).run
    caller = request
  obtain ⟨error | response, after⟩ := request <;> rfl

/-- The outcome of an operation is that of its request and of the parser. -/
theorem executeOperation_run :
    let request := (sendRequestSpec host transport
      operation.buildRequest).run { client with
        activeOverride := requestIdOverride.or client.activeOverride }
    (executeOperation host transport requestIdOverride operation).run client =
      (request.1 >>= operation.parseResponse,
        { request.2 with activeOverride := client.activeOverride }) := by
  have overridden : (executeOperation host transport requestIdOverride
      operation).run client =
        let outcome := (requestAndParse host transport operation).run
          { client with
            activeOverride := requestIdOverride.or client.activeOverride }
        (outcome.1,
          { outcome.2 with activeOverride := client.activeOverride }) := rfl
  rw [overridden, requestAndParse_run]

/-- An operation that returns was carried out, and its reply was read. -/
theorem executeOperation_returned
    (link : DelayedLink host guard clientId Admits transport)
    (remote : ∀ payload message header,
      payloadOf host operation.buildRequest = .ok payload →
      message.drop headerSize = payload →
      header.opcode = operation.buildRequest.opcode →
      frame? message = some header →
        RemoteCall host guard clientId Admits message header before
          (Replies host header post))
    (unused : client.requestIdOf requestIdOverride ∉ ids)
    (settled : Settled host guard clientId start ids (link.view client.world))
    (holds : before (link.view client.world).agent.workspace)
    {result : ExecuteResult} {after : AgentClient State}
    (returns : (executeOperation host transport requestIdOverride
      operation).run client = (.ok result, after)) :
    Returned host guard clientId start
        (insert (client.requestIdOf requestIdOverride) ids) post operation
        result (link.view after.world) ∧
      after.activeOverride = client.activeOverride := by
  rw [executeOperation_run] at returns
  dsimp only at returns
  generalize overridden : ({ client with
    activeOverride := requestIdOverride.or client.activeOverride } :
      AgentClient State) = caller at returns
  have sameId : client.requestIdOf requestIdOverride = caller.nextId := by
    rw [← overridden]
    rfl
  have sameWorld : client.world = caller.world := by
    rw [← overridden]
  rw [sameId] at unused ⊢
  rw [sameWorld] at settled holds
  obtain ⟨received, rfl⟩ := Prod.mk.inj returns
  cases requested : ((sendRequestSpec host transport
      operation.buildRequest).run caller).1 with
  | error error =>
      rw [requested] at received
      cases received
  | ok decoded =>
  rw [requested] at received
  have parsed : operation.parseResponse decoded = .ok result := received
  obtain ⟨payload, message, payloaded, encoded⟩ :=
    encoded_of_sendRequestSpec requested
  obtain ⟨framed, payload_eq⟩ := frame?_of_encodeMessage encoded
  have call := remote payload message _ payloaded payload_eq rfl framed
  obtain ⟨progress, calling, reads⟩ := sendRequestSpec_attempted link call
    payloaded encoded unused settled holds
  obtain ⟨response, rfl, read⟩ := reads decoded requested
  obtain ⟨⟨reply, rfl, data, kept⟩, answered, _⟩ :=
    calling.answered response rfl
  exact ⟨⟨calling.settled framed, _, reply, decoded, (of_frame? framed).1,
    data, answered.nonempty, read, parsed, kept⟩, rfl⟩

/-- A response without status 200 is parsed as a failure. -/
theorem parseResponse_of_failed
    (operation : FileOperation) {decoded : Response}
    (failed : decoded.status.equalsInt 200 = false) :
    ∃ unknown keepsMeta, operation.parseResponse decoded =
      failedResult unknown keepsMeta decoded.status decoded.respMeta := by
  have different : ¬ decoded.status.equalsInt 200 = true := by
    rw [failed]
    exact Bool.false_ne_true
  cases operation with
  | get filename => exact ⟨_, _, if_neg different⟩
  | append filename data => exact ⟨_, _, if_neg different⟩
  | list => exact ⟨_, _, if_neg different⟩
  | putMeta filename totalSize overwrite => exact ⟨_, _, if_neg different⟩
  | putChunk uploadId offset chunkData => exact ⟨_, _, if_neg different⟩

/-- A failure keeps its status. -/
theorem status_of_parseResponse
    {decoded : Response} {result : ExecuteResult}
    (parsed : operation.parseResponse decoded = .ok result)
    (failed : decoded.status.equalsInt 200 = false) :
    result.status = decoded.status := by
  obtain ⟨unknown, keepsMeta, parsedFailed⟩ :=
    parseResponse_of_failed operation failed
  rw [parsedFailed] at parsed
  unfold failedResult at parsed
  cases read : metaGet decoded.respMeta "error" (.string unknown) with
  | error error =>
      rw [read] at parsed
      cases parsed
  | ok message =>
      rw [read] at parsed
      cases parsed
      rfl

/-- An operation that succeeds reports what its handler has returned. -/
theorem Returned.succeeded
    (trips : host.JsonRoundTrips) {result : ExecuteResult}
    {link : RequestLink World}
    (returned : Returned host guard clientId start ids post operation result
      link)
    (succeeded : result.status.equalsInt 200 = true) :
    ∃ content binary, post (.ok (.data content binary)) link.agent.workspace ∧
      operation.parseResponse
        ⟨.int 200, ResponseBuilder.statusDict 200 none content, binary⟩ =
          .ok result := by
  obtain ⟨header, reply, decoded, _, data, responds, read, parsed, holds⟩ :=
    returned.reply
  have reads := reads_of_responseTo trips data responds read
  have success : decoded.status.equalsInt 200 = true := by
    by_contra failed
    rw [Bool.not_eq_true] at failed
    rw [status_of_parseResponse parsed failed, failed] at succeeded
    exact Bool.false_ne_true succeeded
  obtain ⟨content, binary, rfl, _, rfl⟩ := reads.of_status success
  exact ⟨content, binary, holds, parsed⟩

end AgentClient

end RudpAgentStack

import RudpAgentStack.Client.Responses

/-!
# The client

`AgentClient` of `client/agent_client.py`: how it sends a request over a
transport of either kind, and repeats it when that fails.
-/

namespace RudpAgentStack

open Foundation

/-- `MAX_RETRIES` -/
def maxRetries : Nat := 5

/-- `ClientRequestSpec` -/
structure ClientRequestSpec where
  opcode : Int
  metadata : List (Text × Json)
  binary : Option Bytes := none
  /-- The encoding mode is `ENCODING_MIXED`. -/
  mixed : Bool := false

/-- `OperationResult` -/
structure OperationResult where
  status : Json
  data : Option Json := none
  error : Option Json := none

/-- What the client uses of its transport. -/
structure ClientTransport (State : Type) where
  isAsync : Bool
  /-- `send` of an asynchronous transport. -/
  send : Bytes → Int → Action State Unit
  /-- The messages an asynchronous transport hands to the client until the wait
  for a response has ended. -/
  delivered : Action State (List Bytes)
  sendBytes : Bytes → Action State Unit
  receiveExact : Nat → Action State Bytes
  close : Action State Unit

/-- A client: the last request id, the id that replaces the next one, and the
state of its transport. -/
structure AgentClient (State : Type) where
  currentId : Int := 0
  activeOverride : Option Int := none
  world : State

namespace AgentClient

variable {World State α : Type}

/-- A computation of the transport. -/
def onTransport (action : Action State α) : Action (AgentClient State) α :=
  ExceptT.mk fun client =>
    let (result, world) := action.run client.world
    (result, { client with world })

/-- The result of a computation or the exception it raised. -/
def attempted (action : Action State α) : Action State (Except PyError α) :=
  tryCatch (Except.ok <$> action) fun error => pure (.error error)

/-- The payload of a request. -/
def payloadOf (host : Host World) (spec : ClientRequestSpec) :
    Except PyError Bytes :=
  if spec.mixed then
    mixedModeEncode host (.object spec.metadata) (spec.binary.getD [])
  else host.dumpBytes (.object spec.metadata)

/-- `_on_message_received`, for the one request that is pending. -/
def onMessageReceived (pending : Int) (response : Option Bytes) (data : Bytes) :
    Option Bytes :=
  if data.length < headerSize then response
  else
    match decodeHeader (data.take headerSize) with
    | .ok header =>
        if header.requestId = pending then some data else response
    | .error _ => response

/-- The flow over an asynchronous transport. -/
def exchangeAsync
    (host : Host World) (transport : ClientTransport State) (requestId : Int)
    (message : Bytes) : Action State Response := do
  transport.send message requestId
  let messages ← transport.delivered
  match messages.foldl (onMessageReceived requestId) none with
  | none => throw ⟨.osError, "RUDP response timed out after 15.0s"⟩
  | some responseData => decodeResponse host responseData

/-- The flow over a synchronous transport. -/
def exchangeSync
    (host : Host World) (transport : ClientTransport State) (requestId : Int)
    (message : Bytes) : Action State Response := do
  transport.sendBytes message
  let headerData ← transport.receiveExact headerSize
  let header ← decodeHeader headerData
  if maxPayloadLen < header.payloadLen then
    throw ⟨.valueError, "Payload too large: " ++ Text.ofInt header.payloadLen⟩
  if header.requestId ≠ requestId then
    transport.close
    throw ⟨.osError, "Request ID Mismatch"⟩
  let payloadData ← transport.receiveExact header.payloadLen.toNat
  decodePayload host payloadData

/-- One round of the loop of `send_request_spec`. -/
def attempt
    (host : Host World) (transport : ClientTransport State)
    (opcode requestId : Int) (payload : Bytes) : Action State Response := do
  let message ← encodeMessage opcode 0 requestId payload
  if transport.isAsync then exchangeAsync host transport requestId message
  else exchangeSync host transport requestId message

/-- The exceptions after which a request is repeated.  The transports raise no
`OSError` but `ConnectionError` and `TimeoutError`. -/
def isRetryable (kind : ErrorKind) : Bool := kind.isValueError || kind.isOsError

/-- The loop of `send_request_spec`, with the number of rounds that are
left. -/
def sendLoop
    (host : Host World) (transport : ClientTransport State)
    (opcode requestId : Int) (payload : Bytes) : Nat → Action State Response
  | 0 =>
      throw ⟨.osError,
        "Max retries exceeded for ReqID=" ++ Text.ofInt requestId⟩
  | left + 1 =>
      tryCatch (attempt host transport opcode requestId payload) fun error =>
        if isRetryable error.kind then do
          unless transport.isAsync do transport.close
          sendLoop host transport opcode requestId payload left
        else throw error

/-- The request id of the next request. -/
def nextId (client : AgentClient State) : Int :=
  client.activeOverride.getD (client.currentId + 1)

/-- `send_request_spec` -/
def sendRequestSpec
    (host : Host World) (transport : ClientTransport State)
    (spec : ClientRequestSpec) : Action (AgentClient State) Response := do
  let payload ← payloadOf host spec
  let client ← get
  set { client with
    currentId := client.currentId + 1, activeOverride := none }
  onTransport (sendLoop host transport spec.opcode client.nextId payload
    (maxRetries + 1))

theorem attempted_run (action : Action State α) (state : State) :
    (attempted action).run state =
      (.ok (action.run state).1, (action.run state).2) := by
  have mapped : (Except.ok <$> action : Action State (Except PyError α)) =
      action >>= fun value => pure (.ok value) :=
    map_eq_pure_bind _ _
  rw [attempted, Action.run_tryCatch, mapped, run_bind]
  generalize action.run state = outcome
  obtain ⟨error | value, after⟩ := outcome <;> rfl

end AgentClient

/-! ## Working transports -/

/-- The transport takes the message and brings this response back, and no
other. -/
structure ClientTransport.Delivers
    {State : Type} (transport : ClientTransport State) (requestId : Int)
    (message response : Bytes) (world after : State) : Prop where
  async : transport.isAsync = true → ∃ sent,
    (transport.send message requestId).run world = (.ok (), sent) ∧
      transport.delivered.run sent = (.ok [response], after)
  sync : transport.isAsync = false → ∃ sent between,
    (transport.sendBytes message).run world = (.ok (), sent) ∧
      (transport.receiveExact headerSize).run sent =
        (.ok (response.take headerSize), between) ∧
      (transport.receiveExact (response.drop headerSize).length).run between =
        (.ok (response.drop headerSize), after)

namespace AgentClient

variable {World State : Type} {host : Host World}
  {transport : ClientTransport State} {requestId : Int}
  {message response : Bytes} {world after : State} {header : AppHeader}

/-- The payload is as long as the header of the frame says. -/
theorem payloadLen_of_frame? (framed : frame? response = some header) :
    header.payloadLen.toNat = (response.drop headerSize).length := by
  rw [← (decodeHeader_of_frame? framed).2, Int.toNat_natCast]

/-- A well-framed response for the request is decoded. -/
theorem exchangeAsync_run
    (delivers : transport.Delivers requestId message response world after)
    (isAsync : transport.isAsync = true) (framed : frame? response = some header)
    (answers : header.requestId = requestId) :
    (exchangeAsync host transport requestId message).run world =
      (decodePayload host (response.drop headerSize), after) := by
  obtain ⟨sent, sends, delivered⟩ := delivers.async isAsync
  have decoded := (decodeHeader_of_frame? framed).1
  have fits := (of_frame? framed).2.2
  have size_eq := payloadLen_of_frame? framed
  have long : ¬ response.length < headerSize :=
    not_lt.mpr (headerSize_le_of_frame? framed)
  have received : [response].foldl (onMessageReceived requestId) none =
      some response := by
    rw [List.foldl_cons, List.foldl_nil, onMessageReceived, if_neg long,
      decoded]
    exact if_pos answers
  have read : decodeResponse host response =
      decodePayload host (response.drop headerSize) := by
    rw [decodeResponse, decoded]
    dsimp only [bind, Except.bind]
    rw [if_neg (not_lt.mpr fits), size_eq, List.take_length]
  simp only [exchangeAsync, Action.run_bind, sends, delivered, received, read,
    Action.run_liftM]

theorem exchangeSync_run
    (delivers : transport.Delivers requestId message response world after)
    (isSync : transport.isAsync = false) (framed : frame? response = some header)
    (answers : header.requestId = requestId) :
    (exchangeSync host transport requestId message).run world =
      (decodePayload host (response.drop headerSize), after) := by
  obtain ⟨sent, between, sends, first, second⟩ := delivers.sync isSync
  have decoded := (decodeHeader_of_frame? framed).1
  have fits := (of_frame? framed).2.2
  have size_eq := payloadLen_of_frame? framed
  simp only [exchangeSync, Action.run_bind, Action.run_liftM, sends, first,
    decoded, if_neg (not_lt.mpr fits), answers, ne_eq, not_true_eq_false,
    if_false, size_eq, second]

/-- A round over a transport that delivers the response decodes it. -/
theorem attempt_run
    {opcode : Int} {payload : Bytes}
    (encoded : encodeMessage opcode 0 requestId payload = .ok message)
    (delivers : transport.Delivers requestId message response world after)
    (framed : frame? response = some header)
    (answers : header.requestId = requestId) :
    (attempt host transport opcode requestId payload).run world =
      (decodePayload host (response.drop headerSize), after) := by
  rw [attempt, encoded, run_bind]
  dsimp only [Action.run_liftM]
  cases kind : transport.isAsync with
  | true =>
      rw [if_pos rfl]
      exact exchangeAsync_run delivers kind framed answers
  | false =>
      rw [if_neg Bool.false_ne_true]
      exact exchangeSync_run delivers kind framed answers

/-- A request takes the next id and goes through the loop. -/
theorem sendRequestSpec_eq_sendLoop
    {spec : ClientRequestSpec} {client : AgentClient State} {payload : Bytes}
    (payloaded : payloadOf host spec = .ok payload) :
    (sendRequestSpec host transport spec).run client =
      (((sendLoop host transport spec.opcode client.nextId payload
          (maxRetries + 1)).run client.world).1,
        { currentId := client.currentId + 1
          activeOverride := none
          world := ((sendLoop host transport spec.opcode client.nextId payload
            (maxRetries + 1)).run client.world).2 }) := by
  rw [sendRequestSpec, payloaded]
  rfl

/-- A request over such a transport is sent once. -/
theorem sendRequestSpec_run
    {spec : ClientRequestSpec} {client : AgentClient State} {payload : Bytes}
    {decoded : Response}
    (payloaded : payloadOf host spec = .ok payload)
    (encoded : encodeMessage spec.opcode 0 client.nextId payload = .ok message)
    (delivers :
      transport.Delivers client.nextId message response client.world after)
    (framed : frame? response = some header)
    (answers : header.requestId = client.nextId)
    (read : decodePayload host (response.drop headerSize) = .ok decoded) :
    (sendRequestSpec host transport spec).run client =
      (.ok decoded,
        { currentId := client.currentId + 1
          activeOverride := none
          world := after }) := by
  have once : (sendLoop host transport spec.opcode client.nextId payload
      (maxRetries + 1)).run client.world = (.ok decoded, after) := by
    rw [sendLoop, Action.run_tryCatch,
      attempt_run encoded delivers framed answers, read]
  rw [sendRequestSpec_eq_sendLoop payloaded, once]

end AgentClient

end RudpAgentStack

import RudpAgentStack.Client.AgentClient

/-!
# The synchronous transport

`TCPClient` of `client/transport/tcp_client.py`, over any kind of sockets, and
what the loop of `send_request_spec` does with it.  The loop closes the
transport after an exception, and nothing connects it again: every later round
finds it closed.
-/

namespace RudpAgentStack

open Foundation AgentClient

/-- What a client uses of the sockets of its system. -/
structure SocketLayer (Socket Network : Type) where
  /-- `create_connection`, with a source address if there is one. -/
  createConnection : Text × Int → Option (Text × Int) → Action Network Socket
  sendall : Socket → Bytes → Action Network Unit
  recv : Socket → Nat → Action Network Bytes
  close : Socket → Action Network Unit
  /-- `str` of an address. -/
  addressText : Text × Int → Text

/-- `TCPClient` -/
structure TcpClient (Socket Network : Type) where
  serverAddr : Text × Int
  clientIp : Text := "NOT_SET"
  sock : Option Socket := none
  network : Network

namespace TcpClient

variable {Socket Network World α : Type} (layer : SocketLayer Socket Network)

/-- A computation of the network. -/
def onNetwork (action : Action Network α) :
    Action (TcpClient Socket Network) α :=
  ExceptT.mk fun client =>
    let (result, network) := action.run client.network
    (result, { client with network })

/-- Raise a `socket.error` again as a `ConnectionError`. -/
def reraised (message : Text → Text) (action : Action Network α) :
    Action Network α :=
  tryCatch action fun error =>
    if error.kind.isOsError then throw ⟨.osError, message error.message⟩
    else throw error

/-- `connect` -/
def connect : Action (TcpClient Socket Network) Unit := do
  let client ← get
  let source :=
    if client.clientIp = "NOT_SET" then none else some (client.clientIp, 0)
  let sock ← onNetwork
    (reraised
      (fun _ => "Failed to connect to " ++ layer.addressText client.serverAddr)
      (layer.createConnection client.serverAddr source))
  modify fun client => { client with sock := some sock }

/-- The socket of a client that is connected. -/
def connected : Action (TcpClient Socket Network) Socket := do
  let client ← get
  match client.sock with
  | some sock => return sock
  | none => throw ⟨.osError, "Not connected"⟩

/-- `send_bytes` -/
def sendBytes (data : Bytes) : Action (TcpClient Socket Network) Unit := do
  let sock ← connected
  onNetwork
    (reraised ("Socket error during send: " ++ ·) (layer.sendall sock data))

/-- The loop of `receive_exact`, given what has been read.  The exception for
a closed connection is raised inside the `try` block, and so raised again. -/
def receiveFrom (sock : Socket) (nbytes : Nat) (data : Bytes) :
    Action Network Bytes :=
  if data.length < nbytes then do
    let chunk ← reraised ("Socket error during read: " ++ ·)
      (layer.recv sock (nbytes - data.length))
    if chunk = [] then
      throw ⟨.osError, "Socket error during read: " ++
        ("Connection closed mid-read. Expected " ++ Text.ofInt nbytes ++
          ", got " ++ Text.ofInt data.length)⟩
    else receiveFrom sock nbytes (data ++ chunk)
  else return data
termination_by nbytes - data.length
decreasing_by
  have positive : 0 < chunk.length := List.length_pos_of_ne_nil (by assumption)
  rw [List.length_append]
  omega

/-- `receive_exact` -/
def receiveExact (nbytes : Nat) : Action (TcpClient Socket Network) Bytes := do
  let sock ← connected
  onNetwork (receiveFrom layer sock nbytes [])

/-- `close`; an exception of the socket is logged and not raised. -/
def close : Action (TcpClient Socket Network) Unit := do
  let client ← get
  match client.sock with
  | some sock =>
      tryCatch (onNetwork (layer.close sock)) fun _ => pure ()
      modify fun client => { client with sock := none }
  | none => return ()

/-- The client as a transport of `AgentClient`. -/
def transport : ClientTransport (TcpClient Socket Network) where
  isAsync := false
  send := fun data _ => sendBytes layer data
  delivered := return []
  sendBytes := sendBytes layer
  receiveExact := receiveExact layer
  close := close layer

variable {layer} {host : Host World}

/-! ## Closed transports -/

section

variable {client : TcpClient Socket Network}

theorem reraised_run_ok
    {action : Action Network α} {network after : Network} {value : α}
    (returns : action.run network = (.ok value, after))
    (message : Text → Text) :
    (reraised message action).run network = (.ok value, after) := by
  rw [reraised, Action.run_tryCatch, returns]

theorem reraised_run_error
    {action : Action Network α} {network after : Network} {error : PyError}
    (raises : action.run network = (.error error, after))
    (isOsError : error.kind.isOsError = true) (message : Text → Text) :
    (reraised message action).run network =
      (.error ⟨.osError, message error.message⟩, after) := by
  rw [reraised, Action.run_tryCatch, raises]
  dsimp only
  rw [if_pos isOsError]
  rfl

theorem onNetwork_run (action : Action Network α) :
    (onNetwork action).run client =
      ((action.run client.network).1,
        { client with network := (action.run client.network).2 }) := rfl

theorem connected_run :
    connected.run client =
      (client.sock.elim (.error ⟨.osError, "Not connected"⟩) .ok, client) := by
  obtain ⟨serverAddr, clientIp, sock, network⟩ := client
  cases sock <;> rfl

/-- Closing never raises. -/
theorem close_run
    (layer : SocketLayer Socket Network) (client : TcpClient Socket Network) :
    ∃ after, (close layer).run client = (.ok (), after) ∧
      after.sock = none ∧ (client.sock = none → after = client) := by
  obtain ⟨serverAddr, clientIp, sock, network⟩ := client
  cases sock with
  | none => exact ⟨_, rfl, rfl, fun _ => rfl⟩
  | some sock =>
      let client : TcpClient Socket Network :=
        ⟨serverAddr, clientIp, some sock, network⟩
      have swallows : (tryCatch (onNetwork (layer.close sock)) fun _ => pure () :
          Action (TcpClient Socket Network) Unit).run client =
            (.ok (), { client with
              network := ((layer.close sock).run network).2 }) := by
        rw [Action.run_tryCatch, onNetwork_run]
        dsimp only [client]
        generalize (layer.close sock).run network = outcome
        obtain ⟨error | value, between⟩ := outcome <;> rfl
      refine ⟨{ client with
        sock := none, network := ((layer.close sock).run network).2 },
        ?_, rfl, nofun⟩
      have closes : (close layer).run client =
          ((tryCatch (onNetwork (layer.close sock)) fun _ => pure ()) >>=
            fun _ => modify fun client => { client with sock := none } :
            Action (TcpClient Socket Network) Unit).run client := rfl
      rw [closes, Action.run_bind, swallows]
      rfl

variable {opcode requestId : Int} {payload message : Bytes}

theorem attempt_run_eq
    (encoded : encodeMessage opcode 0 requestId payload = .ok message) :
    (attempt host (transport layer) opcode requestId payload).run client =
      (exchangeSync host (transport layer) requestId message).run client := by
  rw [attempt, encoded, Action.run_bind]
  rfl

/-- A round on a closed transport raises. -/
theorem attempt_run_closed
    (closed : client.sock = none)
    (encoded : encodeMessage opcode 0 requestId payload = .ok message) :
    (attempt host (transport layer) opcode requestId payload).run client =
      (.error ⟨.osError, "Not connected"⟩, client) := by
  have sends : (sendBytes layer message).run client =
      (.error ⟨.osError, "Not connected"⟩, client) := by
    rw [sendBytes, Action.run_bind, connected_run, closed]
    rfl
  rw [attempt_run_eq encoded, exchangeSync, Action.run_bind]
  dsimp only [transport]
  rw [sends]

/-- What a request raises when its rounds are used up. -/
def exceeded (requestId : Int) : PyError :=
  ⟨.osError, "Max retries exceeded for ReqID=" ++ Text.ofInt requestId⟩

/-- Run lemma: however many rounds are left, a closed transport stays closed,
and the loop raises without reaching the network. -/
theorem sendLoop_run_closed
    (closed : client.sock = none)
    (encoded : encodeMessage opcode 0 requestId payload = .ok message)
    (left : Nat) :
    (sendLoop host (transport layer) opcode requestId payload left).run
      client = (.error (exceeded requestId), client) := by
  induction left with
  | zero => rfl
  | succ left inductionHypothesis =>
      obtain ⟨after, closes, _, unchanged⟩ := close_run layer client
      rw [unchanged closed] at closes
      rw [sendLoop, Action.run_tryCatch, attempt_run_closed closed encoded]
      change ExceptT.run (close layer >>= fun _ => sendLoop _ _ _ _ _ left)
        client = _
      rw [Action.run_bind, closes]
      exact inductionHypothesis

/-- The loop makes one round: it returns what that returns, and after an
exception the next rounds raise. -/
theorem sendLoop_run
    (encoded : encodeMessage opcode 0 requestId payload = .ok message)
    (left : Nat) :
    (∀ response after,
      (attempt host (transport layer) opcode requestId payload).run client =
        (.ok response, after) →
      (sendLoop host (transport layer) opcode requestId payload
        (left + 1)).run client = (.ok response, after)) ∧
    ∀ error after,
      (attempt host (transport layer) opcode requestId payload).run client =
        (.error error, after) →
      isRetryable error.kind = true →
      ∃ final, (close layer).run after = (.ok (), final) ∧
        final.sock = none ∧
        (sendLoop host (transport layer) opcode requestId payload
          (left + 1)).run client = (.error (exceeded requestId), final) := by
  constructor
  · intro response after returns
    rw [sendLoop, Action.run_tryCatch, returns]
  · intro error after raises retryable
    obtain ⟨final, closes, closed, _⟩ := close_run layer after
    refine ⟨final, closes, closed, ?_⟩
    rw [sendLoop, Action.run_tryCatch, raises]
    dsimp only
    rw [if_pos retryable]
    change ExceptT.run (close layer >>= fun _ => sendLoop _ _ _ _ _ left)
      after = _
    rw [Action.run_bind, closes]
    exact sendLoop_run_closed closed encoded left

end

end TcpClient

end RudpAgentStack

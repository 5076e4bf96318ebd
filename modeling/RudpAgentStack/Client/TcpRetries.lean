import RudpAgentStack.Client.TcpClient
import RudpAgentStack.Transport.TcpServer

/-!
# Retries over the synchronous transport

A network with faults between `TCPClient` and any server.  A request of a
client gets its answer exactly when nothing breaks its first round, although
the network has recovered long before the rounds are used up.
-/

namespace RudpAgentStack

open Foundation AgentClient

/-- A `socket.error`, for example for a connection that was reset or a timeout
that has expired. -/
abbrev SocketError : Type := { error : PyError // error.kind.isOsError = true }

/-- What disturbs a round. -/
inductive Fault
  /-- Sending raises when this much of the message has got through. -/
  | duringSend (passed : Nat) (error : SocketError)
  /-- The response breaks off after this much: reading raises, or finds the
  connection closed. -/
  | duringRead (arrived : Nat) (error : Option SocketError)

/-- The fault breaks a round with this response. -/
def Fault.Breaks (response : Bytes) : Fault → Prop
  | .duringSend _ _ => True
  | .duringRead arrived _ => arrived < response.length

/-- A network with a server behind it. -/
structure FaultyNetwork (Server : Type) where
  server : Server
  /-- The faults of the next rounds; the later ones meet none. -/
  faults : List Fault
  /-- The number of the connection in use. -/
  connection : Nat
  /-- What comes in for the client. -/
  incoming : Inflow UInt8
  /-- What reading raises when no more comes in, unless the connection has been
  closed. -/
  ending : Option SocketError
  /-- The messages that were sent, and what the server answered to those it
  received. -/
  exchanges : List (Bytes × Option Bytes) := []

namespace FaultyNetwork

def timedOut : SocketError := ⟨⟨.osError, "timed out"⟩, rfl⟩

def badDescriptor : PyError := ⟨.osError, "[Errno 9] Bad file descriptor"⟩

variable {Server : Type} (answer : Bytes → Server → Bytes × Server)

/-- Send a message to the server.  It answers a message that has got through,
whether or not sending raises. -/
def transfer (message : Bytes) (network : FaultyNetwork Server) :
    Except PyError Unit × FaultyNetwork Server :=
  let (response, server) := answer message network.server
  let answered := network.exchanges ++ [(message, some response)]
  match network.faults with
  | [] =>
      (.ok (), { network with
        server, exchanges := answered
        incoming := ⟨network.incoming.incoming ++ response,
          network.incoming.available⟩ })
  | .duringRead arrived error :: faults =>
      (.ok (), { network with
        server, faults, ending := error, exchanges := answered
        incoming := ⟨network.incoming.incoming ++ response.take arrived,
          network.incoming.available⟩ })
  | .duringSend passed error :: faults =>
      if message.length ≤ passed then
        (.error error, { network with server, faults, exchanges := answered })
      else
        (.error error, { network with
          faults, exchanges := network.exchanges ++ [(message, none)] })

/-- Read a piece of what comes in. -/
def readPiece (limit : Nat) (network : FaultyNetwork Server) :
    Except PyError Bytes × FaultyNetwork Server :=
  match network.incoming.incoming, network.ending with
  | [], some error => (.error error, network)
  | [], none => (.ok [], network)
  | _ :: _, _ =>
      let (chunk, incoming) := network.incoming.recv limit
      (.ok chunk, { network with incoming })

/-- The sockets of the network.  Connecting always works, and a socket is the
number of its connection. -/
def layer : SocketLayer Nat (FaultyNetwork Server) where
  createConnection := fun _ _ => ExceptT.mk fun network =>
    (.ok (network.connection + 1), { network with
      connection := network.connection + 1
      incoming := ⟨[], network.incoming.available⟩
      ending := some timedOut })
  sendall := fun sock message => ExceptT.mk fun network =>
    if sock = network.connection then transfer answer message network
    else (.error badDescriptor, network)
  recv := fun sock limit => ExceptT.mk fun network =>
    if sock = network.connection then readPiece limit network
    else (.error badDescriptor, network)
  close := fun sock => modify fun network =>
    if sock = network.connection then
      { network with connection := network.connection + 1 }
    else network
  addressText := fun (ip, port) =>
    "('" ++ ip ++ "', " ++ Text.ofInt port ++ ")"

/-! ## Rounds -/

variable {answer} {message : Bytes} {network after : FaultyNetwork Server}

/-- Nothing breaks the round in which this message is sent next. -/
def Unbroken (answer : Bytes → Server → Bytes × Server) (message : Bytes)
    (network : FaultyNetwork Server) : Prop :=
  ∀ fault ∈ network.faults.head?,
    ¬ fault.Breaks (answer message network.server).1

/-- In a round that nothing breaks, the whole response comes in. -/
theorem transfer_of_unbroken (unbroken : Unbroken answer message network) :
    ∃ after, transfer answer message network = (.ok (), after) ∧
      after.connection = network.connection ∧
      after.incoming.incoming = network.incoming.incoming ++
        (answer message network.server).1 ∧
      after.exchanges = network.exchanges ++
        [(message, some (answer message network.server).1)] := by
  unfold Unbroken at unbroken
  unfold transfer
  cases faults_eq : network.faults with
  | nil => exact ⟨_, rfl, rfl, rfl, rfl⟩
  | cons fault faults =>
      rw [faults_eq] at unbroken
      have spares := unbroken fault rfl
      cases fault with
      | duringSend passed error => exact absurd trivial spares
      | duringRead arrived error =>
          have complete : (answer message network.server).1.take arrived =
              (answer message network.server).1 :=
            List.take_of_length_le (not_lt.mp spares)
          exact ⟨_, rfl, rfl, by dsimp only; rw [complete], rfl⟩

/-- In a round that is broken, sending raises, or a part of the response is
all that comes in. -/
theorem transfer_of_broken (broken : ¬ Unbroken answer message network) :
    ∃ result after answered,
      transfer answer message network = (result, after) ∧
      after.connection = network.connection ∧
      after.exchanges = network.exchanges ++ [(message, answered)] ∧
      ((∃ error : SocketError, result = .error error.1) ∨
        ∃ arrived, result = .ok () ∧
          arrived < (answer message network.server).1.length ∧
          after.incoming.incoming = network.incoming.incoming ++
            (answer message network.server).1.take arrived) := by
  unfold Unbroken at broken
  unfold transfer
  cases faults_eq : network.faults with
  | nil =>
      rw [faults_eq] at broken
      exact absurd nofun broken
  | cons fault faults =>
      rw [faults_eq] at broken
      have breaks : fault.Breaks (answer message network.server).1 := by
        by_contra spares
        apply broken
        rintro other ⟨⟩
        exact spares
      cases fault with
      | duringRead arrived error =>
          exact ⟨_, _, _, rfl, rfl, rfl, .inr ⟨arrived, rfl, breaks, rfl⟩⟩
      | duringSend passed error =>
          dsimp only
          split
          · exact ⟨_, _, _, rfl, rfl, rfl, .inl ⟨error, rfl⟩⟩
          · exact ⟨_, _, _, rfl, rfl, rfl, .inl ⟨error, rfl⟩⟩

theorem layer_recv_run (limit : Nat) :
    ((layer answer).recv network.connection limit).run network =
      readPiece limit network :=
  if_pos rfl

theorem readPiece_of_arrived
    {limit : Nat} (arrives : network.incoming.incoming ≠ []) :
    readPiece limit network = (.ok (network.incoming.recv limit).1,
      { network with incoming := (network.incoming.recv limit).2 }) := by
  unfold readPiece
  cases incoming_eq : network.incoming.incoming with
  | nil => exact absurd incoming_eq arrives
  | cons byte rest => rfl

/-- Behind what has come in, reading raises or finds the connection closed. -/
theorem readPiece_of_ended
    {limit : Nat} (ended : network.incoming.incoming = []) :
    readPiece limit network =
      (network.ending.elim (.ok []) fun error => .error error.1, network) := by
  unfold readPiece
  rw [ended]
  cases network.ending <;> rfl

end FaultyNetwork

namespace TcpClient

open FaultyNetwork

variable {Server : Type} {answer : Bytes → Server → Bytes × Server}

/-- The loop reads what the loop of the server would read from the same
stream, and raises where that finds too little. -/
theorem receiveFrom_run
    (nbytes : Nat) (data : Bytes) (network : FaultyNetwork Server) :
    match TcpServerTransport.receiveExactFrom nbytes data network.incoming with
    | (some read, incoming) =>
        (receiveFrom (layer answer) network.connection nbytes data).run
          network = (.ok read, { network with incoming })
    | (none, _) => ∃ message incoming,
        (receiveFrom (layer answer) network.connection nbytes data).run
          network = (.error ⟨.osError, message⟩, { network with incoming }) := by
  generalize conn_eq : network.incoming = conn
  fun_induction TcpServerTransport.receiveExactFrom nbytes data conn
      generalizing network with
  | case1 data conn short rest received =>
      subst conn_eq
      have ended : network.incoming.incoming = [] :=
        (network.incoming.recv_eq_nil_iff (Nat.sub_pos_of_lt short)).mp
          (congrArg Prod.fst received)
      rw [receiveFrom, if_pos short, Action.run_bind]
      rcases Option.eq_none_or_eq_some network.ending with
        ending | ⟨error, ending⟩
      · have closed : ((layer answer).recv network.connection
            (nbytes - data.length)).run network = (.ok [], network) := by
          rw [layer_recv_run, readPiece_of_ended ended, ending]
          rfl
        rw [reraised_run_ok closed]
        exact ⟨_, network.incoming, rfl⟩
      · have raises : ((layer answer).recv network.connection
            (nbytes - data.length)).run network = (.error error.1, network) := by
          rw [layer_recv_run, readPiece_of_ended ended, ending]
          rfl
        rw [reraised_run_error raises error.2]
        exact ⟨_, network.incoming, rfl⟩
  | case2 data conn short byte chunk rest received inductionHypothesis =>
      subst conn_eq
      have arrives : network.incoming.incoming ≠ [] := by
        intro ended
        have nothing := (network.incoming.recv_eq_nil_iff
          (Nat.sub_pos_of_lt short)).mpr ended
        rw [received] at nothing
        cases nothing
      have returns : ((layer answer).recv network.connection
          (nbytes - data.length)).run network =
            (.ok (byte :: chunk), { network with incoming := rest }) := by
        rw [layer_recv_run, readPiece_of_arrived arrives, received]
      rw [receiveFrom, if_pos short, Action.run_bind, reraised_run_ok returns]
      dsimp only
      rw [if_neg (List.cons_ne_nil byte chunk)]
      exact inductionHypothesis { network with incoming := rest } rfl
  | case3 data conn complete =>
      subst conn_eq
      rw [receiveFrom, if_neg complete]
      rfl

/-- A socket of the client is the connection in use, and everything that came
in has been read. -/
def Ready (client : TcpClient Nat (FaultyNetwork Server)) : Prop :=
  ∀ sock, client.sock = some sock →
    sock = client.network.connection ∧ client.network.incoming.incoming = []

variable {client : TcpClient Nat (FaultyNetwork Server)}

/-- A client that has been connected is ready. -/
theorem connect_run :
    ∃ after, (connect (layer answer)).run client = (.ok (), after) ∧
      after.sock = some after.network.connection ∧ Ready after := by
  refine ⟨{ client with
    sock := some (client.network.connection + 1)
    network := { client.network with
      connection := client.network.connection + 1
      incoming := ⟨[], client.network.incoming.available⟩
      ending := some timedOut } }, ?_, rfl, ?_⟩
  · rw [connect, Action.run_bind]
    rfl
  · rintro sock ⟨⟩
    exact ⟨rfl, rfl⟩

section Opened

variable (opened : client.sock = some client.network.connection)
include opened

theorem sendBytes_run
    {message : Bytes} {network : FaultyNetwork Server}
    (sends : transfer answer message client.network = (.ok (), network)) :
    (sendBytes (layer answer) message).run client =
      (.ok (), { client with network }) := by
  have sendall : ((layer answer).sendall client.network.connection
      message).run client.network = (.ok (), network) :=
    (if_pos rfl).trans sends
  rw [sendBytes, Action.run_bind, connected_run, opened]
  dsimp only [Option.elim]
  rw [onNetwork_run, reraised_run_ok sendall, opened]

theorem sendBytes_run_error
    {message : Bytes} {network : FaultyNetwork Server} {error : SocketError}
    (raises : transfer answer message client.network =
      (.error error.1, network)) :
    ∃ text, (sendBytes (layer answer) message).run client =
      (.error ⟨.osError, text⟩, { client with network }) := by
  have sendall : ((layer answer).sendall client.network.connection
      message).run client.network = (.error error.1, network) :=
    (if_pos rfl).trans raises
  rw [sendBytes, Action.run_bind, connected_run, opened]
  dsimp only [Option.elim]
  rw [onNetwork_run, reraised_run_error sendall error.2, opened]
  exact ⟨_, rfl⟩

/-- What the stream starts with is read. -/
theorem receiveExact_run
    {nbytes : Nat} {taken rest : Bytes}
    (length_eq : taken.length = nbytes)
    (incoming : client.network.incoming.incoming = taken ++ rest) :
    ∃ available, (receiveExact (layer answer) nbytes).run client =
      (.ok taken, { client with
        network := { client.network with incoming := ⟨rest, available⟩ } }) := by
  obtain ⟨available, received⟩ :=
    TcpServerTransport.receiveExact_append length_eq incoming
  unfold TcpServerTransport.receiveExact at received
  have reads := @receiveFrom_run _ answer nbytes [] client.network
  rw [received] at reads
  refine ⟨available, ?_⟩
  rw [receiveExact, Action.run_bind, connected_run, opened]
  dsimp only [Option.elim]
  rw [onNetwork_run, reads, opened]

/-- A stream that ends too early cannot be read. -/
theorem receiveExact_run_error
    {nbytes : Nat} (short : client.network.incoming.incoming.length < nbytes) :
    ∃ text incoming, (receiveExact (layer answer) nbytes).run client =
      (.error ⟨.osError, text⟩, { client with
        network := { client.network with incoming } }) := by
  have nothing := TcpServerTransport.receiveExact_of_lt short
  unfold TcpServerTransport.receiveExact at nothing
  have reads := @receiveFrom_run _ answer nbytes [] client.network
  generalize TcpServerTransport.receiveExactFrom nbytes []
    client.network.incoming = received at nothing reads
  obtain ⟨read, rest⟩ := received
  subst nothing
  obtain ⟨text, incoming, raises⟩ := reads
  refine ⟨text, incoming, ?_⟩
  rw [receiveExact, Action.run_bind, connected_run, opened]
  dsimp only [Option.elim]
  rw [onNetwork_run, raises, opened]

variable {requestId : Int} {message : Bytes}
  (drained : client.network.incoming.incoming = [])
include drained

/-- In a round that nothing breaks, the transport delivers the response, and
is ready for the next request. -/
theorem delivers_of_unbroken
    (unbroken : Unbroken answer message client.network)
    (long : headerSize ≤ (answer message client.network.server).1.length) :
    ∃ after, (transport (layer answer)).Delivers requestId message
        (answer message client.network.server).1 client after ∧
      after.sock = some after.network.connection ∧ Ready after ∧
      after.network.exchanges = client.network.exchanges ++
        [(message, some (answer message client.network.server).1)] := by
  obtain ⟨network, sends, connection_eq, incoming_eq, exchanges_eq⟩ :=
    transfer_of_unbroken unbroken
  generalize (answer message client.network.server).1 = response at *
  have sent := sendBytes_run opened sends
  rw [drained, List.nil_append, ← List.take_append_drop headerSize response]
    at incoming_eq
  rw [← connection_eq] at opened
  have openedSent : TcpClient.sock { client with network } =
      some network.connection := opened
  have headerLength : (response.take headerSize).length = headerSize :=
    List.length_take_of_le long
  obtain ⟨betweenAvailable, first⟩ :=
    @receiveExact_run _ answer { client with network } openedSent _ _ _
      headerLength incoming_eq
  obtain ⟨afterAvailable, second⟩ :=
    @receiveExact_run _ answer
      { client with
        network := { network with
          incoming := ⟨response.drop headerSize, betweenAvailable⟩ } }
      openedSent _ _ [] rfl (List.append_nil _).symm
  refine ⟨_, ⟨nofun, fun _ => ⟨_, _, sent, first, second⟩⟩, opened, ?_,
    exchanges_eq⟩
  intro sock sock_eq
  exact ⟨Option.some.inj (sock_eq.symm.trans opened), rfl⟩

/-- In a round that is broken, the client raises after it has sent the message
once. -/
theorem exchangeSync_of_broken
    {World : Type} {host : Host World} {header : AppHeader}
    (broken : ¬ Unbroken answer message client.network)
    (framed : frame? (answer message client.network.server).1 = some header)
    (answers : header.requestId = requestId) :
    ∃ text after answered,
      (exchangeSync host (transport (layer answer)) requestId message).run
        client = (.error ⟨.osError, text⟩, after) ∧
      after.network.exchanges =
        client.network.exchanges ++ [(message, answered)] := by
  obtain ⟨result, network, answered, sends, connection_eq, exchanges_eq,
    ⟨error, rfl⟩ | ⟨arrived, rfl, short, incoming_eq⟩⟩ :=
      transfer_of_broken broken
  · obtain ⟨text, raises⟩ := sendBytes_run_error opened sends
    refine ⟨text, { client with network }, answered, ?_, exchanges_eq⟩
    simp only [exchangeSync, transport, Action.run_bind, raises]
  · have sent := sendBytes_run opened sends
    have decoded := (decodeHeader_of_frame? framed).1
    have fits := (of_frame? framed).2.2
    have size_eq := payloadLen_of_frame? framed
    generalize (answer message client.network.server).1 = response at *
    rw [drained, List.nil_append] at incoming_eq
    rw [← connection_eq] at opened
    have openedSent : TcpClient.sock { client with network } =
        some network.connection := opened
    rcases Nat.lt_or_ge arrived headerSize with withinHeader | behindHeader
    · -- the header does not arrive
      have few : network.incoming.incoming.length < headerSize := by
        rw [incoming_eq, List.length_take]
        omega
      obtain ⟨text, incoming, raises⟩ := @receiveExact_run_error _ answer
        { client with network } openedSent _ few
      refine ⟨text, { client with network := { network with incoming } },
        answered, ?_, exchanges_eq⟩
      simp only [exchangeSync, transport, Action.run_bind, sent, raises]
    · -- the header arrives, and the payload does not
      have split : network.incoming.incoming =
          response.take headerSize ++
            (response.take arrived).drop headerSize := by
        have start : (response.take arrived).take headerSize =
            response.take headerSize := by
          rw [List.take_take, Nat.min_eq_left behindHeader]
        rw [incoming_eq, ← start, List.take_append_drop]
      have headerLength : (response.take headerSize).length = headerSize :=
        List.length_take_of_le (behindHeader.trans short.le)
      obtain ⟨available, first⟩ := @receiveExact_run _ answer
        { client with network } openedSent _ _ _ headerLength split
      have few : ((response.take arrived).drop headerSize).length <
          header.payloadLen.toNat := by
        rw [size_eq, List.length_drop, List.length_take, List.length_drop]
        omega
      obtain ⟨text, incoming, raises⟩ := @receiveExact_run_error _ answer
        { client with
          network := { network with
            incoming := ⟨(response.take arrived).drop headerSize, available⟩ } }
        openedSent _ few
      refine ⟨text, { client with network := { network with incoming } },
        answered, ?_, exchanges_eq⟩
      simp only [exchangeSync, transport, Action.run_bind, Action.run_liftM,
        sent, first, decoded, if_neg (not_lt.mpr fits), answers, ne_eq,
        not_true_eq_false, if_false, raises]

end Opened

/-- Closing sends nothing. -/
theorem close_exchanges :
    ((close (layer answer)).run client).2.network.exchanges =
      client.network.exchanges := by
  obtain ⟨serverAddr, clientIp, sock, network⟩ := client
  cases sock with
  | none => rfl
  | some sock =>
      change (if sock = network.connection then _ else network).exchanges =
        network.exchanges
      split <;> rfl

end TcpClient

/-! ## Requests -/

namespace AgentClient

open TcpClient FaultyNetwork

variable {World Server : Type}

/-- The server answers a message, whatever state it is in: the answer is well
framed for the request, and can be decoded. -/
def Answers
    (host : Host World) (answer : Bytes → Server → Bytes × Server)
    (requestId : Int) (message : Bytes) : Prop :=
  ∀ server, ∃ header decoded,
    frame? (answer message server).1 = some header ∧
      header.requestId = requestId ∧
      decodePayload host ((answer message server).1.drop headerSize) =
        .ok decoded

/-- A request has come to its end: only this message has been sent, and the
caller gets the answer of the server to the last round. -/
def Succeeds
    (host : Host World) (message : Bytes) (before : FaultyNetwork Server)
    (outcome : Except PyError Response ×
      AgentClient (TcpClient Nat (FaultyNetwork Server))) : Prop :=
  ∃ exchanges,
    outcome.2.world.network.exchanges = before.exchanges ++ exchanges ∧
    (∀ exchange ∈ exchanges, exchange.1 = message) ∧
    ∃ response decoded, exchanges.getLast? = some (message, some response) ∧
      decodePayload host (response.drop headerSize) = .ok decoded ∧
      outcome.1 = .ok decoded

section

variable {host : Host World} {answer : Bytes → Server → Bytes × Server}
  {spec : ClientRequestSpec}
  {client : AgentClient (TcpClient Nat (FaultyNetwork Server))}
  {payload message : Bytes}
  (payloaded : payloadOf host spec = .ok payload)
  (encoded : encodeMessage spec.opcode 0 client.nextId payload = .ok message)
include payloaded encoded

/-- A client that is not connected gives up without sending anything. -/
theorem sendRequestSpec_of_closed (closed : client.world.sock = none) :
    (sendRequestSpec host (transport (layer answer)) spec).run client =
      (.error (exceeded client.nextId),
        ⟨client.currentId + 1, none, client.world⟩) := by
  rw [sendRequestSpec_eq_sendLoop payloaded,
    sendLoop_run_closed closed encoded]

variable (answers : Answers host answer client.nextId message)
  (opened : client.world.sock = some client.world.network.connection)
  (drained : client.world.network.incoming.incoming = [])
include answers opened drained

/-- A client whose first round is broken gives up after it has sent its
message once, and is not connected any more. -/
theorem sendRequestSpec_of_broken
    (broken : ¬ Unbroken answer message client.world.network) :
    ∃ after answered,
      (sendRequestSpec host (transport (layer answer)) spec).run client =
        (.error (exceeded client.nextId),
          ⟨client.currentId + 1, none, after⟩) ∧
      after.sock = none ∧
      after.network.exchanges =
        client.world.network.exchanges ++ [(message, answered)] := by
  obtain ⟨header, _, framed, answersId, _⟩ :=
    answers client.world.network.server
  obtain ⟨text, between, answered, raises, exchanges_eq⟩ :=
    @exchangeSync_of_broken _ answer _ opened _ _ drained _ host _ broken
      framed answersId
  rw [← attempt_run_eq encoded] at raises
  obtain ⟨after, closes, closed, gives_up⟩ :=
    (sendLoop_run encoded maxRetries).2 _ _ raises rfl
  refine ⟨after, answered, ?_, closed, ?_⟩
  · rw [sendRequestSpec_eq_sendLoop payloaded, gives_up]
  · rw [← exchanges_eq, ← @close_exchanges _ answer between, closes]

/-- A client whose first round is not broken gets the answer, and is ready for
the next request. -/
theorem sendRequestSpec_of_unbroken
    (unbroken : Unbroken answer message client.world.network) :
    ∃ after decoded,
      (sendRequestSpec host (transport (layer answer)) spec).run client =
        (.ok decoded, ⟨client.currentId + 1, none, after⟩) ∧
      decodePayload host ((answer message
        client.world.network.server).1.drop headerSize) = .ok decoded ∧
      after.sock = some after.network.connection ∧ Ready after ∧
      after.network.exchanges = client.world.network.exchanges ++
        [(message, some (answer message client.world.network.server).1)] := by
  obtain ⟨header, decoded, framed, answersId, read⟩ :=
    answers client.world.network.server
  obtain ⟨after, delivers, connected, ready, exchanges_eq⟩ :=
    @delivers_of_unbroken _ answer _ opened client.nextId _ drained unbroken
      (headerSize_le_of_frame? framed)
  exact ⟨after, decoded,
    sendRequestSpec_run payloaded encoded delivers framed answersId read,
    read, connected, ready, exchanges_eq⟩

end

/-- A request over `TCPClient` gets its answer, with this message sent in every
round, exactly when the client is connected and nothing breaks the first
round.  How soon the network has recovered makes no difference. -/
theorem sendRequestSpec_succeeds_iff
    (host : Host World) (answer : Bytes → Server → Bytes × Server)
    (spec : ClientRequestSpec)
    (client : AgentClient (TcpClient Nat (FaultyNetwork Server)))
    {payload message : Bytes}
    (payloaded : payloadOf host spec = .ok payload)
    (encoded : encodeMessage spec.opcode 0 client.nextId payload = .ok message)
    (answers : Answers host answer client.nextId message)
    (ready : Ready client.world) :
    Succeeds host message client.world.network
        ((sendRequestSpec host (transport (layer answer)) spec).run client) ↔
      client.world.sock.isSome = true ∧
        Unbroken answer message client.world.network := by
  cases sock_eq : client.world.sock with
  | none =>
      rw [sendRequestSpec_of_closed payloaded encoded sock_eq]
      apply iff_of_false
      · rintro ⟨_, _, _, _, _, _, _, ⟨⟩⟩
      · exact fun connected => nomatch connected.1
  | some sock =>
      obtain ⟨current, drained⟩ := ready sock sock_eq
      have opened := sock_eq.trans (congrArg some current)
      by_cases unbroken : Unbroken answer message client.world.network
      · obtain ⟨after, decoded, returns, read, _, _, exchanges_eq⟩ :=
          sendRequestSpec_of_unbroken payloaded encoded answers opened drained
            unbroken
        refine iff_of_true ?_ ⟨rfl, unbroken⟩
        rw [returns]
        refine ⟨_, exchanges_eq, ?_, _, decoded, rfl, read, rfl⟩
        intro exchange sent
        rw [List.mem_singleton.mp sent]
      · obtain ⟨after, answered, raises, _⟩ :=
          sendRequestSpec_of_broken payloaded encoded answers opened drained
            unbroken
        rw [raises]
        apply iff_of_false
        · rintro ⟨_, _, _, _, _, _, _, ⟨⟩⟩
        · exact fun connected => unbroken connected.2

end AgentClient

/-! ## A connection that is reset -/

namespace Sample

open AgentClient TcpClient FaultyNetwork

/-- A host that reads the empty object. -/
def emptyHost : Host MemoryHost.Files :=
  memoryHost [((Json.object []).write false, .object [])] []

def emptyRequest : ClientRequestSpec where
  opcode := 1
  metadata := []

/-- The request with the id 1. -/
def emptyMessage : Bytes := [1, 1, 0, 0, 0, 0, 0, 1, 0, 0, 0, 2, 0x7B, 0x7D]

/-- A server that counts its answers. -/
def countingServer (_ : Bytes) (count : Nat) : Bytes × Nat :=
  (emptyMessage, count + 1)

def connectionReset : SocketError :=
  ⟨⟨.osError, "[Errno 104] Connection reset by peer"⟩, rfl⟩

/-- The first round is reset before any of the message has got through. -/
def resetOnce : List Fault := [.duringSend 0 connectionReset]

/-- A client that has been connected, before rounds with these faults. -/
def connectedClient (faults : List Fault) :
    AgentClient (TcpClient Nat (FaultyNetwork Nat)) where
  world := {
    serverAddr := ("127.0.0.1", 9000)
    sock := some 1
    network := {
      server := 0, faults, connection := 1
      incoming := ⟨[], fun _ => 5⟩
      ending := some timedOut } }

theorem countingServer_answers :
    Answers emptyHost countingServer 1 emptyMessage :=
  fun _ => ⟨_, _, rfl, rfl, rfl⟩

theorem connectedClient_ready (faults : List Fault) :
    Ready (connectedClient faults).world := by
  rintro sock ⟨⟩
  exact ⟨rfl, rfl⟩

end Sample

namespace AgentClient

open TcpClient FaultyNetwork Sample

/-- A client that nothing disturbs. -/
theorem sendRequestSpec_succeeds_iff_undisturbed :
    Succeeds emptyHost emptyMessage (connectedClient []).world.network
        ((sendRequestSpec emptyHost (transport (layer countingServer))
          emptyRequest).run (connectedClient [])) ↔
      (connectedClient []).world.sock.isSome = true ∧
        Unbroken countingServer emptyMessage
          (connectedClient []).world.network :=
  sendRequestSpec_succeeds_iff emptyHost countingServer emptyRequest
    (connectedClient []) rfl rfl countingServer_answers
    (connectedClient_ready [])

/-- One reset while sending, and the network is reachable again: the client
still gives up. -/
theorem not_succeeds_reset :
    resetOnce.length ≤ maxRetries ∧
      Answers emptyHost countingServer 1 emptyMessage ∧
      ((sendRequestSpec emptyHost (transport (layer countingServer))
        emptyRequest).run (connectedClient resetOnce)).1 =
          .error ⟨.osError, "Max retries exceeded for ReqID=1"⟩ ∧
      ¬ Succeeds emptyHost emptyMessage
        (connectedClient resetOnce).world.network
        ((sendRequestSpec emptyHost (transport (layer countingServer))
          emptyRequest).run (connectedClient resetOnce)) := by
  have broken : ¬ Unbroken countingServer emptyMessage
      (connectedClient resetOnce).world.network :=
    fun unbroken => unbroken _ rfl trivial
  obtain ⟨after, answered, raises, _⟩ :=
    @sendRequestSpec_of_broken _ _ emptyHost countingServer emptyRequest
      (connectedClient resetOnce) _ _ rfl rfl countingServer_answers rfl rfl
      broken
  rw [raises]
  refine ⟨by decide, countingServer_answers, rfl, ?_⟩
  rintro ⟨_, _, _, _, _, _, _, ⟨⟩⟩

end AgentClient

end RudpAgentStack

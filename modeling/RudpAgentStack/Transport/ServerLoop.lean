import RudpAgentStack.Foundation.Machine
import RudpAgentStack.Transport.Robustness

/-!
# The server's receive loop

`_receive_loop` of `server/transport/rudp_server.py` with a message handler
that answers an address out of the messages of that address.  The handler is
called while a segment is processed, so what it sends goes out before the
acknowledgement of the segment.  An acknowledgement that does not pack raises
after all that, and the exception ends the loop.
-/

namespace RudpAgentStack

open Foundation

/-- Route a valid packet: an acknowledgement to the sender, data to the
receiver.  The acknowledgement of the data, if there is one, is returned and
not sent yet. -/
def Endpoint.route
    (endpoint : Endpoint) (packet : RUDPPacket) (currentTime : ℚ) :
    EndpointResult × Option RUDPPacket :=
  let acked :=
    if packet.isAck then
      endpoint.sender.onAckReceived packet.ackNum packet.rwnd currentTime
    else (endpoint.sender, [])
  if packet.hasData then
    let result := endpoint.receiver.processSegment packet
    ({ endpoint := { sender := acked.1, receiver := result.receiver }
       sent := acked.2
       delivered := result.delivered }, some result.ackPacket)
  else (endpoint.ofSender acked, none)

/-- With the acknowledgement sent at the end this is `demultiplex`. -/
theorem Endpoint.demultiplex_eq_route
    (endpoint : Endpoint) (packet : RUDPPacket) (currentTime : ℚ) :
    endpoint.demultiplex packet currentTime =
      { (endpoint.route packet currentTime).1 with
        sent := (endpoint.route packet currentTime).1.sent ++
          (endpoint.route packet currentTime).2.toList } := by
  unfold demultiplex route
  cases packet.hasData <;> simp [ofSender]

/-- A message handler that sends only to the address a message came from: the
data and request ids it sends when it is called with the last of the messages
of an address, after it was called with the others. -/
abbrev MessageHandler := Address → List Bytes → List (Bytes × Int)

/-- What is sent while some messages of an address are delivered after some
earlier ones. -/
def answers (respond : List Bytes → List (Bytes × Int)) :
    (earlier : List Bytes) → List Bytes → List (Bytes × Int)
  | _, [] => []
  | earlier, message :: later =>
      respond (earlier ++ [message]) ++
        answers respond (earlier ++ [message]) later

open RUDPServerTransport (Send)

/-- The calls of `send` made meanwhile.  Each of them reads the clock. -/
def replies
    (handler : MessageHandler) (addr : Address) (clock : Nat → ℚ)
    (earlier delivered : List Bytes) : List Send :=
  (answers (handler addr) earlier delivered).mapIdx fun reading reply =>
    { data := reply.1
      requestId := reply.2
      clientAddr := addr
      currentTime := clock reading }

theorem clientAddr_of_mem_replies
    {handler : MessageHandler} {addr : Address} {clock : Nat → ℚ}
    {earlier delivered : List Bytes} {call : Send}
    (member : call ∈ replies handler addr clock earlier delivered) :
    call.clientAddr = addr := by
  obtain ⟨reading, _, rfl⟩ := List.mem_mapIdx.mp member
  rfl

/-- A server transport in its receive loop. -/
structure ServerLoop where
  transport : RUDPServerTransport
  /-- `last_seen` of each connection. -/
  lastSeen : Dict Address ℚ
  /-- The messages passed to the message handler with their origin. -/
  delivered : List (Bytes × Address)
  /-- The packets handed to `send_raw_packet(packet.pack(), addr)`. -/
  sent : List (RUDPPacket × Address)
  running : Bool

namespace ServerLoop

/-- What the loop is called on.  `clock` gives what the clock shows to the
calls of `send` made while a datagram is handled. -/
inductive Event
  | datagram (data : Bytes) (addr : Address) (currentTime : ℚ)
      (clock : Nat → ℚ)
  | tick (currentTime : ℚ)

/-- A new transport whose loop has begun. -/
def start : ServerLoop where
  transport := .new
  lastSeen := .empty
  delivered := []
  sent := []
  running := true

/-- Record an operation of the transport. -/
def record (loop : ServerLoop) (result : ServerResult) : ServerLoop :=
  { loop with
    transport := result.transport
    delivered := loop.delivered ++ result.delivered
    sent := loop.sent ++ result.sent }

/-- A call of `send`. -/
def send (loop : ServerLoop) (call : Send) : ServerLoop :=
  loop.record (loop.transport.send call.data call.requestId call.clientAddr
    call.currentTime)

/-- Send the acknowledgement a segment is owed.  If `pack` raises, the
exception leaves the loop. -/
def acknowledge
    (loop : ServerLoop) (owed : Option RUDPPacket) (addr : Address) :
    ServerLoop :=
  match owed with
  | none => loop
  | some ackPacket =>
      match ackPacket.pack with
      | .error _ => { loop with running := false }
      | .ok _ => { loop with sent := loop.sent ++ [(ackPacket, addr)] }

/-- The messages of an address delivered so far. -/
def messagesFrom (loop : ServerLoop) (addr : Address) : List Bytes :=
  (loop.delivered.filter fun entry => entry.2 = addr).map Prod.fst

/-- The part of `_handle_datagram` after a datagram is unpacked, with the calls
of the message handler.  The receiver does not see what the handler sends, so
it has processed its segment when the handler is called for each message in
turn. -/
def handlePacket
    (loop : ServerLoop) (handler : MessageHandler) (packet : RUDPPacket)
    (addr : Address) (currentTime : ℚ) (clock : Nat → ℚ) : ServerLoop :=
  let routed := (loop.transport.connection addr).route packet currentTime
  let seen := { loop with lastSeen := loop.lastSeen.set addr currentTime }
  let taken := seen.record (loop.transport.store addr routed.1)
  let calls := replies handler addr clock (loop.messagesFrom addr)
    routed.1.delivered
  (calls.foldl send taken).acknowledge routed.2 addr

/-- `_handle_datagram` -/
def handleDatagram
    (loop : ServerLoop) (handler : MessageHandler) (data : Bytes)
    (addr : Address) (currentTime : ℚ) (clock : Nat → ℚ) : ServerLoop :=
  match RUDPPacket.unpack data with
  | .error _ => loop
  | .ok packet => loop.handlePacket handler packet addr currentTime clock

/-- One step.  Nothing happens any more once the loop has ended. -/
def next (handler : MessageHandler) (loop : ServerLoop) (event : Event) :
    ServerLoop :=
  if loop.running then
    match event with
    | .datagram data addr currentTime clock =>
        loop.handleDatagram handler data addr currentTime clock
    | .tick currentTime =>
        loop.record (loop.transport.tickConnections currentTime)
  else loop

/-- Runs of the receive loop. -/
def machine (handler : MessageHandler) : Machine ServerLoop Event where
  start := start
  Enabled := fun _ _ => True
  next := next handler

/-! ## Agreement with the operation that raises -/

theorem foldl_send (calls : List Send) (loop : ServerLoop) :
    calls.foldl send loop =
      { loop with
        transport := (RUDPServerTransport.sendAll calls loop.transport).1
        sent := loop.sent ++
          (RUDPServerTransport.sendAll calls loop.transport).2 } := by
  induction calls generalizing loop with
  | nil => simp [RUDPServerTransport.sendAll]
  | cons call calls inductionHypothesis =>
      rw [List.foldl_cons, inductionHypothesis]
      simp [RUDPServerTransport.sendAll, send, record,
        RUDPServerTransport.send, RUDPServerTransport.store,
        Endpoint.ofSender]

/-- Handling a datagram records what `handleDatagram?` returns, and ends the
loop if that raises.  Here the sends of the handler are listed call by call. -/
theorem handleDatagram_agrees
    {loop : ServerLoop} {count : Nat}
    (sound : RUDPServerTransport.Sound count loop.transport)
    {data : Bytes} {packet : RUDPPacket}
    (read : RUDPPacket.unpack data = .ok packet)
    (handler : MessageHandler) (addr : Address) (currentTime : ℚ)
    (clock : Nat → ℚ) (calls : List (List Send))
    (same : (calls.take
        ((loop.transport.connection addr).route packet
          currentTime).1.delivered.length).flatten =
      replies handler addr clock (loop.messagesFrom addr)
        ((loop.transport.connection addr).route packet
          currentTime).1.delivered) :
    match loop.transport.handleDatagram? data addr currentTime calls with
    | .ok result =>
        loop.handleDatagram handler data addr currentTime clock =
          { loop.record result with
            lastSeen := loop.lastSeen.set addr currentTime }
    | .error _ =>
        (loop.handleDatagram handler data addr currentTime clock).running =
          false := by
  obtain ⟨acked, returned, ackedEq, _⟩ :=
    (sound.connection addr).acknowledge?_eq packet currentTime
  simp only [handleDatagram, read, handlePacket, ← same, foldl_send]
  simp only [RUDPServerTransport.handleDatagram?, read, returned, bind,
    Except.bind, Endpoint.route, ← ackedEq]
  cases packet.hasData with
  | false =>
      simp [acknowledge, record, RUDPServerTransport.sendAll,
        Endpoint.ofSender, RUDPServerTransport.store]
  | true =>
      simp only [if_true, acknowledge]
      cases ((loop.transport.connection addr).receiver.processSegment
          packet).ackPacket.pack with
      | error error => rfl
      | ok datagram => simp [record, RUDPServerTransport.store]

end ServerLoop

end RudpAgentStack

import RudpAgentStack.Transport.Endpoints

/-!
# The server transport with its exceptions

`_handle_datagram` of `server/transport/rudp_server.py` once more, with every
operation on its way that can raise: reading a packet, looking up an unacked
segment, dividing by the congestion window, packing the acknowledgement.
`_receive_loop` guards none of them, so an exception that leaves
`_handle_datagram` ends the loop.  What the message handler sends while it is
called is part of the operation.
-/

namespace RudpAgentStack

open Foundation

/-- The exceptions that can leave `_handle_datagram`. -/
inductive TransportError
  /-- An exception of `unpack` or `pack`. -/
  | packet (error : PacketError)
  | keyError (key : Int)
  | zeroDivisionError
  deriving DecidableEq

/-! ## The sender -/

namespace RUDPSender

/-- The round-trip time is sampled only for a key found among those to
remove. -/
def sampleRtt?
    (sender : RUDPSender) (keysToRemove : List Int) (highestAcked : Int)
    (currentTime : ℚ) : Except TransportError RUDPSender :=
  if highestAcked ∈ keysToRemove then
    match sender.unackedPackets.get? highestAcked with
    | none => .error (.keyError highestAcked)
    | some _ => .ok (sender.sampleRtt highestAcked currentTime)
  else .ok sender

/-- The loop that removes acknowledged packets. -/
def removeKeys : List Int → RUDPSender → Except TransportError RUDPSender
  | [], sender => .ok sender
  | seq :: rest, sender =>
      match sender.unackedPackets.get? seq with
      | none => .error (.keyError seq)
      | some packetInfo =>
          removeKeys rest { sender with
            inflightBytes :=
              sender.inflightBytes - packetInfo.packet.payload.length
            unackedPackets := sender.unackedPackets.del seq }

/-- Congestion window growth, which divides by the window in Congestion
Avoidance. -/
def growCwnd? (sender : RUDPSender) : Except TransportError RUDPSender :=
  if sender.ccState = .avoidance ∧ sender.cwnd = 0 then
    .error .zeroDivisionError
  else .ok sender.growCwnd

/-- The branch of `on_ack_received` for a new acknowledgement. -/
def onNewAck?
    (sender : RUDPSender) (ackNum : Int) (currentTime : ℚ) :
    Except TransportError (RUDPSender × List RUDPPacket) := do
  let sender := { sender with
    base := ackNum
    dupAckCount := 0
    lastAckReceived := ackNum }
  let keysToRemove :=
    sender.unackedPackets.keys.filter fun seq => decide (seq < ackNum)
  let sender ← sender.sampleRtt? keysToRemove (ackNum - 1) currentTime
  let sender ← sender.removeKeys keysToRemove
  let sender ← sender.growCwnd?
  return sender.trySend currentTime

/-- `on_ack_received`.  Packing and sending are guarded there, and the branch
for a duplicate acknowledgement looks up only what it has found. -/
def onAckReceived?
    (sender : RUDPSender) (ackNum rwnd : Int) (currentTime : ℚ) :
    Except TransportError (RUDPSender × List RUDPPacket) :=
  let sender := { sender with peerRwnd := rwnd }
  if sender.base < ackNum then sender.onNewAck? ackNum currentTime
  else if ackNum = sender.lastAckReceived ∧ ackNum = sender.base then
    .ok (sender.onDuplicateAck currentTime)
  else .ok (sender, [])

end RUDPSender

/-- The acknowledgement a packet carries, if it carries one, goes to the
sender. -/
def Endpoint.acknowledge?
    (endpoint : Endpoint) (packet : RUDPPacket) (currentTime : ℚ) :
    Except TransportError (RUDPSender × List RUDPPacket) :=
  if packet.isAck then
    endpoint.sender.onAckReceived? packet.ackNum packet.rwnd currentTime
  else .ok (endpoint.sender, [])

/-! ## The transport -/

namespace RUDPServerTransport

/-- A call of `send`. -/
structure Send where
  data : Bytes
  requestId : Int
  clientAddr : Address
  currentTime : ℚ

/-- Calls of `send` one after another. -/
def sendAll :
    List Send → RUDPServerTransport →
      RUDPServerTransport × List (RUDPPacket × Address)
  | [], transport => (transport, [])
  | call :: rest, transport =>
      let result := transport.send call.data call.requestId call.clientAddr
        call.currentTime
      let later := sendAll rest result.transport
      (later.1, result.sent ++ later.2)

/-- `_handle_datagram`.  Of the exceptions of `unpack` it catches `ValueError`
and `ChecksumError`.  The message handler returns, and `replies` lists what it
sends each time it is called. -/
def handleDatagram?
    (transport : RUDPServerTransport) (data : Bytes) (addr : Address)
    (currentTime : ℚ) (replies : List (List Send)) :
    Except TransportError ServerResult :=
  match RUDPPacket.unpack data with
  | .error .structError => .error (.packet .structError)
  | .error (.valueError _) | .error (.checksumError _) =>
      .ok { transport := transport, sent := [], delivered := [] }
  | .ok packet => do
      let conn := transport.connection addr
      let acked ← conn.acknowledge? packet currentTime
      if packet.hasData then
        let result := conn.receiver.processSegment packet
        let stored := transport.store addr
          { endpoint := { sender := acked.1, receiver := result.receiver }
            sent := acked.2
            delivered := result.delivered }
        let replied := sendAll (replies.take result.delivered.length).flatten
          stored.transport
        match result.ackPacket.pack with
        | .error error => .error (.packet error)
        | .ok _ =>
            .ok { transport := replied.1
                  sent := stored.sent ++ replied.2 ++ [(result.ackPacket, addr)]
                  delivered := stored.delivered }
      else .ok (transport.store addr (conn.ofSender acked))

/-- What the transport is called for. -/
inductive Call
  | handleDatagram (data : Bytes) (addr : Address) (currentTime : ℚ)
      (replies : List (List Send))
  | send (call : Send)
  | tickConnections (currentTime : ℚ)

namespace Call

/-- Whether the call hands over a datagram. -/
def isDatagram : Call → Bool
  | handleDatagram .. => true
  | _ => false

/-- One call. -/
def perform (transport : RUDPServerTransport) :
    Call → Except TransportError RUDPServerTransport
  | handleDatagram data addr currentTime replies => do
      let result ← transport.handleDatagram? data addr currentTime replies
      return result.transport
  | send call =>
      .ok (transport.send call.data call.requestId call.clientAddr
        call.currentTime).transport
  | tickConnections currentTime =>
      .ok (transport.tickConnections currentTime).transport

end Call

/-- A new transport after a list of calls, unless one of them raises. -/
def after : List Call → Except TransportError RUDPServerTransport :=
  List.foldlM Call.perform .new

/-- How many datagrams a list of calls hands over. -/
def datagramCount (calls : List Call) : Nat := calls.countP Call.isDatagram

end RUDPServerTransport

end RudpAgentStack

import RudpAgentStack.Common.RudpReceiver
import RudpAgentStack.Common.RudpSender

/-!
# The two RUDP transports

The demultiplexing done by `client/transport/rudp_client.py` and
`server/transport/rudp_server.py`.  A client transport has one sender and one
receiver; a server transport has a pair of them for each peer address.  Sockets
and threads are left out: an operation returns the packets it hands to
`send_raw_packet(packet.pack())` and the messages it passes to the message
handler.
-/

namespace RudpAgentStack

open Foundation

/-- The engines at one end: those of an `RUDPConnection` on the server and of
an `RUDPClientTransport` on the client. -/
structure Endpoint where
  sender : RUDPSender
  receiver : RUDPReceiver
  deriving DecidableEq

/-- What an operation of an endpoint returns. -/
structure EndpointResult where
  endpoint : Endpoint
  /-- The packets handed to `send_raw_packet(packet.pack())`. -/
  sent : List RUDPPacket
  /-- The messages passed to the message handler. -/
  delivered : List Bytes

namespace Endpoint

/-- Both engines in their initial state. -/
def new : Endpoint where
  sender := .new maxRwnd
  receiver := .new

/-- An operation of the sender alone. -/
def ofSender
    (endpoint : Endpoint) (result : RUDPSender × List RUDPPacket) :
    EndpointResult where
  endpoint := { endpoint with sender := result.1 }
  sent := result.2
  delivered := []

/-- Route a valid packet: an acknowledgement to the sender, data to the
receiver, whose acknowledgement is sent at once. -/
def demultiplex
    (endpoint : Endpoint) (packet : RUDPPacket) (currentTime : ℚ) :
    EndpointResult :=
  let acked :=
    if packet.isAck then
      endpoint.sender.onAckReceived packet.ackNum packet.rwnd currentTime
    else (endpoint.sender, [])
  if packet.hasData then
    let result := endpoint.receiver.processSegment packet
    { endpoint := { sender := acked.1, receiver := result.receiver }
      sent := acked.2 ++ [result.ackPacket]
      delivered := result.delivered }
  else endpoint.ofSender acked

/-- Unpack a datagram and route its packet.  A datagram that does not unpack
is dropped. -/
def handleDatagram
    (endpoint : Endpoint) (data : Bytes) (currentTime : ℚ) : EndpointResult :=
  match RUDPPacket.unpack data with
  | .error _ => endpoint.ofSender (endpoint.sender, [])
  | .ok packet => endpoint.demultiplex packet currentTime

end Endpoint

/-! ## Client -/

/-- The state of an `RUDPClientTransport`. -/
abbrev RUDPClientTransport := Endpoint

namespace RUDPClientTransport

/-- `send` -/
def send
    (client : RUDPClientTransport) (data : Bytes) (requestId : Int)
    (currentTime : ℚ) : EndpointResult :=
  Endpoint.ofSender client
    (client.sender.enqueueData data requestId currentTime)

/-- One datagram of `_receive_loop`, up to `on_packet_received`. -/
def receiveDatagram
    (client : RUDPClientTransport) (data : Bytes) (currentTime : ℚ) :
    EndpointResult :=
  Endpoint.handleDatagram client data currentTime

/-- The tick at the end of an iteration of `_receive_loop`. -/
def tick (client : RUDPClientTransport) (currentTime : ℚ) : EndpointResult :=
  Endpoint.ofSender client (client.sender.checkTimeouts currentTime)

end RUDPClientTransport

/-! ## Server -/

/-- An address, `(ip, port)`. -/
abbrev Address := String × Int

/-- The state of an `RUDPServerTransport`.  A connection is stored under its
own address. -/
structure RUDPServerTransport where
  connections : Dict Address Endpoint

/-- What an operation of the server transport returns. -/
structure ServerResult where
  transport : RUDPServerTransport
  /-- The packets handed to `send_raw_packet(packet.pack(), addr)`. -/
  sent : List (RUDPPacket × Address)
  /-- The messages passed to the message handler with their origin. -/
  delivered : List (Bytes × Address)

namespace RUDPServerTransport

/-- `__init__` -/
def new : RUDPServerTransport where
  connections := .empty

/-- The connection of an address: the stored one, or a new one that is about
to be stored. -/
def connection (transport : RUDPServerTransport) (addr : Address) : Endpoint :=
  (transport.connections.get? addr).getD .new

/-- Store what an operation on the connection of an address leaves. -/
def store
    (transport : RUDPServerTransport) (addr : Address)
    (result : EndpointResult) : ServerResult where
  transport := { connections := transport.connections.set addr result.endpoint }
  sent := result.sent.map fun packet => (packet, addr)
  delivered := result.delivered.map fun message => (message, addr)

/-- `send` -/
def send
    (transport : RUDPServerTransport) (data : Bytes) (requestId : Int)
    (clientAddr : Address) (currentTime : ℚ) : ServerResult :=
  let conn := transport.connection clientAddr
  transport.store clientAddr
    (conn.ofSender (conn.sender.enqueueData data requestId currentTime))

/-- `_handle_datagram`.  A datagram that does not unpack creates no
connection.  An acknowledgement that does not pack is among the packets
sent here, although there `pack` raises and ends the receive loop: whatever
happens without that loop is a run of this model, too. -/
def handleDatagram
    (transport : RUDPServerTransport) (data : Bytes) (addr : Address)
    (currentTime : ℚ) : ServerResult :=
  match RUDPPacket.unpack data with
  | .error _ => { transport := transport, sent := [], delivered := [] }
  | .ok packet =>
      transport.store addr
        ((transport.connection addr).demultiplex packet currentTime)

/-- `_tick_connections` -/
def tickConnections
    (transport : RUDPServerTransport) (currentTime : ℚ) : ServerResult where
  transport :=
    { connections := transport.connections.mapValues fun conn =>
        { conn with sender := (conn.sender.checkTimeouts currentTime).1 } }
  sent := transport.connections.collect fun conn =>
    (conn.sender.checkTimeouts currentTime).2
  delivered := []

end RUDPServerTransport

namespace ServerResult

/-- What the result means for one address. -/
def forAddress (result : ServerResult) (addr : Address) : EndpointResult where
  endpoint := result.transport.connection addr
  sent := (result.sent.filter fun entry => entry.2 = addr).map Prod.fst
  delivered :=
    (result.delivered.filter fun entry => entry.2 = addr).map Prod.fst

end ServerResult

end RudpAgentStack

import RudpAgentStack.Foundation.Machine
import RudpAgentStack.Rudp.Link
import RudpAgentStack.Transport.Endpoints

/-!
# Client lifetimes at one address

One server transport and client transports that use the same address one
after another, each with new engines.  The network keeps the packets of both
directions, those of the current lifetime apart from earlier ones.  Datagrams
from other addresses are arbitrary.  What the message handler sends, at once or
later, is a send of the server at a time of its own.
-/

namespace RudpAgentStack

open Foundation

/-- What one end has done in the current lifetime. -/
structure History where
  /-- The messages it was given to send. -/
  submitted : List (Bytes × Int)
  /-- The messages it passed to its message handler. -/
  delivered : List Bytes
  /-- The packets it handed to the network. -/
  packets : List RUDPPacket

namespace History

/-- Nothing yet. -/
def empty : History where
  submitted := []
  delivered := []
  packets := []

/-- Record an operation of the end. -/
def record
    (history : History) (submitted : List (Bytes × Int))
    (result : EndpointResult) : History where
  submitted := history.submitted ++ submitted
  delivered := history.delivered ++ result.delivered
  packets := history.packets ++ result.sent

end History

/-- One end of a session with its history. -/
structure Party where
  endpoint : Endpoint
  history : History

namespace Party

/-- An end whose lifetime begins. -/
def new : Party where
  endpoint := .new
  history := .empty

/-- The end after an operation. -/
def after
    (party : Party) (submitted : List (Bytes × Int))
    (result : EndpointResult) : Party where
  endpoint := result.endpoint
  history := party.history.record submitted result

end Party

/-- A server transport with the client lifetime at one of its addresses. -/
structure Sessions where
  server : RUDPServerTransport
  /-- What the server has done at the client's address. -/
  serverHistory : History
  client : Party
  /-- Packets of earlier clients. -/
  earlierFromClient : List RUDPPacket
  /-- Packets for earlier clients. -/
  earlierFromServer : List RUDPPacket

namespace Sessions

/-- What can happen. -/
inductive Action
  | newLifetime
  | clientSend (data : Bytes) (requestId : Int) (currentTime : ℚ)
  | clientReceive (datagram : Bytes) (currentTime : ℚ)
  | clientTick (currentTime : ℚ)
  | serverSend (data : Bytes) (requestId : Int) (addr : Address)
      (currentTime : ℚ)
  | serverReceive (datagram : Bytes) (addr : Address) (currentTime : ℚ)
  | serverTick (currentTime : ℚ)

/-- A client with new engines takes over the address. -/
def newLifetime (sessions : Sessions) : Sessions where
  server := sessions.server
  serverHistory := .empty
  client := .new
  earlierFromClient :=
    sessions.earlierFromClient ++ sessions.client.history.packets
  earlierFromServer :=
    sessions.earlierFromServer ++ sessions.serverHistory.packets

/-- The client performs an operation. -/
def clientDoes
    (sessions : Sessions) (submitted : List (Bytes × Int))
    (result : EndpointResult) : Sessions :=
  { sessions with client := sessions.client.after submitted result }

/-- The server performs an operation. -/
def serverDoes
    (sessions : Sessions) (address : Address)
    (submitted : List (Bytes × Int)) (result : ServerResult) : Sessions :=
  { sessions with
    server := result.transport
    serverHistory :=
      sessions.serverHistory.record submitted (result.forAddress address) }

/-- One step. -/
def next (address : Address) (sessions : Sessions) : Action → Sessions
  | .newLifetime => sessions.newLifetime
  | .clientSend data requestId currentTime =>
      sessions.clientDoes [(data, requestId)]
        (RUDPClientTransport.send sessions.client.endpoint data requestId
          currentTime)
  | .clientReceive datagram currentTime =>
      sessions.clientDoes []
        (RUDPClientTransport.receiveDatagram sessions.client.endpoint datagram
          currentTime)
  | .clientTick currentTime =>
      sessions.clientDoes []
        (RUDPClientTransport.tick sessions.client.endpoint currentTime)
  | .serverSend data requestId addr currentTime =>
      sessions.serverDoes address
        (if addr = address then [(data, requestId)] else [])
        (sessions.server.send data requestId addr currentTime)
  | .serverReceive datagram addr currentTime =>
      sessions.serverDoes address []
        (sessions.server.handleDatagram datagram addr currentTime)
  | .serverTick currentTime =>
      sessions.serverDoes address []
        (sessions.server.tickConnections currentTime)

/-- Runs of one server transport and the clients at one address.  Between
these two only datagrams of packets handed over arrive. -/
def machine (address : Address) : Machine Sessions Action where
  start :=
    { server := .new
      serverHistory := .empty
      client := .new
      earlierFromClient := []
      earlierFromServer := [] }
  Enabled := fun sessions action =>
    match action with
    | .clientReceive datagram _ =>
        InFlight
          (sessions.serverHistory.packets ++ sessions.earlierFromServer)
          datagram
    | .serverReceive datagram addr _ => addr = address →
        InFlight
          (sessions.client.history.packets ++ sessions.earlierFromClient)
          datagram
    | _ => True
  next := next address

/-- Lifetimes kept apart: a lifetime begins only while the server's
connection is missing or in its initial state, and only datagrams of the
current lifetime arrive. -/
def Orderly (address : Address) (sessions : Sessions) : Action → Prop
  | .newLifetime => sessions.server.connection address = .new
  | .clientReceive datagram _ =>
      InFlight sessions.serverHistory.packets datagram
  | .serverReceive datagram addr _ => addr = address →
      InFlight sessions.client.history.packets datagram
  | _ => True

instance (address : Address) : ∀ (sessions : Sessions) (action : Action),
    Decidable ((machine address).Enabled sessions action)
  | sessions, .clientReceive datagram _ =>
      inferInstanceAs (Decidable (InFlight
        (sessions.serverHistory.packets ++ sessions.earlierFromServer)
        datagram))
  | sessions, .serverReceive datagram addr _ =>
      inferInstanceAs (Decidable (addr = address → InFlight
        (sessions.client.history.packets ++ sessions.earlierFromClient)
        datagram))
  | _, .newLifetime => .isTrue trivial
  | _, .clientSend _ _ _ => .isTrue trivial
  | _, .clientTick _ => .isTrue trivial
  | _, .serverSend _ _ _ _ => .isTrue trivial
  | _, .serverTick _ => .isTrue trivial

instance (address : Address) : ∀ (sessions : Sessions) (action : Action),
    Decidable (Orderly address sessions action)
  | sessions, .newLifetime =>
      inferInstanceAs (Decidable (sessions.server.connection address = .new))
  | sessions, .clientReceive datagram _ =>
      inferInstanceAs
        (Decidable (InFlight sessions.serverHistory.packets datagram))
  | sessions, .serverReceive datagram addr _ =>
      inferInstanceAs (Decidable (addr = address →
        InFlight sessions.client.history.packets datagram))
  | _, .clientSend _ _ _ => .isTrue trivial
  | _, .clientTick _ => .isTrue trivial
  | _, .serverSend _ _ _ _ => .isTrue trivial
  | _, .serverTick _ => .isTrue trivial

/-- The server's end of the session at an address. -/
def serverParty (sessions : Sessions) (address : Address) : Party where
  endpoint := sessions.server.connection address
  history := sessions.serverHistory

/-! ## The server's operations at one address -/

section ServerAt

variable (transport : RUDPServerTransport) {address addr : Address}

/-- Storing a connection shows at its address. -/
@[simp] theorem forAddress_store_self (result : EndpointResult) :
    (transport.store address result).forAddress address = result := by
  simp [ServerResult.forAddress, RUDPServerTransport.store,
    RUDPServerTransport.connection, List.filter_map, Function.comp_def]

/-- Storing a connection shows nowhere else. -/
theorem forAddress_store_of_ne (different : addr ≠ address)
    (result : EndpointResult) :
    (transport.store addr result).forAddress address =
      (transport.connection address).ofSender
        ((transport.connection address).sender, []) := by
  simp [ServerResult.forAddress, RUDPServerTransport.store,
    RUDPServerTransport.connection, Endpoint.ofSender, List.filter_map,
    Function.comp_def, different,
    Dict.get?_set_of_ne _ _ (Ne.symm different)]

/-- A datagram from the address is handled by its connection. -/
theorem forAddress_handleDatagram_self (datagram : Bytes) (currentTime : ℚ) :
    (transport.handleDatagram datagram address currentTime).forAddress
        address =
      (transport.connection address).handleDatagram datagram currentTime := by
  unfold RUDPServerTransport.handleDatagram Endpoint.handleDatagram
  split
  · rfl
  · exact forAddress_store_self transport _

/-- A datagram from elsewhere changes nothing at the address. -/
theorem forAddress_handleDatagram_of_ne (different : addr ≠ address)
    (datagram : Bytes) (currentTime : ℚ) :
    (transport.handleDatagram datagram addr currentTime).forAddress address =
      (transport.connection address).ofSender
        ((transport.connection address).sender, []) := by
  unfold RUDPServerTransport.handleDatagram
  split
  · rfl
  · exact forAddress_store_of_ne transport different _

/-- A tick reaches the sender of the address. -/
theorem forAddress_tickConnections (currentTime : ℚ) :
    (transport.tickConnections currentTime).forAddress address =
      (transport.connection address).ofSender
        ((transport.connection address).sender.checkTimeouts currentTime) := by
  simp only [ServerResult.forAddress, RUDPServerTransport.tickConnections,
    RUDPServerTransport.connection, Dict.get?_mapValues, Dict.filter_collect]
  cases transport.connections.get? address <;> rfl

end ServerAt

end Sessions

end RudpAgentStack

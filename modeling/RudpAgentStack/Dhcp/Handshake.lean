import RudpAgentStack.Dhcp.IpManager
import RudpAgentStack.Foundation.Machine

/-!
# The handshake for an address

`DHCPServer` of `server/dhcp_server.py` and `DHCPClient` of
`client/dhcp_client.py` with the datagrams between them.  Datagrams carry the
packets of `common/dhcp_packet.py`.  One that was sent may arrive at any later
time, any number of times or never, and a reply may arrive at any client: all
clients listen on one port.
-/

namespace RudpAgentStack

open Foundation

/-- `message_type` of a packet. -/
inductive DhcpMessageType
  | discover
  | offer
  | request
  | ack
  | nack
  deriving DecidableEq

/-- `DHCPPacket` -/
structure DhcpPacket where
  messageType : DhcpMessageType
  xid : Int
  clientMac : Text
  offeredIp : Text := []
  leaseTime : Int := 0
  deriving DecidableEq

/-! ## The server -/

namespace DhcpServer

/-- `_handle_discover` -/
def handleDiscover
    (manager : IpManager) (packet : DhcpPacket) (clock : LeaseClock) :
    Option DhcpPacket × IpManager :=
  let ((offeredIp, leaseTime), manager) :=
    manager.handleDiscover packet.clientMac packet.xid clock
  match offeredIp with
  | none => (none, manager)
  | some offeredIp =>
      (some
        { messageType := .offer
          xid := packet.xid
          clientMac := packet.clientMac
          offeredIp
          leaseTime },
        manager)

/-- `_handle_request` -/
def handleRequest
    (manager : IpManager) (packet : DhcpPacket) (clock : LeaseClock) :
    DhcpPacket × IpManager :=
  let (success, manager) :=
    manager.handleRequest packet.clientMac packet.xid packet.offeredIp clock
  if success then
    ({ messageType := .ack
       xid := packet.xid
       clientMac := packet.clientMac
       offeredIp := packet.offeredIp
       leaseTime := packet.leaseTime },
      manager)
  else
    ({ messageType := .nack
       xid := packet.xid
       clientMac := packet.clientMac
       offeredIp := []
       leaseTime := 0 },
      manager)

/-- `handle_packet`, with the packet it sends. -/
def handlePacket
    (manager : IpManager) (packet : DhcpPacket) (clock : LeaseClock) :
    Option DhcpPacket × IpManager :=
  match packet.messageType with
  | .discover => handleDiscover manager packet clock
  | .request =>
      let (reply, manager) := handleRequest manager packet clock
      (some reply, manager)
  | _ => (none, manager)

end DhcpServer

/-! ## The clients -/

/-- State of a client. -/
inductive DhcpClientState
  | init
  | selecting
  | requesting
  | bound
  deriving DecidableEq

/-- The stage of a call of `acquire_lease`. -/
inductive DhcpStage
  | selecting
  | requesting (offeredIp : Text)
  deriving DecidableEq

/-- A running call of `acquire_lease`: its xid, its stage, and the number of
attempts in this stage. -/
structure DhcpCall where
  xid : Int
  stage : DhcpStage
  attempt : Nat
  deriving DecidableEq

/-- `DHCPClient` -/
structure DhcpClient where
  macAddress : Text
  state : DhcpClientState := .init
  assignedIp : Option Text := none
  leaseTime : Int := 0
  call : Option DhcpCall := none
  deriving DecidableEq

namespace DhcpClient

/-- `MAX_RETRIES_PER_STAGE` -/
def maxRetriesPerStage : Nat := 5

/-- The packet sent in every attempt of a stage. -/
def stagePacket (client : DhcpClient) (xid : Int) : DhcpStage → DhcpPacket
  | .selecting =>
      { messageType := .discover, xid, clientMac := client.macAddress }
  | .requesting offeredIp =>
      { messageType := .request
        xid
        clientMac := client.macAddress
        offeredIp }

/-- `acquire_lease`, up to its first DISCOVER. -/
def acquireLease (client : DhcpClient) (xid : Int) : DhcpPacket × DhcpClient :=
  (client.stagePacket xid .selecting,
    { client with
      state := .selecting
      call := some ⟨xid, .selecting, 1⟩ })

/-- The time of an attempt runs out: another attempt, or the end of the
call. -/
def timeOut (client : DhcpClient) : Option DhcpPacket × DhcpClient :=
  match client.call with
  | none => (none, client)
  | some call =>
      if call.attempt < maxRetriesPerStage then
        (some (client.stagePacket call.xid call.stage),
          { client with
            call := some { call with attempt := call.attempt + 1 } })
      else (none, { client with call := none })

/-- A packet is received in the stage of `_perform_selecting`. -/
def receiveSelecting
    (client : DhcpClient) (xid : Int) (packet : DhcpPacket) :
    Option DhcpPacket × DhcpClient :=
  if packet.xid = xid ∧ packet.messageType = .offer ∧
      packet.offeredIp ≠ [] then
    (some (client.stagePacket xid (.requesting packet.offeredIp)),
      { client with
        leaseTime := packet.leaseTime
        state := .requesting
        call := some ⟨xid, .requesting packet.offeredIp, 1⟩ })
  else (none, client)

/-- A packet is received in the stage of `_perform_requesting`. -/
def receiveRequesting
    (client : DhcpClient) (xid : Int) (offeredIp : Text)
    (packet : DhcpPacket) : DhcpClient :=
  if packet.xid = xid then
    match packet.messageType with
    | .ack =>
        if packet.offeredIp = offeredIp then
          { client with
            assignedIp := some packet.offeredIp
            leaseTime := packet.leaseTime
            state := .bound
            call := none }
        else client
    | .nack => { client with call := none }
    | _ => client
  else client

/-- A packet is received; nothing listens between two calls. -/
def receive (client : DhcpClient) (packet : DhcpPacket) :
    Option DhcpPacket × DhcpClient :=
  match client.call with
  | none => (none, client)
  | some ⟨xid, .selecting, _⟩ => client.receiveSelecting xid packet
  | some ⟨xid, .requesting offeredIp, _⟩ =>
      (none, client.receiveRequesting xid offeredIp packet)

/-- The packet is the ACK that binds the client. -/
def accepts (client : DhcpClient) (packet : DhcpPacket) : Bool :=
  match client.call with
  | some ⟨xid, .requesting offeredIp, _⟩ =>
      packet.xid = xid && packet.messageType = .ack &&
        packet.offeredIp = offeredIp
  | _ => false

/-- The client is bound to an address. -/
def BoundTo (client : DhcpClient) (ip : Text) : Prop :=
  client.state = .bound ∧ client.assignedIp = some ip

end DhcpClient

/-! ## The network -/

/-- A reply of the server, with the time it was sent and the time at which the
lease of its client was then to expire. -/
structure DhcpReply where
  packet : DhcpPacket
  sentAt : ℚ
  expiresAt : Option ℚ
  deriving DecidableEq

/-- A server and its clients, with every datagram sent so far.  There is a
client for every MAC address. -/
structure DhcpNetwork where
  now : ℚ
  manager : IpManager
  clients : Text → DhcpClient
  requests : List DhcpPacket := []
  replies : List DhcpReply := []
  /-- The reply that bound a client.  Nothing reads it. -/
  accepted : Text → Option DhcpReply := fun _ => none

/-- What may happen next. -/
inductive DhcpAction
  | acquire (mac : Text) (xid : Int)
  | timeOut (mac : Text)
  | serve (packet : DhcpPacket) (clock : LeaseClock)
  | deliver (mac : Text) (reply : DhcpReply)

namespace DhcpNetwork

/-- A client changes, and may send a packet. -/
def setClient
    (network : DhcpNetwork) (mac : Text)
    (change : Option DhcpPacket × DhcpClient) : DhcpNetwork :=
  { network with
    clients := Function.update network.clients mac change.2
    requests := network.requests ++ change.1.toList }

/-- The server handles a packet, and may send a reply. -/
def serve
    (network : DhcpNetwork) (packet : DhcpPacket) (clock : LeaseClock) :
    DhcpNetwork :=
  let (reply, manager) :=
    DhcpServer.handlePacket network.manager packet clock
  let expiresAt :=
    (manager.leasedIps.get? packet.clientMac).map Lease.expiresAt
  { network with
    now := clock.renewal
    manager
    replies := network.replies ++
      (reply.map fun packet => ⟨packet, clock.renewal, expiresAt⟩).toList }

/-- A reply arrives at a client. -/
def deliver (network : DhcpNetwork) (mac : Text) (reply : DhcpReply) :
    DhcpNetwork :=
  let client := network.clients mac
  { network.setClient mac (client.receive reply.packet) with
    accepted :=
      if client.accepts reply.packet then
        Function.update network.accepted mac (some reply)
      else network.accepted }

/-- A call of `acquire_lease` follows the one before; datagrams arrive after
they were sent, and the clock of the server does not run backwards. -/
def Enabled (network : DhcpNetwork) : DhcpAction → Prop
  | .acquire mac _ => (network.clients mac).call = none
  | .timeOut _ => True
  | .serve packet clock => packet ∈ network.requests ∧
      network.now ≤ clock.cleanup ∧ clock.cleanup ≤ clock.renewal
  | .deliver _ reply => reply ∈ network.replies

instance : ∀ (network : DhcpNetwork) (action : DhcpAction),
    Decidable (network.Enabled action)
  | network, .acquire mac _ =>
      inferInstanceAs (Decidable ((network.clients mac).call = none))
  | _, .timeOut _ => .isTrue trivial
  | network, .serve packet _ =>
      inferInstanceAs (Decidable (packet ∈ network.requests ∧ _ ∧ _))
  | network, .deliver _ reply =>
      inferInstanceAs (Decidable (reply ∈ network.replies))

/-- The network after an action. -/
def next (network : DhcpNetwork) : DhcpAction → DhcpNetwork
  | .acquire mac xid =>
      let (packet, client) := (network.clients mac).acquireLease xid
      network.setClient mac (some packet, client)
  | .timeOut mac => network.setClient mac (network.clients mac).timeOut
  | .serve packet clock => network.serve packet clock
  | .deliver mac reply => network.deliver mac reply

/-- A server with a pool of addresses, and clients that have not started. -/
def start (startIp endIp : Ipv4) : DhcpNetwork where
  now := 0
  manager := { startIp, endIp }
  clients := fun macAddress => { macAddress }

end DhcpNetwork

/-- The server and its clients, for a pool of addresses. -/
def dhcpMachine (startIp endIp : Ipv4) : Machine DhcpNetwork DhcpAction where
  start := .start startIp endIp
  Enabled := DhcpNetwork.Enabled
  next := DhcpNetwork.next

instance
    (startIp endIp : Ipv4) (network : DhcpNetwork) (action : DhcpAction) :
    Decidable ((dhcpMachine startIp endIp).Enabled network action) :=
  inferInstanceAs (Decidable (network.Enabled action))

/-! ## What clients do -/

namespace DhcpClient

variable {client : DhcpClient} {packet : DhcpPacket}

theorem accepts_eq_true_iff :
    client.accepts packet = true ↔ packet.messageType = .ack ∧
      ∃ call, client.call = some call ∧ packet.xid = call.xid ∧
        call.stage = .requesting packet.offeredIp := by
  unfold accepts
  split
  · next xid offeredIp attempt running =>
      simp [running]
      tauto
  · next notRequesting =>
      simp only [Bool.false_eq_true, false_iff, not_and, not_exists]
      rintro _ ⟨xid, stage, attempt⟩ running _ rfl
      exact notRequesting xid _ attempt running

/-- The ACK that a client accepts binds it. -/
theorem receive_of_accepts (accepted : client.accepts packet = true) :
    client.receive packet = (none,
      { client with
        assignedIp := some packet.offeredIp
        leaseTime := packet.leaseTime
        state := .bound
        call := none }) := by
  obtain ⟨isAck, ⟨xid, stage, attempt⟩, running, sameXid, rfl⟩ :=
    accepts_eq_true_iff.mp accepted
  simp only [receive, running, receiveRequesting, sameXid, isAck, if_true]

/-- No other packet binds a client or gives it an address. -/
theorem receive_of_not_accepts (notAccepted : client.accepts packet = false) :
    (client.receive packet).2.state = .requesting ∨
      (client.receive packet).2.state = client.state ∧
        (client.receive packet).2.assignedIp = client.assignedIp := by
  cases running : client.call with
  | none =>
      rw [receive, running]
      exact .inr ⟨rfl, rfl⟩
  | some call =>
      obtain ⟨xid, stage, attempt⟩ := call
      cases stage with
      | selecting =>
          simp only [receive, running, receiveSelecting]
          split
          · exact .inl rfl
          · exact .inr ⟨rfl, rfl⟩
      | requesting offeredIp =>
          right
          simp only [receive, running, receiveRequesting]
          split
          · next sameXid =>
              split
              · next isAck =>
                  split
                  · next sameIp =>
                      have accepted : client.accepts packet = true :=
                        accepts_eq_true_iff.mpr ⟨isAck, _, running, sameXid,
                          by rw [sameIp]⟩
                      rw [accepted] at notAccepted
                      cases notAccepted
                  · exact ⟨rfl, rfl⟩
              · exact ⟨rfl, rfl⟩
              · exact ⟨rfl, rfl⟩
          · exact ⟨rfl, rfl⟩

/-- A client that a packet leaves bound, without being accepted, was bound to
the same address before. -/
theorem boundTo_of_receive
    (notAccepted : client.accepts packet = false) {ip : Text}
    (bound : (client.receive packet).2.BoundTo ip) : client.BoundTo ip := by
  obtain ⟨isBound, assigned⟩ := bound
  rcases receive_of_not_accepts notAccepted with requesting |
    ⟨sameState, sameIp⟩
  · rw [requesting] at isBound
    cases isBound
  · exact ⟨sameState ▸ isBound, sameIp ▸ assigned⟩

/-- A packet that is not accepted leaves a bound client as it is. -/
theorem receive_of_bound
    (notAccepted : client.accepts packet = false)
    (idle : client.state = .bound → client.call = none)
    (bound : (client.receive packet).2.state = .bound) :
    client.receive packet = (none, client) := by
  rcases receive_of_not_accepts notAccepted with requesting | ⟨sameState, _⟩
  · rw [requesting] at bound
    cases bound
  · rw [receive, idle (sameState ▸ bound)]

/-- What a client sends when it receives a packet or its time runs out belongs
to its running call. -/
theorem stagePacket_of_receive
    {sent : DhcpPacket} (sends : (client.receive packet).1 = some sent) :
    ∃ call stage, client.call = some call ∧
      sent = client.stagePacket call.xid stage := by
  unfold receive at sends
  split at sends
  · cases sends
  · next xid attempt running =>
      unfold receiveSelecting at sends
      split at sends
      · cases sends
        exact ⟨_, _, running, rfl⟩
      · cases sends
  · cases sends

theorem stagePacket_of_timeOut
    {sent : DhcpPacket} (sends : client.timeOut.1 = some sent) :
    ∃ call stage, client.call = some call ∧
      sent = client.stagePacket call.xid stage := by
  unfold timeOut at sends
  split at sends
  · cases sends
  · next call running =>
      split at sends
      · cases sends
        exact ⟨call, _, running, rfl⟩
      · cases sends

/-- A bound client has no running call. -/
theorem call_of_timeOut_bound
    (idle : client.state = .bound → client.call = none)
    (bound : client.timeOut.2.state = .bound) : client.timeOut.2.call = none := by
  unfold timeOut at bound ⊢
  split
  · next notRunning => exact notRunning
  · next call running =>
      split
      · next fewer =>
          rw [running] at bound
          simp only [fewer, if_true] at bound
          rw [idle bound] at running
          cases running
      · rfl

theorem state_timeOut (client : DhcpClient) :
    client.timeOut.2.state = client.state := by
  unfold timeOut
  split
  · rfl
  · split <;> rfl

theorem assignedIp_timeOut (client : DhcpClient) :
    client.timeOut.2.assignedIp = client.assignedIp := by
  unfold timeOut
  split
  · rfl
  · split <;> rfl

theorem leaseTime_timeOut (client : DhcpClient) :
    client.timeOut.2.leaseTime = client.leaseTime := by
  unfold timeOut
  split
  · rfl
  · split <;> rfl

theorem leaseTime_stagePacket
    (client : DhcpClient) (xid : Int) (stage : DhcpStage) :
    (client.stagePacket xid stage).leaseTime = 0 := by
  cases stage <;> rfl

end DhcpClient

/-! ## What the server answers -/

namespace DhcpServer

variable
  {manager : IpManager} {packet sent : DhcpPacket} {clock : LeaseClock}

/-- A reply names the xid and the client of its request. -/
theorem names_of_handlePacket
    (sends : (handlePacket manager packet clock).1 = some sent) :
    sent.xid = packet.xid ∧ sent.clientMac = packet.clientMac := by
  unfold handlePacket at sends
  split at sends
  · unfold handleDiscover at sends
    dsimp only at sends
    split at sends
    · cases sends
    · cases sends
      exact ⟨rfl, rfl⟩
  · unfold handleRequest at sends
    dsimp only at sends
    split at sends <;> cases sends <;> exact ⟨rfl, rfl⟩
  · cases sends

/-- An ACK answers a REQUEST that was granted. -/
theorem granted_of_handlePacket
    (sends : (handlePacket manager packet clock).1 = some sent)
    (isAck : sent.messageType = .ack) :
    (manager.handleRequest packet.clientMac packet.xid packet.offeredIp
        clock).1 = true ∧
      (handlePacket manager packet clock).2 =
        (manager.handleRequest packet.clientMac packet.xid packet.offeredIp
          clock).2 ∧
      sent.offeredIp = packet.offeredIp ∧
      sent.leaseTime = packet.leaseTime := by
  unfold handlePacket at sends ⊢
  split at sends
  · unfold handleDiscover at sends
    dsimp only at sends
    split at sends
    · cases sends
    · cases sends
      cases isAck
  · next isRequest =>
      unfold handleRequest at sends ⊢
      dsimp only at sends ⊢
      split at sends
      · next granted =>
          cases sends
          refine ⟨granted, ?_, rfl, rfl⟩
          rw [if_pos granted]
      · cases sends
        cases isAck
  · cases sends

end DhcpServer

/-! ## Clients and packets after an action -/

namespace DhcpNetwork

variable {network : DhcpNetwork} {mac other : Text}

@[simp] theorem clients_setClient_self
    (change : Option DhcpPacket × DhcpClient) :
    (network.setClient mac change).clients mac = change.2 :=
  Function.update_self _ _ _

theorem clients_setClient_of_ne
    (change : Option DhcpPacket × DhcpClient) (different : other ≠ mac) :
    (network.setClient mac change).clients other = network.clients other :=
  Function.update_of_ne different _ _

theorem mem_requests_setClient
    {change : Option DhcpPacket × DhcpClient} {packet : DhcpPacket} :
    packet ∈ (network.setClient mac change).requests ↔
      packet ∈ network.requests ∨ change.1 = some packet := by
  simp [setClient]

theorem clients_deliver_self (reply : DhcpReply) :
    (network.deliver mac reply).clients mac =
      ((network.clients mac).receive reply.packet).2 :=
  clients_setClient_self _

theorem clients_deliver_of_ne (reply : DhcpReply) (different : other ≠ mac) :
    (network.deliver mac reply).clients other = network.clients other :=
  clients_setClient_of_ne _ different

theorem mem_requests_deliver {reply : DhcpReply} {packet : DhcpPacket} :
    packet ∈ (network.deliver mac reply).requests ↔
      packet ∈ network.requests ∨
        ((network.clients mac).receive reply.packet).1 = some packet := by
  change packet ∈ (network.setClient mac _).requests ↔ _
  exact mem_requests_setClient

theorem accepted_deliver (reply : DhcpReply) :
    (network.deliver mac reply).accepted =
      if (network.clients mac).accepts reply.packet then
        Function.update network.accepted mac (some reply)
      else network.accepted := rfl

/-- A reply was sent before, or answers the packet that is handled. -/
theorem mem_replies_serve
    {packet : DhcpPacket} {clock : LeaseClock} {reply : DhcpReply} :
    reply ∈ (network.serve packet clock).replies ↔
      reply ∈ network.replies ∨ ∃ sent,
        (DhcpServer.handlePacket network.manager packet clock).1 = some sent ∧
        reply = ⟨sent, clock.renewal,
          ((network.serve packet clock).manager.leasedIps.get?
            packet.clientMac).map Lease.expiresAt⟩ := by
  simp only [serve, List.mem_append, Option.mem_toList, Option.map_eq_some_iff]
  refine or_congr_right (exists_congr fun sent => and_congr_right fun _ => ?_)
  exact eq_comm

end DhcpNetwork

end RudpAgentStack

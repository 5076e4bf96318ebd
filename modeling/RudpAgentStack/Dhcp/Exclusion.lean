import RudpAgentStack.Dhcp.LeaseDuration
import RudpAgentStack.Dhcp.LeaseTable

/-!
# One client for an address

Clients tell replies apart by the xid only, and stay bound for ever.  A client
so may take the ACK of another one, or keep an address after its lease has
expired.  While this does not happen, no address has two clients.
-/

namespace RudpAgentStack

open Foundation

/-- A packet is handled as a call of the manager, or not at all. -/
theorem DhcpServer.handlePacket_manager
    (manager : IpManager) (packet : DhcpPacket) (clock : LeaseClock) :
    (handlePacket manager packet clock).2 = manager ∨
      ∃ call : LeaseCall, call.checkedAt = clock.cleanup ∧
        (handlePacket manager packet clock).2 = (call.perform manager).2 := by
  unfold handlePacket
  split
  · right
    refine ⟨.discover packet.clientMac packet.xid clock, rfl, ?_⟩
    unfold handleDiscover
    dsimp only
    split <;> rfl
  · right
    refine ⟨.request packet.clientMac packet.xid packet.offeredIp clock, rfl,
      ?_⟩
    unfold handleRequest
    dsimp only
    split <;> rfl
  · exact .inl rfl

namespace DhcpNetwork

/-- The server holds an unexpired lease of the address for the client. -/
def Leases (network : DhcpNetwork) (mac ip : Text) : Prop :=
  ∃ lease, network.manager.leasedIps.get? mac = some lease ∧
    lease.ip = ip ∧ network.now ≤ lease.expiresAt

/-- No two clients are bound to an address while the server holds an unexpired
lease of it for one of them. -/
def Exclusive (network : DhcpNetwork) : Prop :=
  ∀ mac other ip, (network.clients mac).BoundTo ip →
    (network.clients other).BoundTo ip → network.Leases mac ip → mac = other

/-- An ACK that a client accepts is for an address that the server leases to
this client, and no lease of a bound client is found to be expired. -/
def Careful (network : DhcpNetwork) : DhcpAction → Prop
  | .deliver mac reply =>
      (network.clients mac).accepts reply.packet = true →
      network.manager.held mac = some reply.packet.offeredIp
  | .serve _ clock => ∀ mac ip lease, (network.clients mac).BoundTo ip →
      network.manager.leasedIps.get? mac = some lease →
      clock.cleanup ≤ lease.expiresAt
  | _ => True

/-- The table is sound, and every bound client has a lease of its address. -/
structure Backed (network : DhcpNetwork) : Prop where
  sound : network.manager.Sound
  leased : ∀ mac ip, (network.clients mac).BoundTo ip →
    network.manager.held mac = some ip

variable {network : DhcpNetwork}

namespace Backed

theorem start (startIp endIp : Ipv4) :
    (DhcpNetwork.start startIp endIp).Backed :=
  ⟨.new startIp endIp, fun _ _ bound => nomatch bound.1⟩

/-- A client changes, but is bound to no other address. -/
theorem setClient
    (backed : network.Backed) (mac : Text)
    {change : Option DhcpPacket × DhcpClient}
    (bound : ∀ ip, change.2.BoundTo ip →
      network.manager.held mac = some ip) :
    (network.setClient mac change).Backed := by
  refine ⟨backed.sound, fun other ip isBound => ?_⟩
  rcases eq_or_ne other mac with rfl | different
  · rw [clients_setClient_self] at isBound
    exact bound ip isBound
  · rw [clients_setClient_of_ne _ different] at isBound
    exact backed.leased other ip isBound

/-- Handling a packet keeps the leases that are not found to be expired. -/
theorem serve
    (backed : network.Backed) (packet : DhcpPacket) {clock : LeaseClock}
    (unexpired : ∀ mac ip lease, (network.clients mac).BoundTo ip →
      network.manager.leasedIps.get? mac = some lease →
      clock.cleanup ≤ lease.expiresAt) :
    (network.serve packet clock).Backed := by
  rcases DhcpServer.handlePacket_manager network.manager packet clock with
    same | ⟨call, checked, performed⟩
  · constructor
    · change (DhcpServer.handlePacket network.manager packet clock).2.Sound
      rw [same]
      exact backed.sound
    · intro mac ip isBound
      change (DhcpServer.handlePacket network.manager packet clock).2.held
        mac = _
      rw [same]
      exact backed.leased mac ip isBound
  · constructor
    · change (DhcpServer.handlePacket network.manager packet clock).2.Sound
      rw [performed]
      exact LeaseCall.sound_perform backed.sound call
    · intro mac ip isBound
      change (DhcpServer.handlePacket network.manager packet clock).2.held
        mac = _
      obtain ⟨lease, leased, rfl⟩ :=
        Option.map_eq_some_iff.mp (backed.leased mac ip isBound)
      rw [performed]
      refine (LeaseCall.held_perform leased ?_).1
      rw [checked]
      exact unexpired mac lease.ip lease isBound leased

/-- Step lemma: every careful action keeps the leases of bound clients. -/
theorem next
    (backed : network.Backed) {action : DhcpAction}
    (careful : network.Careful action) :
    (network.next action).Backed := by
  cases action with
  | acquire mac xid => exact backed.setClient mac fun _ bound => nomatch bound.1
  | timeOut mac =>
      refine backed.setClient mac fun ip bound => backed.leased mac ip ?_
      rw [DhcpClient.BoundTo, DhcpClient.state_timeOut,
        DhcpClient.assignedIp_timeOut] at bound
      exact bound
  | serve packet clock => exact backed.serve packet careful
  | deliver mac reply =>
      have kept : (network.setClient mac
          ((network.clients mac).receive reply.packet)).Backed := by
        refine backed.setClient mac fun ip bound => ?_
        cases accepted : (network.clients mac).accepts reply.packet with
        | true =>
            rw [DhcpClient.receive_of_accepts accepted] at bound
            rw [careful accepted]
            exact bound.2
        | false =>
            exact backed.leased mac ip
              (DhcpClient.boundTo_of_receive accepted bound)
      exact ⟨kept.sound, kept.leased⟩

end Backed

end DhcpNetwork

/-! ## Sample handshakes -/

namespace Sample

/-- While the sample client is not bound, nobody is. -/
theorem unbound_of_sample
    {network : DhcpNetwork}
    (notBound : (network.clients "A").state ≠ .bound)
    (others : ∀ mac, mac ≠ Text.ofString "A" →
      network.clients mac = { macAddress := mac })
    (mac ip : Text) : ¬ (network.clients mac).BoundTo ip := by
  rintro ⟨bound, _⟩
  rcases eq_or_ne mac (Text.ofString "A") with rfl | different
  · exact notBound bound
  · rw [others mac different] at bound
    cases bound

theorem handshake_careful :
    (dhcp.restrict DhcpNetwork.Careful).Reachable handshaken := by
  have admitted : (dhcp.restrict DhcpNetwork.Careful).Admits dhcp.start
      handshake := by
    refine ⟨⟨by decide +kernel, trivial⟩, ⟨by decide +kernel, ?_⟩,
      ⟨by decide +kernel, ?_⟩, ⟨by decide +kernel, ?_⟩,
      ⟨by decide +kernel, ?_⟩, trivial⟩
    · intro mac ip lease bound
      refine absurd bound (unbound_of_sample (by decide +kernel) ?_ mac ip)
      intro other different
      exact Function.update_of_ne different _ _
    · intro accepted
      exact absurd accepted (by decide +kernel)
    · intro mac ip lease bound
      refine absurd bound (unbound_of_sample (by decide +kernel) ?_ mac ip)
      intro other different
      exact (Function.update_of_ne different _ _).trans
        (Function.update_of_ne different _ _)
    · intro _
      decide +kernel
  exact Machine.Reachable.start.exec admitted

/-- Two clients that drew one xid, and receive each other's replies. -/
def sharedXid : List DhcpAction :=
  [.acquire "A" 7, .acquire "B" 7,
    .serve { messageType := .discover, xid := 7, clientMac := "A" } ⟨0, 0⟩,
    .deliver "A" offerReply, .deliver "B" offerReply,
    .serve
      { messageType := .request
        xid := 7
        clientMac := "A"
        offeredIp := "127.0.0.2" } ⟨1, 1⟩,
    .deliver "A" ackReply, .deliver "B" ackReply]

end Sample

/-- In every run in which clients accept only ACKs for addresses leased to them,
and the leases of bound clients do not expire, two clients are never bound to
an address that is leased to one of them. -/
theorem dhcp_exclusive
    (startIp endIp : Ipv4) (network : DhcpNetwork)
    (reachable : ((dhcpMachine startIp endIp).restrict
      DhcpNetwork.Careful).Reachable network) :
    network.Exclusive := by
  have backed : network.Backed := by
    refine Machine.Reachable.invariant DhcpNetwork.Backed ?_ ?_ reachable
    · exact .start startIp endIp
    · intro before action _ backed enabled
      exact backed.next enabled.2
  intro mac other ip bound otherBound _
  exact backed.sound.allocated.exclusive (backed.leased mac ip bound)
    (backed.leased other ip otherBound)

theorem dhcp_exclusive_handshake : Sample.handshaken.Exclusive :=
  dhcp_exclusive ⟨127, 0, 0, 2⟩ ⟨127, 0, 0, 3⟩ Sample.handshaken
    Sample.handshake_careful

/-- The second client takes the replies for the first one, and is bound to its
address too. -/
theorem sharedXid_not_exclusive :
    Sample.dhcp.Reachable
        (Sample.dhcp.exec Sample.dhcp.start Sample.sharedXid) ∧
      ¬ (Sample.dhcp.exec Sample.dhcp.start Sample.sharedXid).Exclusive := by
  have admitted : Sample.dhcp.Admits Sample.dhcp.start Sample.sharedXid := by
    decide +kernel
  refine ⟨Machine.Reachable.start.exec admitted, fun exclusive => ?_⟩
  have same : (Text.ofString "A") = "B" := by
    refine exclusive _ _ "127.0.0.2" ?_ ?_
      ⟨⟨"127.0.0.2", 7, 3601, .bound⟩, ?_, rfl, ?_⟩
    · exact ⟨by decide +kernel, by decide +kernel⟩
    · exact ⟨by decide +kernel, by decide +kernel⟩
    · decide +kernel
    · decide +kernel
  exact absurd same (by decide)

end RudpAgentStack

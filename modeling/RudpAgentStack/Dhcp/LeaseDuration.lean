import RudpAgentStack.Dhcp.Handshake

/-!
# The duration of a lease

A client asks for no duration, and the server answers with the one it was asked
for.  The client so takes its lease to last no time at all, while the server
grants an hour.
-/

namespace RudpAgentStack

open Foundation

namespace IpManager

/-- A granted lease lasts for the default time. -/
theorem expiresAt_of_grant
    {manager : IpManager} {mac : Text} {xid : Int} {requestedIp : Text}
    {renewal : ℚ}
    (granted : (manager.grant mac xid requestedIp renewal).1 = true) :
    ((manager.grant mac xid requestedIp renewal).2.leasedIps.get? mac).map
      Lease.expiresAt = some (renewal + dhcpDefaultLeaseTime) := by
  unfold grant at granted ⊢
  cases leased : manager.leasedIps.get? mac with
  | none =>
      rw [leased] at granted
      cases granted
  | some lease =>
      rw [leased] at granted
      dsimp only at granted ⊢
      split
      · next different =>
          rw [if_pos different] at granted
          cases granted
      · next same =>
          rw [if_neg same] at granted
          split
          · rw [setLease, Dict.get?_set_self, Option.map_some]
          · next renews =>
              rw [if_neg renews] at granted
              split
              · rw [setLease, Dict.get?_set_self, Option.map_some]
              · next settled =>
                  rw [if_neg settled] at granted
                  cases granted

end IpManager

namespace DhcpNetwork

/-- What the packets and clients say about durations. -/
structure Durations (network : DhcpNetwork) : Prop where
  requests : ∀ packet ∈ network.requests, packet.leaseTime = 0
  acks : ∀ reply ∈ network.replies, reply.packet.messageType = .ack →
    reply.packet.leaseTime = 0 ∧
      reply.expiresAt = some (reply.sentAt + dhcpDefaultLeaseTime)
  idle : ∀ mac, (network.clients mac).state = .bound →
    (network.clients mac).call = none
  bound : ∀ mac, (network.clients mac).state = .bound →
    ∃ reply ∈ network.replies, network.accepted mac = some reply ∧
      reply.packet.messageType = .ack ∧ (network.clients mac).leaseTime = 0

variable {network : DhcpNetwork}

namespace Durations

theorem start (startIp endIp : Ipv4) :
    (DhcpNetwork.start startIp endIp).Durations := by
  refine ⟨nofun, nofun, fun _ _ => rfl, fun _ bound => ?_⟩
  cases bound

/-- A client changes, and stays bound at most. -/
theorem setClient
    (durations : network.Durations) (mac : Text)
    {change : Option DhcpPacket × DhcpClient}
    (sent : ∀ packet, change.1 = some packet → packet.leaseTime = 0)
    (idle : change.2.state = .bound → change.2.call = none)
    (bound : change.2.state = .bound →
      (network.clients mac).state = .bound ∧
        change.2.leaseTime = (network.clients mac).leaseTime) :
    (network.setClient mac change).Durations := by
  refine ⟨?_, durations.acks, ?_, ?_⟩
  · intro packet member
    rcases mem_requests_setClient.mp member with before | now
    · exact durations.requests packet before
    · exact sent packet now
  · intro other isBound
    rcases eq_or_ne other mac with rfl | different
    · rw [clients_setClient_self] at isBound ⊢
      exact idle isBound
    · rw [clients_setClient_of_ne _ different] at isBound ⊢
      exact durations.idle other isBound
  · intro other isBound
    rcases eq_or_ne other mac with rfl | different
    · rw [clients_setClient_self] at isBound ⊢
      obtain ⟨wasBound, sameTime⟩ := bound isBound
      rw [sameTime]
      exact durations.bound other wasBound
    · rw [clients_setClient_of_ne _ different] at isBound ⊢
      exact durations.bound other isBound

/-- The server copies the duration of a REQUEST, and grants the default. -/
theorem serve
    (durations : network.Durations) {packet : DhcpPacket} (clock : LeaseClock)
    (member : packet ∈ network.requests) :
    (network.serve packet clock).Durations := by
  refine ⟨durations.requests, ?_, durations.idle, fun mac isBound => ?_⟩
  · intro reply isReply isAck
    rcases mem_replies_serve.mp isReply with before | ⟨sent, sends, rfl⟩
    · exact durations.acks reply before isAck
    · obtain ⟨granted, manager_eq, _, sameTime⟩ :=
        DhcpServer.granted_of_handlePacket sends isAck
      refine ⟨sameTime.trans (durations.requests packet member), ?_⟩
      change ((DhcpServer.handlePacket network.manager packet
        clock).2.leasedIps.get? packet.clientMac).map Lease.expiresAt = _
      rw [manager_eq]
      exact IpManager.expiresAt_of_grant granted
  · obtain ⟨reply, isReply, rest⟩ := durations.bound mac isBound
    exact ⟨reply, mem_replies_serve.mpr (.inl isReply), rest⟩

/-- A client takes the duration from the ACK that binds it. -/
theorem deliver
    (durations : network.Durations) (mac : Text) {reply : DhcpReply}
    (member : reply ∈ network.replies) :
    (network.deliver mac reply).Durations := by
  refine ⟨?_, durations.acks, ?_, ?_⟩
  · intro packet isPacket
    rcases mem_requests_deliver.mp isPacket with before | now
    · exact durations.requests packet before
    · obtain ⟨call, stage, _, rfl⟩ := DhcpClient.stagePacket_of_receive now
      exact DhcpClient.leaseTime_stagePacket _ _ _
  · intro other isBound
    rcases eq_or_ne other mac with rfl | different
    · rw [clients_deliver_self] at isBound ⊢
      cases accepted : (network.clients other).accepts reply.packet with
      | true => rw [DhcpClient.receive_of_accepts accepted]
      | false =>
          have same := DhcpClient.receive_of_bound accepted
            (durations.idle other) isBound
          rw [same] at isBound ⊢
          exact durations.idle other isBound
    · rw [clients_deliver_of_ne _ different] at isBound ⊢
      exact durations.idle other isBound
  · intro other isBound
    rw [accepted_deliver]
    rcases eq_or_ne other mac with rfl | different
    · rw [clients_deliver_self] at isBound ⊢
      cases accepted : (network.clients other).accepts reply.packet with
      | true =>
          obtain ⟨isAck, _⟩ := DhcpClient.accepts_eq_true_iff.mp accepted
          obtain ⟨noTime, _⟩ := durations.acks reply member isAck
          rw [DhcpClient.receive_of_accepts accepted, if_pos rfl,
            Function.update_self]
          exact ⟨reply, member, rfl, isAck, noTime⟩
      | false =>
          have same := DhcpClient.receive_of_bound accepted
            (durations.idle other) isBound
          rw [same] at isBound ⊢
          exact durations.bound other isBound
    · rw [clients_deliver_of_ne _ different] at isBound ⊢
      obtain ⟨found, isReply, kept, rest⟩ := durations.bound other isBound
      refine ⟨found, isReply, ?_, rest⟩
      split
      · rw [Function.update_of_ne different, kept]
      · exact kept

/-- Step lemma: every action keeps what is said about durations. -/
theorem next
    (durations : network.Durations) {action : DhcpAction}
    (enabled : network.Enabled action) :
    (network.next action).Durations := by
  cases action with
  | acquire mac xid =>
      refine durations.setClient mac ?_ nofun nofun
      rintro packet ⟨⟩
      rfl
  | timeOut mac =>
      refine durations.setClient mac ?_ ?_ ?_
      · intro packet sends
        obtain ⟨call, stage, _, rfl⟩ := DhcpClient.stagePacket_of_timeOut sends
        exact DhcpClient.leaseTime_stagePacket _ _ _
      · exact DhcpClient.call_of_timeOut_bound (durations.idle mac)
      · intro isBound
        exact ⟨(DhcpClient.state_timeOut _).symm.trans isBound,
          DhcpClient.leaseTime_timeOut _⟩
  | serve packet clock => exact durations.serve clock enabled.1
  | deliver mac reply => exact durations.deliver mac enabled

end Durations

/-- The client takes its lease to last as long as the server granted it with
the reply that bound the client. -/
def AgreesOnDuration (network : DhcpNetwork) (mac : Text) : Prop :=
  ∃ reply, network.accepted mac = some reply ∧
    reply.expiresAt = some (reply.sentAt + (network.clients mac).leaseTime)

end DhcpNetwork

/-! ## A sample handshake -/

namespace Sample

/-- The reply to the DISCOVER of the sample client. -/
def offerReply : DhcpReply :=
  ⟨{ messageType := .offer
     xid := 7
     clientMac := "A"
     offeredIp := "127.0.0.2"
     leaseTime := 3600 }, 0, some 3600⟩

/-- The reply to its REQUEST. -/
def ackReply : DhcpReply :=
  ⟨{ messageType := .ack
     xid := 7
     clientMac := "A"
     offeredIp := "127.0.0.2" }, 1, some 3601⟩

/-- A handshake without loss. -/
def handshake : List DhcpAction :=
  [.acquire "A" 7,
    .serve { messageType := .discover, xid := 7, clientMac := "A" } ⟨0, 0⟩,
    .deliver "A" offerReply,
    .serve
      { messageType := .request
        xid := 7
        clientMac := "A"
        offeredIp := "127.0.0.2" } ⟨1, 1⟩,
    .deliver "A" ackReply]

/-- The machine of the sample, with a pool of two addresses. -/
abbrev dhcp : Machine DhcpNetwork DhcpAction :=
  dhcpMachine ⟨127, 0, 0, 2⟩ ⟨127, 0, 0, 3⟩

/-- The network after the handshake. -/
def handshaken : DhcpNetwork := dhcp.exec dhcp.start handshake

theorem handshaken_reachable : dhcp.Reachable handshaken := by
  have admitted : dhcp.Admits dhcp.start handshake := by decide +kernel
  exact Machine.Reachable.start.exec admitted

theorem handshaken_bound : (handshaken.clients "A").state = .bound := by
  decide +kernel

end Sample

/-- A bound client never agrees with the server on the duration of its lease:
it was bound by an ACK that granted the default duration, and takes the lease
to last no time. -/
theorem boundClient_disagrees
    (startIp endIp : Ipv4) (network : DhcpNetwork)
    (reachable : (dhcpMachine startIp endIp).Reachable network) (mac : Text)
    (bound : (network.clients mac).state = .bound) :
    (∃ reply ∈ network.replies, network.accepted mac = some reply ∧
      reply.packet.messageType = .ack ∧
      reply.expiresAt = some (reply.sentAt + dhcpDefaultLeaseTime) ∧
      (network.clients mac).leaseTime = 0) ∧
    ¬ network.AgreesOnDuration mac := by
  have durations : network.Durations :=
    Machine.Reachable.invariant DhcpNetwork.Durations (.start startIp endIp)
      (fun _ _ _ durations enabled => durations.next enabled) reachable
  obtain ⟨reply, member, accepted, isAck, noTime⟩ := durations.bound mac bound
  obtain ⟨_, expires⟩ := durations.acks reply member isAck
  refine ⟨⟨reply, member, accepted, isAck, expires, noTime⟩, ?_⟩
  rintro ⟨other, sameReply, agrees⟩
  obtain rfl := Option.some.inj (accepted.symm.trans sameReply)
  rw [noTime, expires, Option.some.injEq, add_right_inj] at agrees
  cases agrees

/-- After the sample handshake, the client takes its lease to last no time. -/
theorem boundClient_disagrees_handshake :
    (∃ reply ∈ Sample.handshaken.replies,
      Sample.handshaken.accepted "A" = some reply ∧
      reply.packet.messageType = .ack ∧
      reply.expiresAt = some (reply.sentAt + dhcpDefaultLeaseTime) ∧
      (Sample.handshaken.clients "A").leaseTime = 0) ∧
    ¬ Sample.handshaken.AgreesOnDuration "A" :=
  boundClient_disagrees ⟨127, 0, 0, 2⟩ ⟨127, 0, 0, 3⟩ Sample.handshaken
    Sample.handshaken_reachable "A" Sample.handshaken_bound

/-- The sample client is bound, by an ACK that the server sent after one second
for a lease up to second 3601, and does not agree. -/
theorem handshake_disagrees :
    Sample.dhcp.Reachable Sample.handshaken ∧
      (Sample.handshaken.clients "A").state = .bound ∧
      Sample.handshaken.accepted "A" = some Sample.ackReply ∧
      ¬ Sample.handshaken.AgreesOnDuration "A" := by
  have accepted : Sample.handshaken.accepted "A" = some Sample.ackReply := by
    decide +kernel
  refine ⟨Sample.handshaken_reachable, Sample.handshaken_bound, accepted, ?_⟩
  rintro ⟨reply, sameReply, agrees⟩
  obtain rfl := Option.some.inj (accepted.symm.trans sameReply)
  have noTime : (Sample.handshaken.clients "A").leaseTime = 0 := by
    decide +kernel
  rw [noTime] at agrees
  norm_num [Sample.ackReply] at agrees

end RudpAgentStack

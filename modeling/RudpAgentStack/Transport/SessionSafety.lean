import RudpAgentStack.Rudp.LinkProgress
import RudpAgentStack.Transport.Sessions

/-!
# Sessions as pairs of links

A client and the server's connection for its address are the two ends of two
links, one in each direction.  While lifetimes are kept apart, every step of a
session is a step of at most one of the two links, so all that holds of links
holds of sessions.
-/

namespace RudpAgentStack

open Foundation

/-! ## How an endpoint treats the two kinds of packets -/

namespace Endpoint

/-- An acknowledgement goes to the sender alone. -/
theorem handleDatagram_ack
    (endpoint : Endpoint) {ack : RUDPPacket} {expectedSeq : Int}
    (acknowledges : Link.Acknowledges ack expectedSeq)
    {datagram : Bytes} {checksum : Int}
    (read : RUDPPacket.unpack datagram = .ok (ack.withChecksum checksum))
    (currentTime : ℚ) :
    endpoint.handleDatagram datagram currentTime =
      endpoint.ofSender
        (endpoint.sender.onAckReceived ack.ackNum ack.rwnd currentTime) := by
  have isAck : (ack.withChecksum checksum).isAck = true := by
    rw [RUDPPacket.isAck, RUDPPacket.withChecksum, acknowledges.flags]
    decide
  have noData : (ack.withChecksum checksum).hasData = false := by
    simp [RUDPPacket.hasData, RUDPPacket.withChecksum,
      acknowledges.ackOnly.msgId, acknowledges.ackOnly.payload]
  simp only [handleDatagram, read, demultiplex, isAck, noData, if_true,
    Bool.false_eq_true, if_false]
  rfl

/-- A segment of a sender's stream goes to the receiver alone, which
acknowledges it. -/
theorem handleDatagram_segment
    (endpoint : Endpoint) {packet : RUDPPacket}
    (enqueued : packet.IsEnqueued)
    {datagram : Bytes} {checksum : Int}
    (read : RUDPPacket.unpack datagram = .ok (packet.withChecksum checksum))
    (currentTime : ℚ) :
    endpoint.handleDatagram datagram currentTime =
      let result :=
        endpoint.receiver.processSegment (packet.withChecksum checksum)
      { endpoint := { endpoint with receiver := result.receiver }
        sent := [result.ackPacket]
        delivered := result.delivered } := by
  have notAck : (packet.withChecksum checksum).isAck = false := enqueued.isAck
  have hasData : (packet.withChecksum checksum).hasData = true :=
    enqueued.hasData
  simp [handleDatagram, read, demultiplex, notAck, hasData]

end Endpoint

/-- An operation that does nothing leaves an end as it was. -/
theorem Party.after_nothing (party : Party) :
    party.after [] (party.endpoint.ofSender (party.endpoint.sender, [])) =
      party := by
  simp [Party.after, Endpoint.ofSender, History.record]

/-! ## The ends of two links -/

/-- A party is the sending end of one link and the receiving end of
another. -/
structure Near (party : Party) (outward inward : Link) : Prop where
  sender : outward.sending.sender = party.endpoint.sender
  submitted : outward.sending.messages = party.history.submitted
  receiver : inward.receiving.receiver = party.endpoint.receiver
  delivered : inward.receiving.delivered = party.history.delivered
  packets : ∀ packet, packet ∈ party.history.packets ↔
    packet ∈ outward.sending.handed ∨ packet ∈ inward.acks

namespace Near

variable {party : Party} {outward inward : Link}

/-- A call of the sender is a step of the outward link. -/
theorem call (near : Near party outward inward)
    {call : RUDPSender.Call} {submitted : List (Bytes × Int)}
    {result : RUDPSender × List RUDPPacket}
    (next : outward.sending.next call =
      outward.sending.record (outward.sending.messages ++ submitted)
        result) :
    Near (party.after submitted (party.endpoint.ofSender result))
      (outward.call call) inward where
  sender := by
    simp only [Link.call, next]
    rfl
  submitted := by
    simp only [Link.call, next, RUDPSender.Run.record, near.submitted]
    rfl
  receiver := near.receiver
  delivered := near.delivered.trans (List.append_nil _).symm
  packets := by
    intro packet
    simp only [Party.after, History.record, Endpoint.ofSender, Link.call,
      next, RUDPSender.Run.record, List.mem_append, near.packets]
    tauto

/-- Receiving a segment is a step of the inward link. -/
theorem receiveSegment (near : Near party outward inward)
    (segment : RUDPPacket) :
    Near (party.after []
      { endpoint :=
          { party.endpoint with
            receiver :=
              (party.endpoint.receiver.processSegment segment).receiver }
        sent := [(party.endpoint.receiver.processSegment segment).ackPacket]
        delivered :=
          (party.endpoint.receiver.processSegment segment).delivered })
      outward (inward.receiveSegment segment) where
  sender := near.sender
  submitted := near.submitted.trans (List.append_nil _).symm
  receiver := by
    simp only [Link.receiveSegment, RUDPReceiver.Run.next, near.receiver]
    rfl
  delivered := by
    simp only [Link.receiveSegment, RUDPReceiver.Run.next, near.receiver,
      near.delivered]
    rfl
  packets := by
    intro packet
    simp only [Party.after, History.record, Link.receiveSegment,
      near.receiver, List.mem_append, near.packets]
    tauto

/-- Packets of the party in flight are packets of one of the two links. -/
theorem inFlight (near : Near party outward inward) {datagram : Bytes}
    (inFlight : InFlight party.history.packets datagram) :
    InFlight outward.sending.handed datagram ∨
      InFlight inward.acks datagram := by
  obtain ⟨packet, member, packed⟩ := inFlight
  rcases (near.packets packet).mp member with handed | acknowledged
  · exact .inl ⟨packet, handed, packed⟩
  · exact .inr ⟨packet, acknowledged, packed⟩

theorem inFlight_handed (near : Near party outward inward) {datagram : Bytes}
    (inFlight : InFlight outward.sending.handed datagram) :
    InFlight party.history.packets datagram := by
  obtain ⟨packet, handed, packed⟩ := inFlight
  exact ⟨packet, (near.packets packet).mpr (.inl handed), packed⟩

theorem inFlight_acks (near : Near party outward inward) {datagram : Bytes}
    (inFlight : InFlight inward.acks datagram) :
    InFlight party.history.packets datagram := by
  obtain ⟨packet, acknowledged, packed⟩ := inFlight
  exact ⟨packet, (near.packets packet).mpr (.inr acknowledged), packed⟩

end Near

/-- Two parties are the two ends of two reachable links. -/
structure Joined (near far : Party) (outward inward : Link) : Prop where
  near : Near near outward inward
  far : Near far inward outward
  outward : Link.machine.Reachable outward
  inward : Link.machine.Reachable inward

namespace Joined

variable {near far : Party} {outward inward : Link}

theorem symm (joined : Joined near far outward inward) :
    Joined far near inward outward :=
  ⟨joined.far, joined.near, joined.inward, joined.outward⟩

/-- Both ends of a lifetime begin anew. -/
theorem start : Joined .new .new Link.machine.start Link.machine.start := by
  have near : Near .new Link.machine.start Link.machine.start :=
    { sender := rfl
      submitted := rfl
      receiver := rfl
      delivered := rfl
      packets := by simp [Party.new, History.empty, Link.machine,
        RUDPSender.Run.machine] }
  exact ⟨near, near, .start, .start⟩

theorem send (joined : Joined near far outward inward)
    (data : Bytes) (msgId : Int) (currentTime : ℚ) :
    Joined
      (near.after [(data, msgId)] (near.endpoint.ofSender
        (near.endpoint.sender.enqueueData data msgId currentTime))) far
      (Link.machine.next outward (.enqueueData data msgId currentTime))
      inward where
  near := joined.near.call (by rw [← joined.near.sender]; rfl)
  far := { joined.far with }
  outward := joined.outward.next trivial
  inward := joined.inward

theorem tick (joined : Joined near far outward inward) (currentTime : ℚ) :
    Joined
      (near.after [] (near.endpoint.ofSender
        (near.endpoint.sender.checkTimeouts currentTime))) far
      (Link.machine.next outward (.checkTimeouts currentTime)) inward where
  near := joined.near.call (by
    rw [← joined.near.sender, List.append_nil]
    rfl)
  far := { joined.far with }
  outward := joined.outward.next trivial
  inward := joined.inward

/-- Receiving an acknowledgement of the outward link. -/
theorem receiveAck (joined : Joined near far outward inward)
    {datagram : Bytes} (inFlight : InFlight outward.acks datagram)
    (currentTime : ℚ) :
    Joined
      (near.after [] (near.endpoint.handleDatagram datagram currentTime)) far
      (Link.machine.next outward (.deliverAck datagram currentTime))
      inward := by
  have agrees := Link.agrees_of_reachable joined.outward
  obtain ⟨ack, member, checksum, read⟩ := Link.unpack_of_inFlight
    (fun ack member => .inr (agrees.acks ack member).ackOnly) inFlight
  have stepped : Link.machine.next outward (.deliverAck datagram currentTime) =
      outward.call (.onAckReceived ack.ackNum ack.rwnd currentTime) := by
    simp only [Link.machine, Link.next, read]
    rfl
  rw [near.endpoint.handleDatagram_ack (agrees.acks ack member) read,
    stepped]
  exact
    { near := joined.near.call (by
        rw [← joined.near.sender, List.append_nil]
        rfl)
      far := { joined.far with }
      outward := stepped ▸ joined.outward.next inFlight
      inward := joined.inward }

/-- Receiving a segment of the inward link. -/
theorem receiveSegment (joined : Joined near far outward inward)
    {datagram : Bytes} (inFlight : InFlight inward.sending.handed datagram)
    (currentTime : ℚ) :
    Joined
      (near.after [] (near.endpoint.handleDatagram datagram currentTime)) far
      outward (Link.machine.next inward (.deliverSegment datagram)) := by
  have agrees := Link.agrees_of_reachable joined.inward
  have enqueued : ∀ packet ∈ inward.sending.handed, packet.IsEnqueued :=
    fun packet handed =>
      RUDPSender.isEnqueued_of_mem_stream (agrees.mem_stream handed)
  obtain ⟨packet, handed, checksum, read⟩ := Link.unpack_of_inFlight
    (fun packet handed => (enqueued packet handed).hasWireShape) inFlight
  have stepped : Link.machine.next inward (.deliverSegment datagram) =
      inward.receiveSegment (packet.withChecksum checksum) := by
    simp only [Link.machine, Link.next, read]
  rw [near.endpoint.handleDatagram_segment (enqueued packet handed) read,
    stepped]
  exact
    { near := joined.near.receiveSegment _
      far := { joined.far with }
      outward := joined.outward
      inward := stepped ▸ joined.inward.next inFlight }

/-- Receiving any datagram of the other party. -/
theorem receive (joined : Joined near far outward inward)
    {datagram : Bytes} (inFlight : InFlight far.history.packets datagram)
    (currentTime : ℚ) :
    ∃ outward' inward', Joined
      (near.after [] (near.endpoint.handleDatagram datagram currentTime)) far
      outward' inward' := by
  rcases joined.far.inFlight inFlight with handed | acknowledged
  · exact ⟨_, _, joined.receiveSegment handed currentTime⟩
  · exact ⟨_, _, joined.receiveAck acknowledged currentTime⟩

end Joined

/-! ## Sessions kept apart -/

namespace Sessions

variable {address : Address} {sessions : Sessions}

/-- The client and the server's connection are the ends of two links. -/
def Linked (address : Address) (sessions : Sessions) : Prop :=
  ∃ outward inward, Joined sessions.client (sessions.serverParty address)
    outward inward

/-- What the server does is what its connection for the address does. -/
theorem serverParty_serverDoes
    (submitted : List (Bytes × Int)) (result : ServerResult) :
    (sessions.serverDoes address submitted result).serverParty address =
      (sessions.serverParty address).after submitted
        (result.forAddress address) := rfl

theorem serverParty_serverReceive (datagram : Bytes) (currentTime : ℚ) :
    (sessions.next address
        (.serverReceive datagram address currentTime)).serverParty address =
      (sessions.serverParty address).after []
        ((sessions.serverParty address).endpoint.handleDatagram datagram
          currentTime) := by
  simp only [Sessions.next, serverParty_serverDoes,
    forAddress_handleDatagram_self]
  rfl

/-- Step lemma: an orderly step keeps the two ends linked. -/
theorem Linked.next (linked : Linked address sessions) {action : Action}
    (orderly : Orderly address sessions action) :
    Linked address (sessions.next address action) := by
  obtain ⟨outward, inward, joined⟩ := linked
  cases action with
  | newLifetime =>
      refine ⟨Link.machine.start, Link.machine.start, ?_⟩
      have fresh : sessions.newLifetime.serverParty address = .new := by
        have pristine : sessions.server.connection address = .new := orderly
        simp only [serverParty, newLifetime, pristine]
        rfl
      change Joined .new (sessions.newLifetime.serverParty address) _ _
      rw [fresh]
      exact .start
  | clientSend data requestId currentTime =>
      exact ⟨_, _, joined.send data requestId currentTime⟩
  | clientReceive datagram currentTime =>
      exact joined.receive orderly currentTime
  | clientTick currentTime =>
      exact ⟨_, _, joined.tick currentTime⟩
  | serverSend data requestId addr currentTime =>
      simp only [Linked, Sessions.next, serverParty_serverDoes]
      by_cases here : addr = address
      · subst here
        rw [if_pos rfl, RUDPServerTransport.send, forAddress_store_self]
        exact ⟨_, _, (joined.symm.send data requestId currentTime).symm⟩
      · rw [if_neg here, RUDPServerTransport.send,
          forAddress_store_of_ne _ here]
        exact ⟨_, _, (sessions.serverParty address).after_nothing ▸ joined⟩
  | serverReceive datagram addr currentTime =>
      by_cases here : addr = address
      · subst here
        rw [Linked, serverParty_serverReceive]
        obtain ⟨inward', outward', joined'⟩ :=
          joined.symm.receive (orderly rfl) currentTime
        exact ⟨_, _, joined'.symm⟩
      · simp only [Linked, Sessions.next, serverParty_serverDoes]
        rw [forAddress_handleDatagram_of_ne _ here]
        exact ⟨_, _, (sessions.serverParty address).after_nothing ▸ joined⟩
  | serverTick currentTime =>
      simp only [Linked, Sessions.next, serverParty_serverDoes]
      rw [forAddress_tickConnections]
      exact ⟨_, _, (joined.symm.tick currentTime).symm⟩

/-- The system in which lifetimes are kept apart. -/
def orderlyMachine (address : Address) : Machine Sessions Action :=
  (machine address).restrict (Orderly address)

/-- Run lemma: while lifetimes are kept apart the two ends are linked. -/
theorem linked_of_reachable
    (reachable : (orderlyMachine address).Reachable sessions) :
    Linked address sessions := by
  refine Machine.Reachable.invariant (Linked address) ?_ ?_ reachable
  · exact ⟨_, _, .start⟩
  · intro sessions action _ linked enabled
    exact linked.next enabled.2

/-- The delivery of a datagram of the current lifetime. -/
def IsDelivery (address : Address) (sessions : Sessions) : Action → Prop
  | .clientReceive datagram _ =>
      InFlight sessions.serverHistory.packets datagram
  | .serverReceive datagram addr _ =>
      addr = address ∧ InFlight sessions.client.history.packets datagram
  | _ => False

/-- The system while only datagrams of the current lifetime are delivered. -/
def deliveries (address : Address) : Machine Sessions Action :=
  (orderlyMachine address).restrict (IsDelivery address)

/-- Deliveries on the link from the server are deliveries of the session. -/
theorem exists_steps_of_link_steps
    {outward inward inward' : Link}
    (joined : Joined sessions.client (sessions.serverParty address)
      outward inward)
    (steps : Link.deliveries.Steps inward inward') :
    ∃ sessions', (deliveries address).Steps sessions sessions' ∧
      Joined sessions'.client (sessions'.serverParty address)
        outward inward' := by
  induction steps with
  | refl => exact ⟨sessions, .refl, joined⟩
  | tail _ step inductionHypothesis =>
      obtain ⟨between, steps, joined⟩ := inductionHypothesis
      obtain ⟨action, enabled, rfl⟩ := step
      cases action with
      | enqueueData data msgId currentTime => exact enabled.2.elim
      | checkTimeouts currentTime => exact enabled.2.elim
      | deliverSegment datagram =>
          have inFlight := joined.far.inFlight_handed enabled.1
          have delivered := joined.receiveSegment enabled.1 0
          refine ⟨_, steps.tail ⟨.clientReceive datagram 0,
            ⟨⟨?_, inFlight⟩, inFlight⟩, rfl⟩, delivered⟩
          obtain ⟨packet, member, packed⟩ := inFlight
          exact ⟨packet, List.mem_append_left _ member, packed⟩
      | deliverAck datagram currentTime =>
          have inFlight := joined.near.inFlight_acks enabled.1
          have delivered := joined.symm.receiveAck enabled.1 currentTime
          refine ⟨_, steps.tail ⟨.serverReceive datagram address currentTime,
            ⟨⟨fun _ => ?_, fun _ => inFlight⟩, rfl, inFlight⟩, rfl⟩, ?_⟩
          · obtain ⟨packet, member, packed⟩ := inFlight
            exact ⟨packet, List.mem_append_left _ member, packed⟩
          · rw [← serverParty_serverReceive] at delivered
            exact delivered.symm

/-! ## What a lifetime can rely on -/

/-- Every message all of whose packets the client has sent and removed as
acknowledged has been handled by the server in this lifetime, after the
messages before it. -/
def AcknowledgedHandled (sessions : Sessions) : Prop :=
  ∀ earlier data requestId later,
    sessions.client.history.submitted =
      earlier ++ (data, requestId) :: later →
    (∀ packet ∈ RUDPSender.messagePackets requestId
        (RUDPSender.stream earlier).length 0 (slices mss data),
      packet ∉ sessions.client.endpoint.sender.sendBuffer ∧
        packet.seqNum ∉ sessions.client.endpoint.sender.unackedPackets) →
    earlier.map Prod.fst ++ [data] <+: sessions.serverHistory.delivered

/-- Everything the server has sent in this lifetime can be delivered to the
client, in order and from the first message on. -/
def RepliesDeliverable (address : Address) (sessions : Sessions) : Prop :=
  ∃ sessions', (deliveries address).Steps sessions sessions' ∧
    sessions'.client.history.delivered =
      sessions.serverHistory.submitted.map Prod.fst

/-- An address for the runs below. -/
def loopbackClient : Address := ("127.0.0.1", 5000)

/-- A first lifetime with one message and one reply. -/
def firstLifetime : List Action :=
  [.clientSend [1] 7 0,
    .serverReceive
      [0, 0, 0, 0, 0, 0, 0, 0, 4, 0, 0, 244, 254, 0, 0, 0, 7, 0, 0, 0, 0, 1]
      loopbackClient 0,
    .serverSend [9] 7 loopbackClient 0,
    .clientReceive
      [0, 0, 0, 0, 0, 0, 0, 0, 4, 0, 0, 244, 246, 0, 0, 0, 7, 0, 0, 0, 0, 9]
      0,
    .serverReceive [0, 0, 0, 0, 0, 0, 0, 1, 2, 0, 64, 189, 254]
      loopbackClient 0]

/-- A second lifetime at an address whose connection is not new. -/
def secondLifetime : List Action :=
  [.newLifetime,
    .clientSend [2] 8 0,
    .serverReceive
      [0, 0, 0, 0, 0, 0, 0, 0, 4, 0, 0, 243, 253, 0, 0, 0, 8, 0, 0, 0, 0, 2]
      loopbackClient 0,
    .clientReceive [0, 0, 0, 0, 0, 0, 0, 1, 2, 0, 64, 189, 254] 0,
    .serverSend [10] 8 loopbackClient 0]

/-- A second lifetime at an address without a connection, where a datagram of
the first lifetime arrives late. -/
def lateDatagram : List Action :=
  [.clientSend [1] 7 0,
    .newLifetime,
    .clientSend [2] 8 0,
    .serverReceive
      [0, 0, 0, 0, 0, 0, 0, 0, 4, 0, 0, 244, 254, 0, 0, 0, 7, 0, 0, 0, 0, 1]
      loopbackClient 0,
    .clientReceive [0, 0, 0, 0, 0, 0, 0, 1, 2, 0, 64, 189, 254] 0]

end Sessions

end RudpAgentStack

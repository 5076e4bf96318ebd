import RudpAgentStack.Foundation.ReliableChannel
import RudpAgentStack.Rudp.ReceiverWindow
import RudpAgentStack.Rudp.SenderFlow
import RudpAgentStack.Rudp.SenderRuns

/-!
# One sender and one receiver over an unreliable network

The network keeps every packet that was ever handed to it, in both directions.
Any datagram of these packets may be delivered at any time and any number of
times, or never, so loss, duplication, delay and reordering are all runs of
the same machine.  Nothing is forged: only datagrams of packets handed over
are delivered.
-/

namespace RudpAgentStack

open Foundation

/-- A sender, a receiver and what they have put on the network. -/
structure Link where
  sending : RUDPSender.Run
  receiving : RUDPReceiver.Run
  /-- The acknowledgements built so far. -/
  acks : List RUDPPacket

/-- A datagram of one of the packets handed to the network. -/
def InFlight (packets : List RUDPPacket) (datagram : Bytes) : Prop :=
  ∃ packet ∈ packets, packet.pack = .ok datagram

instance (packets : List RUDPPacket) (datagram : Bytes) :
    Decidable (InFlight packets datagram) :=
  inferInstanceAs (Decidable (∃ packet ∈ packets, _))

namespace Link

/-- What can happen on a link. -/
inductive Action
  | enqueueData (data : Bytes) (msgId : Int) (currentTime : ℚ)
  | deliverSegment (datagram : Bytes)
  | deliverAck (datagram : Bytes) (currentTime : ℚ)
  | checkTimeouts (currentTime : ℚ)

/-- The receiver processes a segment and acknowledges it. -/
def receiveSegment (link : Link) (segment : RUDPPacket) : Link :=
  let result := link.receiving.receiver.processSegment segment
  { link with
    receiving := link.receiving.next segment
    acks := link.acks ++ [result.ackPacket] }

/-- The sender makes a call. -/
def call (link : Link) (call : RUDPSender.Call) : Link :=
  { link with sending := link.sending.next call }

/-- One step.  A datagram that does not unpack is ignored. -/
def next (link : Link) : Action → Link
  | .enqueueData data msgId currentTime =>
      link.call (.enqueueData data msgId currentTime)
  | .deliverSegment datagram =>
      match RUDPPacket.unpack datagram with
      | .error _ => link
      | .ok segment => link.receiveSegment segment
  | .deliverAck datagram currentTime =>
      match RUDPPacket.unpack datagram with
      | .error _ => link
      | .ok ack => link.call (.onAckReceived ack.ackNum ack.rwnd currentTime)
  | .checkTimeouts currentTime => link.call (.checkTimeouts currentTime)

/-- The closed system of a new sender and a new receiver. -/
def machine : Machine Link Action where
  start :=
    { sending := (RUDPSender.Run.machine maxRwnd).start
      receiving := .start
      acks := [] }
  Enabled := fun link action =>
    match action with
    | .deliverSegment datagram => InFlight link.sending.handed datagram
    | .deliverAck datagram _ => InFlight link.acks datagram
    | _ => True
  next := next

instance : ∀ (link : Link) (action : Action),
    Decidable (machine.Enabled link action)
  | _, .enqueueData _ _ _ => .isTrue trivial
  | link, .deliverSegment datagram =>
      inferInstanceAs (Decidable (InFlight link.sending.handed datagram))
  | link, .deliverAck datagram _ =>
      inferInstanceAs (Decidable (InFlight link.acks datagram))
  | _, .checkTimeouts _ => .isTrue trivial

/-! ## The joint invariant -/

/-- An acknowledgement of segments below `expectedSeq`. -/
structure Acknowledges (ack : RUDPPacket) (expectedSeq : Int) : Prop where
  seqNum : ack.seqNum = 0
  ackNum_nonneg : 0 ≤ ack.ackNum
  ackNum_le : ack.ackNum ≤ expectedSeq
  flags : ack.flags = flagAck
  rwnd : 1 ≤ ack.rwnd ∧ ack.rwnd ≤ maxRwnd
  ackOnly : ack.IsAckOnly

/-- A sender, a receiver and the acknowledgements between them agree: the
receiver has accepted nothing but transmitted segments, every acknowledgement
acknowledges what was taken in order, the last one all of it, and `base` stays
behind the expected number. -/
structure Agrees
    (sending : RUDPSender.Run) (receiving : RUDPReceiver.Run)
    (acks : List RUDPPacket) : Prop where
  consistent : sending.Consistent sending.sender.base
  flowing : sending.sender.Flowing
  settled : receiving.Settled
  accepted : ∀ seq segment, receiving.accepted.get? seq = some segment →
    ∃ packet ∈ sending.handed, packet.seqNum = seq ∧
      ∃ checksum, segment = packet.withChecksum checksum
  base_le : sending.sender.base ≤ receiving.receiver.expectedSeq
  acknowledged : receiving.receiver.expectedSeq = 0 ∨
    ∃ ack ∈ acks, ack.ackNum = receiving.receiver.expectedSeq
  acks : ∀ ack ∈ acks, Acknowledges ack receiving.receiver.expectedSeq
  noDrop : receiving.receiver.stats.drop = 0

theorem agrees_start :
    Agrees machine.start.sending machine.start.receiving
      machine.start.acks where
  consistent := RUDPSender.Run.consistent_start maxRwnd
  flowing := RUDPSender.flowing_new
  settled := RUDPReceiver.Run.settled_start
  accepted := by simp [machine, RUDPReceiver.Run.start]
  base_le := le_rfl
  acks := by simp [machine]
  acknowledged := .inl rfl
  noDrop := rfl

namespace Agrees

variable {sending : RUDPSender.Run} {receiving : RUDPReceiver.Run}
  {acks : List RUDPPacket}

/-- The receiver expects no segment beyond the next unsent one. -/
theorem expectedSeq_le (agrees : Agrees sending receiving acks) :
    receiving.receiver.expectedSeq ≤ sending.sender.nextUnsent := by
  have tracks := agrees.settled.tracks
  rcases tracks.expectedSeq_nonneg.eq_or_lt with zero | positive
  · rw [← zero]
    exact agrees.consistent.window.nextUnsent_nonneg
  · have last := tracks.below (receiving.receiver.expectedSeq - 1)
      (by omega) (by omega)
    obtain ⟨segment, found⟩ := (Dict.mem_iff_exists_get? _ _).mp last
    obtain ⟨packet, handed, seqNum, _⟩ := agrees.accepted _ _ found
    have := (agrees.consistent.segment packet handed).2.1
    omega

/-- At most a full window is in flight. -/
theorem nextUnsent_le (agrees : Agrees sending receiving acks) :
    sending.sender.nextUnsent ≤ sending.sender.base + maxRwnd := by
  have size := agrees.consistent.window.size
  have bounded := agrees.flowing.inFlight
  omega

/-- Every segment ever transmitted lies below the end of the receive
window. -/
theorem seqNum_lt (agrees : Agrees sending receiving acks)
    {packet : RUDPPacket} (handed : packet ∈ sending.handed) :
    packet.seqNum < receiving.receiver.expectedSeq + maxRwnd := by
  have upper := (agrees.consistent.segment packet handed).2.1
  have full := agrees.nextUnsent_le
  have behind := agrees.base_le
  omega

theorem mem_stream (agrees : Agrees sending receiving acks)
    {packet : RUDPPacket} (handed : packet ∈ sending.handed) :
    packet ∈ RUDPSender.stream sending.messages :=
  List.mem_of_getElem? (agrees.consistent.segment packet handed).2.2

/-! ### Steps -/

/-- A call of the sender that keeps it flowing and acknowledges no more than
was taken keeps the agreement. -/
theorem call (agrees : Agrees sending receiving acks)
    {call : RUDPSender.Call}
    (transmitted : sending.AcksTransmitted call)
    (flowing : (sending.next call).sender.Flowing)
    (behind : (sending.next call).sender.base ≤
      receiving.receiver.expectedSeq) :
    Agrees (sending.next call) receiving acks where
  consistent := agrees.consistent.next_of_acksTransmitted transmitted
  flowing := flowing
  settled := agrees.settled
  accepted := by
    intro seq segment found
    obtain ⟨packet, handed, same⟩ := agrees.accepted seq segment found
    exact ⟨packet, sending.handed_subset_next call handed, same⟩
  base_le := behind
  acks := agrees.acks
  acknowledged := agrees.acknowledged
  noDrop := agrees.noDrop

theorem enqueueData (agrees : Agrees sending receiving acks)
    (data : Bytes) (msgId : Int) (currentTime : ℚ) :
    Agrees (sending.next (.enqueueData data msgId currentTime))
      receiving acks := by
  refine agrees.call trivial ?_ ?_
  · exact agrees.flowing.enqueueData agrees.consistent.window data msgId
      currentTime
  · simpa [RUDPSender.Run.next, RUDPSender.Run.record] using agrees.base_le

theorem checkTimeouts (agrees : Agrees sending receiving acks)
    (currentTime : ℚ) :
    Agrees (sending.next (.checkTimeouts currentTime)) receiving acks := by
  refine agrees.call trivial ?_ ?_
  · exact agrees.flowing.checkTimeouts currentTime
  · simpa [RUDPSender.Run.next, RUDPSender.Run.record] using agrees.base_le

/-- Receiving one of the acknowledgements keeps the agreement. -/
theorem onAckReceived (agrees : Agrees sending receiving acks)
    {ack : RUDPPacket} (inFlight : ack ∈ acks) (currentTime : ℚ) :
    Agrees (sending.next (.onAckReceived ack.ackNum ack.rwnd currentTime))
      receiving acks := by
  have acknowledges := agrees.acks ack inFlight
  refine agrees.call ?_ ?_ ?_
  · have taken := acknowledges.ackNum_le.trans agrees.expectedSeq_le
    simpa [RUDPSender.Run.AcksTransmitted,
      agrees.consistent.transmitted_eq] using taken
  · exact agrees.flowing.onAckReceived agrees.consistent.window
      acknowledges.rwnd currentTime
  · simp only [RUDPSender.Run.next, RUDPSender.Run.record,
      RUDPSender.onAckReceived_base]
    exact max_le agrees.base_le acknowledges.ackNum_le

/-- Receiving a transmitted segment and acknowledging it keeps the
agreement. -/
theorem receiveSegment (agrees : Agrees sending receiving acks)
    {packet : RUDPPacket} (handed : packet ∈ sending.handed)
    (checksum : Int) :
    Agrees sending (receiving.next (packet.withChecksum checksum))
      (acks ++ [(receiving.receiver.processSegment
        (packet.withChecksum checksum)).ackPacket]) := by
  have mono := agrees.settled.expectedSeq_le_next
    (packet.withChecksum checksum)
  have settled := agrees.settled.next (packet.withChecksum checksum)
  exact
    { consistent := agrees.consistent
      flowing := agrees.flowing
      settled := settled
      accepted := by
        intro seq segment found
        rcases RUDPReceiver.Run.get?_accept found with earlier | ⟨rfl, rfl⟩
        · exact agrees.accepted seq segment earlier
        · exact ⟨packet, handed, rfl, checksum, rfl⟩
      base_le := agrees.base_le.trans mono
      acks := by
        intro ack member
        rcases List.mem_append.mp member with earlier | last
        · have acknowledges := agrees.acks ack earlier
          exact
            { acknowledges with
              ackNum_le := acknowledges.ackNum_le.trans mono }
        · obtain rfl := List.mem_singleton.mp last
          obtain ⟨ackNum, _, flags⟩ := receiving.receiver.processSegment_ack
            (packet.withChecksum checksum)
          obtain ⟨_, rwnd⟩ :=
            agrees.settled.advertised (packet.withChecksum checksum)
          exact
            { seqNum := rfl
              ackNum_nonneg :=
                settled.tracks.expectedSeq_nonneg.trans_eq ackNum.symm
              ackNum_le := ackNum.le
              flags := flags
              rwnd := rwnd
              ackOnly := ⟨rfl, rfl, rfl⟩ }
      acknowledged := .inr ⟨_,
        List.mem_append_right _ (List.mem_singleton_self _),
        (receiving.receiver.processSegment_ack _).1⟩
      noDrop := by
        have inside : (packet.withChecksum checksum).seqNum <
            receiving.receiver.expectedSeq + maxRwnd := by
          rw [RUDPPacket.seqNum_withChecksum]
          exact agrees.seqNum_lt handed
        simp only [RUDPReceiver.Run.next]
        rw [RUDPReceiver.processSegment_drop _ inside, agrees.noDrop] }

end Agrees

/-- A datagram in flight unpacks to its packet with the checksum filled in. -/
theorem unpack_of_inFlight
    {packets : List RUDPPacket} {datagram : Bytes}
    (shape : ∀ packet ∈ packets, packet.HasWireShape)
    (inFlight : InFlight packets datagram) :
    ∃ packet ∈ packets, ∃ checksum,
      RUDPPacket.unpack datagram = .ok (packet.withChecksum checksum) := by
  obtain ⟨packet, member, packed⟩ := inFlight
  obtain ⟨checksum, _, read⟩ :=
    RUDPPacket.unpack_of_pack (shape packet member) packed
  exact ⟨packet, member, checksum, read⟩

/-- Run lemma: both ends agree in every reachable state. -/
theorem agrees_of_reachable {link : Link}
    (reachable : machine.Reachable link) :
    Agrees link.sending link.receiving link.acks := by
  refine Machine.Reachable.invariant
    (fun link => Agrees link.sending link.receiving link.acks)
    agrees_start ?_ reachable
  intro link action _ agrees enabled
  cases action with
  | enqueueData data msgId currentTime =>
      exact agrees.enqueueData data msgId currentTime
  | deliverSegment datagram =>
      obtain ⟨packet, handed, checksum, read⟩ := unpack_of_inFlight
        (fun packet handed => (RUDPSender.isEnqueued_of_mem_stream
          (agrees.mem_stream handed)).hasWireShape) enabled
      simp only [machine, next, read]
      exact agrees.receiveSegment handed checksum
  | deliverAck datagram currentTime =>
      obtain ⟨ack, inFlight, checksum, read⟩ := unpack_of_inFlight
        (fun ack inFlight => .inr (agrees.acks ack inFlight).ackOnly) enabled
      simp only [machine, next, read]
      exact agrees.onAckReceived inFlight currentTime
  | checkTimeouts currentTime => exact agrees.checkTimeouts currentTime

end Link

end RudpAgentStack

import RudpAgentStack.Rudp.Link

/-!
# Safety of a link

What the joint invariant means for the two applications: messages come out in
the order and with the bytes they went in, the sender forgets a segment only
after the receiver has taken it, the retransmission timer never loses the
oldest segment, and nothing is ever sent beyond the receive window.  None of
this depends on how many segments are enqueued.
-/

namespace RudpAgentStack

open Foundation

namespace Link

namespace Agrees

variable {sending : RUDPSender.Run} {receiving : RUDPReceiver.Run}
  {acks : List RUDPPacket}

/-- Below the expected number the receiver has accepted the stream itself. -/
theorem get?_accepted (agrees : Agrees sending receiving acks)
    {seq : Int} (lower : 0 ≤ seq)
    (upper : seq < receiving.receiver.expectedSeq) :
    ∃ packet checksum,
      (RUDPSender.stream sending.messages)[seq.toNat]? = some packet ∧
        receiving.accepted.get? seq =
          some (packet.withChecksum checksum) := by
  have taken := agrees.settled.tracks.below seq lower upper
  obtain ⟨segment, found⟩ := (Dict.mem_iff_exists_get? _ _).mp taken
  obtain ⟨packet, handed, rfl, checksum, rfl⟩ :=
    agrees.accepted seq segment found
  exact ⟨packet, checksum, (agrees.consistent.segment packet handed).2.2, found⟩

/-- What has been delivered is the reassembled beginning of the stream. -/
theorem delivered_eq (agrees : Agrees sending receiving acks) :
    receiving.delivered =
      (Reassembly.start.feedAll
        (((RUDPSender.stream sending.messages).take
          receiving.receiver.expectedSeq.toNat).map
            RUDPPacket.segment)).messages := by
  have taken : RUDPReceiver.takenSegments receiving.accepted
        receiving.receiver.expectedSeq.toNat =
      ((RUDPSender.stream sending.messages).take
        receiving.receiver.expectedSeq.toNat).map RUDPPacket.segment := by
    apply RUDPReceiver.takenSegments_eq_take
    intro index upper
    have lower : (0 : Int) ≤ index := by omega
    obtain ⟨packet, checksum, inStream, found⟩ :=
      agrees.get?_accepted lower (by omega)
    exact ⟨_, packet, found, inStream, packet.segment_withChecksum checksum⟩
  have assembled := congrArg Reassembly.messages
    agrees.settled.tracks.assembled
  rwa [taken] at assembled

/-- What has been delivered is a prefix of what was enqueued. -/
theorem delivered_prefix_messages (agrees : Agrees sending receiving acks) :
    receiving.delivered <+: sending.messages.map Prod.fst := by
  rw [agrees.delivered_eq]
  exact RUDPSender.messages_feedAll_take_prefix _ _

/-- Messages all of whose segments were taken have been delivered. -/
theorem prefix_delivered (agrees : Agrees sending receiving acks)
    {first : List (Bytes × Int)} (isPrefix : first <+: sending.messages)
    (taken : (RUDPSender.stream first).length ≤
      receiving.receiver.expectedSeq) :
    first.map Prod.fst <+: receiving.delivered := by
  rw [agrees.delivered_eq]
  exact RUDPSender.prefix_messages_feedAll_take isPrefix (by omega)

/-- A message all of whose packets the sender has transmitted and removed has
been delivered after the messages before it. -/
theorem delivered_of_removed (agrees : Agrees sending receiving acks)
    {earlier later : List (Bytes × Int)} {data : Bytes} {msgId : Int}
    (submitted : sending.messages = earlier ++ (data, msgId) :: later)
    (removed : ∀ packet ∈ RUDPSender.messagePackets msgId
        (RUDPSender.stream earlier).length 0 (slices mss data),
      packet ∉ sending.sender.sendBuffer ∧
        packet.seqNum ∉ sending.sender.unackedPackets) :
    earlier.map Prod.fst ++ [data] <+: receiving.delivered := by
  have isPrefix : earlier ++ [(data, msgId)] <+: sending.messages := by
    rw [submitted]
    exact ⟨later, by simp⟩
  obtain ⟨packet, member, last⟩ :=
    RUDPSender.exists_last_packet earlier data msgId
  obtain ⟨unbuffered, acknowledged⟩ := removed packet member
  have window := agrees.consistent.window
  have nonempty := (List.getElem?_eq_some_iff.mp last).1
  have inStream : (RUDPSender.stream sending.messages)[
      (RUDPSender.stream (earlier ++ [(data, msgId)])).length - 1]? =
      some packet := by
    obtain ⟨rest, extended⟩ := RUDPSender.stream_prefix_stream isPrefix
    rw [← extended, List.getElem?_append_left nonempty]
    exact last
  have seqNum := RUDPSender.seqNum_stream inStream
  have transmitted := window.lt_nextUnsent inStream unbuffered
  rw [window.mem_unacked] at acknowledged
  have behind := agrees.base_le
  have delivered := agrees.prefix_delivered isPrefix (by omega)
  simpa using delivered

/-- A transmitted segment that is no longer in flight was taken in order. -/
theorem taken_of_removed (agrees : Agrees sending receiving acks)
    {packet : RUDPPacket} (handed : packet ∈ sending.handed)
    (removed : packet.seqNum ∉ sending.sender.unackedPackets) :
    packet.seqNum < receiving.receiver.expectedSeq ∧
      ∃ checksum, receiving.accepted.get? packet.seqNum =
        some (packet.withChecksum checksum) := by
  obtain ⟨lower, upper, inStream⟩ := agrees.consistent.segment packet handed
  rw [agrees.consistent.window.mem_unacked] at removed
  have behind := agrees.base_le
  have below : packet.seqNum < receiving.receiver.expectedSeq := by omega
  obtain ⟨same, checksum, inStream', found⟩ :=
    agrees.get?_accepted lower below
  obtain rfl := Option.some.inj (inStream.symm.trans inStream')
  exact ⟨below, checksum, found⟩

/-- The sequence numbers of the packets waiting in the send buffer. -/
theorem seqNum_sendBuffer (agrees : Agrees sending receiving acks) :
    sending.sender.sendBuffer.map RUDPPacket.seqNum =
      (List.range
        (sending.sender.nextSeq - sending.sender.nextUnsent).toNat).map
        fun index : Nat => sending.sender.nextUnsent + index := by
  have window := agrees.consistent.window
  have nonneg := window.nextUnsent_nonneg
  have count : (sending.sender.nextSeq - sending.sender.nextUnsent).toNat =
      sending.sender.sendBuffer.length := by
    simp only [RUDPSender.nextUnsent]
    omega
  apply List.ext_getElem?
  intro index
  rw [count, List.getElem?_map, List.getElem?_map]
  by_cases inside : index < sending.sender.sendBuffer.length
  · rw [List.getElem?_range inside, List.getElem?_eq_getElem inside]
    have inStream : (RUDPSender.stream sending.messages)[
          sending.sender.nextUnsent.toNat + index]? =
        some sending.sender.sendBuffer[index] := by
      rw [← List.getElem?_drop, ← window.sendBuffer,
        List.getElem?_eq_getElem inside]
    have seqNum := RUDPSender.seqNum_stream inStream
    simp only [Option.map_some, Option.some.injEq]
    omega
  · rw [List.getElem?_eq_none (not_lt.mp inside),
      List.getElem?_eq_none (by simpa using inside)]
    rfl

/-- While some enqueued segment is unacknowledged, the segment at `base` is in
flight. -/
theorem exists_oldest (agrees : Agrees sending receiving acks)
    (pending : sending.sender.base < sending.sender.nextSeq) :
    ∃ oldestInfo, sending.sender.unackedPackets.get? sending.sender.base =
        some oldestInfo ∧
      oldestInfo.packet.seqNum = sending.sender.base ∧
      (RUDPSender.stream sending.messages)[sending.sender.base.toNat]? =
        some oldestInfo.packet := by
  have window := agrees.consistent.window
  have inFlight : sending.sender.base < sending.sender.nextUnsent := by
    by_contra idle
    have bound := window.low_le
    have noneInFlight : sending.sender.unackedPackets.size = 0 := by
      have := window.size
      omega
    apply agrees.flowing.busy ?_ noneInFlight
    intro noneBuffered
    simp only [RUDPSender.nextUnsent, noneBuffered, List.length_nil] at idle
    omega
  have present := (window.mem_unacked _).mpr ⟨le_rfl, inFlight⟩
  obtain ⟨oldestInfo, found⟩ := (Dict.mem_iff_exists_get? _ _).mp present
  have inStream := window.packet _ _ found
  have nonneg := window.low_nonneg
  refine ⟨oldestInfo, found, ?_, inStream⟩
  rw [RUDPSender.seqNum_stream inStream]
  omega

end Agrees

/-! ## The link as a reliable channel -/

/-- The messages enqueued at one end and delivered at the other. -/
def channel (link : Link) : Channel Bytes where
  submitted := link.sending.messages.map Prod.fst
  received := link.receiving.delivered

/-- A link refines the reliable message channel. -/
def refinesChannel : Machine.Simulation machine (Channel.machine Bytes) where
  abstraction := channel
  start := rfl
  step := by
    intro link action reachable enabled
    have delivered :=
      (agrees_of_reachable (reachable.next enabled)).delivered_prefix_messages
    cases action with
    | enqueueData data msgId currentTime =>
        have submitted := Channel.steps_submit link.channel data
        simpa [channel, machine, next, call, RUDPSender.Run.next,
          RUDPSender.Run.record] using submitted
    | deliverSegment datagram =>
        simp only [machine, next] at delivered ⊢
        split at delivered
        · exact .refl
        · exact Channel.steps_handOver (List.prefix_append _ _) delivered
    | deliverAck datagram currentTime =>
        simp only [machine, next]
        split <;> exact .refl
    | checkTimeouts currentTime => exact .refl

/-! ## Main results -/

/-- A link that has carried one message and not yet its acknowledgement. -/
def oneMessage : Link :=
  machine.exec machine.start
    [.enqueueData [1] 7 0,
      .deliverSegment
        [0, 0, 0, 0, 0, 0, 0, 0, 4, 0, 0, 244, 254, 0, 0, 0, 7, 0, 0, 0, 0, 1]]

theorem oneMessage_reachable : machine.Reachable oneMessage :=
  .exec .start (by decide +kernel)

/-- End-to-end safety.  In every reachable state the delivered messages are a
prefix of the enqueued ones, and every transmitted segment that the sender has
removed was taken in order by the receiver. -/
theorem delivery_safe
    {link : Link} (reachable : machine.Reachable link) :
    link.receiving.delivered <+: link.sending.messages.map Prod.fst ∧
      link.sending.sender.base ≤ link.receiving.receiver.expectedSeq ∧
      ∀ packet ∈ link.sending.handed,
        packet.seqNum ∉ link.sending.sender.unackedPackets →
        packet.seqNum < link.receiving.receiver.expectedSeq ∧
          ∃ checksum, link.receiving.accepted.get? packet.seqNum =
            some (packet.withChecksum checksum) := by
  have agrees := agrees_of_reachable reachable
  exact ⟨Channel.received_prefix (refinesChannel.reachable reachable),
    agrees.base_le, fun _ handed removed =>
      agrees.taken_of_removed handed removed⟩

theorem delivery_safe_oneMessage :
    oneMessage.receiving.delivered <+: [[1]] ∧
      oneMessage.sending.sender.base ≤ 1 ∧
      ∀ packet ∈ oneMessage.sending.handed,
        packet.seqNum ∉ oneMessage.sending.sender.unackedPackets →
        packet.seqNum < 1 ∧
          ∃ checksum, oneMessage.receiving.accepted.get? packet.seqNum =
            some (packet.withChecksum checksum) := by
  have messages : oneMessage.sending.messages.map Prod.fst = [[1]] := by
    decide +kernel
  have expectedSeq : oneMessage.receiving.receiver.expectedSeq = 1 := by
    decide +kernel
  have safe := delivery_safe oneMessage_reachable
  rwa [messages, expectedSeq] at safe

/-- The sender never runs dry with data left.  In every reachable state the
unacked map is an interval from `base`, the send buffer continues it up to
`next_seq`, both windows are open, and an expired timer hands over the segment
at `base`, which goes out as a datagram as long as its fields fit the
header. -/
theorem pending_retransmits
    {link : Link} (reachable : machine.Reachable link) :
    let sender := link.sending.sender
    (∃ upper, sender.base ≤ upper ∧ upper ≤ sender.nextSeq ∧
      (∀ seq, seq ∈ sender.unackedPackets ↔
        sender.base ≤ seq ∧ seq < upper) ∧
      sender.sendBuffer.map RUDPPacket.seqNum =
        (List.range (sender.nextSeq - upper).toNat).map
          fun index : Nat => upper + index) ∧
      (mss : ℚ) ≤ sender.cwnd ∧ 1 ≤ sender.peerRwnd ∧
      (sender.sendBuffer ≠ [] → ∃ seq, seq ∈ sender.unackedPackets) ∧
      (sender.base < sender.nextSeq → ∃ oldestInfo,
        sender.unackedPackets.get? sender.base = some oldestInfo ∧
        oldestInfo.packet.seqNum = sender.base ∧
        (∀ currentTime,
          sender.rto ≤ currentTime - oldestInfo.sentTime →
          (sender.checkTimeouts currentTime).2 = [oldestInfo.packet]) ∧
        ((∀ message ∈ link.sending.messages,
            RUDPSender.MessageInRange message) →
          sender.nextSeq ≤ 2 ^ 32 →
          ∃ datagram checksum, oldestInfo.packet.pack = .ok datagram ∧
            RUDPPacket.unpack datagram =
              .ok (oldestInfo.packet.withChecksum checksum))) := by
  intro sender
  have agrees := agrees_of_reachable reachable
  have window := agrees.consistent.window
  refine ⟨⟨sender.nextUnsent, window.low_le, ?_, window.mem_unacked,
    agrees.seqNum_sendBuffer⟩, agrees.flowing.cwnd,
    agrees.flowing.one_le_peerRwnd, ?_, ?_⟩
  · have := window.nextSeq
    exact this ▸ window.nextUnsent_le
  · intro waiting
    by_contra noneInFlight
    exact agrees.flowing.busy waiting
      ((Dict.size_eq_zero_iff _).mpr (not_exists.mp noneInFlight))
  · intro pending
    obtain ⟨oldestInfo, found, seqNum, inStream⟩ :=
      agrees.exists_oldest pending
    refine ⟨oldestInfo, found, seqNum, fun currentTime expired =>
      RUDPSender.checkTimeouts_handed found expired, ?_⟩
    intro inRange numbered
    have onWire := RUDPSender.onWire_of_mem_stream inRange
      (List.mem_of_getElem? inStream)
      (seqNum.trans_lt (pending.trans_le numbered))
    obtain ⟨datagram, checksum, packed, _, read⟩ := onWire.unpack_pack
    exact ⟨datagram, checksum, packed, read⟩

theorem pending_retransmits_oneMessage :
    ∃ oldestInfo,
      oneMessage.sending.sender.unackedPackets.get? 0 = some oldestInfo ∧
        oldestInfo.packet.seqNum = 0 ∧
        ∀ currentTime,
          oneMessage.sending.sender.rto ≤
            currentTime - oldestInfo.sentTime →
          (oneMessage.sending.sender.checkTimeouts currentTime).2 =
            [oldestInfo.packet] := by
  have base : oneMessage.sending.sender.base = 0 := by decide +kernel
  obtain ⟨_, _, _, _, oldest⟩ := pending_retransmits oneMessage_reachable
  obtain ⟨oldestInfo, found, seqNum, retransmitted, _⟩ :=
    oldest (by decide +kernel)
  rw [base] at found seqNum
  exact ⟨oldestInfo, found, seqNum, retransmitted⟩

/-- The sender never overruns the receive window.  In every reachable state
every data datagram in flight, however old, lies below the end of the window,
and nothing has been dropped. -/
theorem never_overruns
    {link : Link} (reachable : machine.Reachable link) :
    (∀ packet ∈ link.sending.handed,
      packet.seqNum < link.receiving.receiver.expectedSeq + maxRwnd) ∧
      (∀ datagram, InFlight link.sending.handed datagram →
        ∃ segment, RUDPPacket.unpack datagram = .ok segment ∧
          segment.seqNum <
            link.receiving.receiver.expectedSeq + maxRwnd) ∧
      link.receiving.receiver.stats.drop = 0 := by
  have agrees := agrees_of_reachable reachable
  refine ⟨fun packet handed => agrees.seqNum_lt handed, ?_, agrees.noDrop⟩
  intro datagram inFlight
  obtain ⟨packet, handed, checksum, read⟩ := unpack_of_inFlight
    (fun packet handed => (RUDPSender.isEnqueued_of_mem_stream
      (agrees.mem_stream handed)).hasWireShape) inFlight
  refine ⟨_, read, ?_⟩
  rw [RUDPPacket.seqNum_withChecksum]
  exact agrees.seqNum_lt handed

theorem never_overruns_oneMessage :
    (∀ packet ∈ oneMessage.sending.handed,
      packet.seqNum <
        oneMessage.receiving.receiver.expectedSeq + maxRwnd) ∧
      oneMessage.receiving.receiver.stats.drop = 0 :=
  ⟨(never_overruns oneMessage_reachable).1,
    (never_overruns oneMessage_reachable).2.2⟩

end Link

end RudpAgentStack

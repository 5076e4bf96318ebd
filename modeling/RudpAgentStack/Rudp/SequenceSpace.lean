import RudpAgentStack.Rudp.LinkSafety

/-!
# The 32-bit sequence space

Sequence numbers are unbounded integers at both ends, while the header holds
32 bits.  A segment or an acknowledgement packs exactly when its number is
below `2 ^ 32`.  A sender that runs long enough gets there: one empty message
after the other, each acknowledged, reaches every count up to `2 ^ 32 - 1`.
-/

namespace RudpAgentStack

open Foundation

namespace RUDPPacket

/-- The packet packs, and its datagram is read back as the packet itself. -/
def Packs (packet : RUDPPacket) : Prop :=
  ∃ datagram checksum, packet.pack = .ok datagram ∧
    unpack datagram = .ok (packet.withChecksum checksum)

theorem OnWire.packs {packet : RUDPPacket} (onWire : packet.OnWire) :
    packet.Packs := by
  obtain ⟨datagram, checksum, packed, _, read⟩ := onWire.unpack_pack
  exact ⟨datagram, checksum, packed, read⟩

theorem Packs.headerInRange {packet : RUDPPacket} (packs : packet.Packs) :
    packet.HeaderInRange := by
  obtain ⟨datagram, _, packed, _⟩ := packs
  exact ((exists_pack_iff packet).mp ⟨datagram, packed⟩).1

/-- The only error of `pack` is `struct.error`. -/
theorem pack_eq_structError
    {packet : RUDPPacket} (unfit : ¬ packet.HeaderInRange) :
    packet.pack = .error .structError := by
  have structErrors : ∀ (format : List Nat)
      (values : BinaryRecord.Fields format) error,
      structPack format values = .error error → error = .structError := by
    intro format values error failed
    unfold structPack at failed
    split at failed
    · exact absurd failed (by simp)
    · exact (Except.error.inj failed).symm
  have reassemblyErrors : ∀ error,
      packet.reassemblyBytes = .error error → error = .structError := by
    intro error failed
    unfold reassemblyBytes at failed
    split at failed
    · exact structErrors _ _ _ failed
    · exact absurd failed (by simp)
  have bytesErrors : ∀ checksum error,
      packet.packetBytes checksum = .error error → error = .structError := by
    intro checksum error failed
    unfold packetBytes at failed
    split at failed
    · exact absurd failed (by simp)
    · next headerFailed =>
        obtain rfl := Except.error.inj failed
        exact structErrors _ _ _ headerFailed
    · next reassemblyFailed =>
        obtain rfl := Except.error.inj failed
        exact reassemblyErrors _ reassemblyFailed
  cases packed : packet.pack with
  | ok datagram =>
      exact absurd ((exists_pack_iff packet).mp ⟨datagram, packed⟩).1 unfit
  | error error =>
      unfold pack calculateChecksum at packed
      split at packed
      · next checksumFailed =>
          obtain rfl := Except.error.inj packed
          split at checksumFailed
          · next zeroFailed =>
              obtain rfl := Except.error.inj checksumFailed
              rw [bytesErrors _ _ zeroFailed]
          · exact absurd checksumFailed (by simp)
      · rw [bytesErrors _ _ packed]

end RUDPPacket

namespace Link

/-- Every enqueued message fits the reassembly fields. -/
def InRange (link : Link) : Prop :=
  ∀ message ∈ link.sending.messages, RUDPSender.MessageInRange message

theorem Acknowledges.packs_iff {ack : RUDPPacket} {expectedSeq : Int}
    (acknowledges : Acknowledges ack expectedSeq) :
    ack.Packs ↔ ack.ackNum < 2 ^ 32 := by
  refine ⟨fun packs => packs.headerInRange.ackNum.2, fun numbered => ?_⟩
  obtain ⟨_, upper⟩ := acknowledges.rwnd
  have lower := acknowledges.ackNum_nonneg
  refine RUDPPacket.OnWire.packs
    ⟨⟨?_, ⟨lower, numbered⟩, ?_, ?_⟩, .inr acknowledges.ackOnly⟩
  · rw [acknowledges.seqNum]
    norm_num
  · rw [acknowledges.flags]
    decide
  · simp only [maxRwnd] at upper
    omega

namespace Agrees

variable {sending : RUDPSender.Run} {receiving : RUDPReceiver.Run}
  {acks : List RUDPPacket}

theorem packs_iff (agrees : Agrees sending receiving acks)
    (inRange : ∀ message ∈ sending.messages,
      RUDPSender.MessageInRange message)
    {packet : RUDPPacket} (handed : packet ∈ sending.handed) :
    packet.Packs ↔ packet.seqNum < 2 ^ 32 :=
  ⟨fun packs => packs.headerInRange.seqNum.2, fun numbered =>
    (RUDPSender.onWire_of_mem_stream inRange (agrees.mem_stream handed)
      numbered).packs⟩

/-- A transmitted segment is in the receive window, or the receiver has taken
it already. -/
theorem inWindow_or_taken (agrees : Agrees sending receiving acks)
    {packet : RUDPPacket} (handed : packet ∈ sending.handed) :
    receiving.receiver.InWindow packet.seqNum ∨
      (packet.seqNum < receiving.receiver.expectedSeq ∧
        ∃ checksum, receiving.accepted.get? packet.seqNum =
          some (packet.withChecksum checksum)) := by
  obtain ⟨lower, _, inStream⟩ := agrees.consistent.segment packet handed
  by_cases taken : packet.seqNum < receiving.receiver.expectedSeq
  · obtain ⟨same, checksum, inStream', found⟩ :=
      agrees.get?_accepted lower taken
    obtain rfl := Option.some.inj (inStream.symm.trans inStream')
    exact .inr ⟨taken, checksum, found⟩
  · exact .inl ⟨not_lt.mp taken, agrees.seqNum_lt handed⟩

end Agrees

/-- Numbers fit the header up to `2 ^ 32`, in runs of any length: a segment or
an acknowledgement packs exactly when its own number does, so everything packs
while fewer than `2 ^ 32` segments have been enqueued, and every segment
handed to `pack` is in the receive window or was taken before. -/
theorem packs_below_two_pow_32
    {link : Link} (reachable : machine.Reachable link)
    (inRange : link.InRange) :
    (∀ packet ∈ link.sending.handed,
      (packet.Packs ↔ packet.seqNum < 2 ^ 32) ∧
        (link.receiving.receiver.InWindow packet.seqNum ∨
          (packet.seqNum < link.receiving.receiver.expectedSeq ∧
            ∃ checksum, link.receiving.accepted.get? packet.seqNum =
              some (packet.withChecksum checksum)))) ∧
      (∀ ack ∈ link.acks, ack.Packs ↔ ack.ackNum < 2 ^ 32) ∧
      (link.sending.sender.nextSeq < 2 ^ 32 →
        (∀ packet ∈ link.sending.handed, packet.Packs) ∧
          ∀ ack ∈ link.acks, ack.Packs) := by
  have agrees := agrees_of_reachable reachable
  have window := agrees.consistent.window
  refine ⟨fun packet handed => ⟨agrees.packs_iff inRange handed,
      agrees.inWindow_or_taken handed⟩,
    fun ack inFlight => (agrees.acks ack inFlight).packs_iff, ?_⟩
  intro numbered
  have bound := window.nextSeq ▸ window.nextUnsent_le
  constructor
  · intro packet handed
    have upper := (agrees.consistent.segment packet handed).2.1
    exact (agrees.packs_iff inRange handed).mpr (by omega)
  · intro ack inFlight
    have upper := (agrees.acks ack inFlight).ackNum_le
    have taken := agrees.expectedSeq_le
    exact (agrees.acks ack inFlight).packs_iff.mpr (by omega)

theorem packs_below_two_pow_32_oneMessage :
    (∀ packet ∈ oneMessage.sending.handed, packet.Packs) ∧
      ∀ ack ∈ oneMessage.acks, ack.Packs := by
  have inRange : oneMessage.InRange := by
    unfold InRange
    decide +kernel
  exact (packs_below_two_pow_32 oneMessage_reachable inRange).2.2
    (by decide +kernel)

/-! ## A run through the whole sequence space

The run enqueues an empty message, delivers its segment and delivers the
acknowledgement, over and over.  What each round does follows from the joint
invariant alone. -/

/-- Fast recovery never happened, and the peer advertises a full window. -/
structure Opened (sender : RUDPSender) : Prop where
  peerRwnd : sender.peerRwnd = maxRwnd
  grown : sender.ccState = .slowStart ∨
    (sender.ccState = .avoidance ∧ 2 * (mss : ℚ) ≤ sender.cwnd)

/-- All of `count` segments have been acknowledged. -/
structure Idle (link : Link) (count : Nat) : Prop where
  reachable : machine.Reachable link
  inRange : link.InRange
  nextSeq : link.sending.sender.nextSeq = count
  base : link.sending.sender.base = count
  opened : Opened link.sending.sender
  grown : 0 < count → 2 * (mss : ℚ) ≤ link.sending.sender.cwnd

/-- One more segment is in flight. -/
structure Sent (link : Link) (count : Nat) : Prop where
  reachable : machine.Reachable link
  inRange : link.InRange
  nextSeq : link.sending.sender.nextSeq = count + 1
  nextUnsent : link.sending.sender.nextUnsent = count + 1
  base : link.sending.sender.base = count
  expectedSeq : link.receiving.receiver.expectedSeq = count
  opened : Opened link.sending.sender
  grown : 0 < count → 2 * (mss : ℚ) ≤ link.sending.sender.cwnd

/-- Enqueue an empty message. -/
def enqueueEmpty (link : Link) : Link :=
  machine.next link (.enqueueData [] 0 0)

theorem enqueueEmpty_reachable {link : Link}
    (reachable : machine.Reachable link) :
    machine.Reachable link.enqueueEmpty := by
  have enabled : machine.Enabled link (.enqueueData [] 0 0) := trivial
  exact reachable.next enabled

theorem enqueueEmpty_inRange {link : Link} (inRange : link.InRange) :
    link.enqueueEmpty.InRange := by
  intro message member
  rcases List.mem_append.mp member with earlier | last
  · exact inRange message earlier
  · obtain rfl := List.mem_singleton.mp last
    norm_num [RUDPSender.MessageInRange]

theorem enqueueEmpty_nextSeq (link : Link) :
    link.enqueueEmpty.sending.sender.nextSeq =
      link.sending.sender.nextSeq + 1 := by
  simp only [enqueueEmpty, machine, next, call, RUDPSender.Run.next,
    RUDPSender.Run.record, RUDPSender.enqueueData, RUDPSender.trySend_nextSeq,
    RUDPSender.length_messagePackets]
  rfl

theorem enqueueEmpty_base (link : Link) :
    link.enqueueEmpty.sending.sender.base = link.sending.sender.base :=
  RUDPSender.enqueueData_base _ _ _ _

theorem enqueueEmpty_cwnd (link : Link) :
    link.enqueueEmpty.sending.sender.cwnd = link.sending.sender.cwnd :=
  RUDPSender.trySend_cwnd _ _

theorem enqueueEmpty_opened {link : Link}
    (opened : Opened link.sending.sender) :
    Opened link.enqueueEmpty.sending.sender := by
  constructor
  · exact (RUDPSender.trySend_peerRwnd _ _).trans opened.peerRwnd
  · rw [enqueueEmpty_cwnd]
    exact (RUDPSender.trySend_ccState _ _).symm ▸ opened.grown

/-- From an idle link one more message goes straight out. -/
theorem Idle.sent {link : Link} {count : Nat} (idle : link.Idle count) :
    link.enqueueEmpty.Sent count := by
  have agrees := agrees_of_reachable idle.reachable
  have reachable := enqueueEmpty_reachable idle.reachable
  have agrees' := agrees_of_reachable reachable
  have nextSeq := link.enqueueEmpty_nextSeq
  have base := link.enqueueEmpty_base
  rw [idle.nextSeq] at nextSeq
  rw [idle.base] at base
  have bounds : link.enqueueEmpty.sending.sender.nextUnsent ≤ count + 1 := by
    have := agrees'.consistent.window.nextUnsent_le
    rw [← agrees'.consistent.window.nextSeq, nextSeq] at this
    exact this
  have pending : link.enqueueEmpty.sending.sender.base <
      link.enqueueEmpty.sending.sender.nextSeq := by omega
  have inFlight : (count : Int) <
      link.enqueueEmpty.sending.sender.nextUnsent := by
    obtain ⟨_, found, _⟩ := agrees'.exists_oldest pending
    have present := (agrees'.consistent.window.mem_unacked _).mp
      (Dict.mem_of_get? found)
    omega
  have expectedSeq : link.receiving.receiver.expectedSeq = count := by
    have lower := agrees.base_le
    have upper := agrees.expectedSeq_le
    have bound := agrees.consistent.window.nextUnsent_le
    rw [← agrees.consistent.window.nextSeq] at bound
    have := idle.nextSeq
    have := idle.base
    omega
  exact
    { reachable := reachable
      inRange := enqueueEmpty_inRange idle.inRange
      nextSeq := nextSeq
      nextUnsent := by omega
      base := base
      expectedSeq := expectedSeq
      opened := enqueueEmpty_opened idle.opened
      grown := link.enqueueEmpty_cwnd ▸ idle.grown }

/-- The segment in flight is delivered and acknowledged with a full window,
while the sender waits. -/
theorem Sent.delivered {link : Link} {count : Nat} (sent : link.Sent count)
    (numbered : count < 2 ^ 32) :
    ∃ link', machine.Reachable link' ∧ link'.sending = link.sending ∧
      ∃ ack ∈ link'.acks, ack.ackNum = count + 1 ∧ ack.rwnd = maxRwnd := by
  have agrees := agrees_of_reachable sent.reachable
  obtain ⟨packet, handed, seqNum⟩ := agrees.consistent.complete count
    (by omega) (by rw [sent.nextUnsent]; omega)
  obtain ⟨datagram, checksum, packed, read⟩ :=
    (agrees.packs_iff sent.inRange handed).mpr (by omega)
  have delivered : machine.next link (.deliverSegment datagram) =
      link.receiveSegment (packet.withChecksum checksum) := by
    simp only [machine, next, read]
  have reachable : machine.Reachable
      (link.receiveSegment (packet.withChecksum checksum)) := by
    rw [← delivered]
    exact sent.reachable.next ⟨packet, handed, packed⟩
  refine ⟨_, reachable, rfl, _, List.mem_append_right _
    (List.mem_singleton_self _), ?_⟩
  have agrees' := agrees_of_reachable reachable
  have settled := agrees'.settled
  have inOrder : (packet.withChecksum checksum).seqNum =
      link.receiving.receiver.expectedSeq := by
    rw [RUDPPacket.seqNum_withChecksum, seqNum, sent.expectedSeq]
  have moved := agrees.settled.expectedSeq_lt_next inOrder
  have upper := agrees'.expectedSeq_le
  have expectedSeq : (link.receiving.next (packet.withChecksum
      checksum)).receiver.expectedSeq = count + 1 := by
    rw [sent.expectedSeq] at moved
    simp only [Link.receiveSegment, sent.nextUnsent] at upper
    omega
  have nothingBuffered : (link.receiving.next (packet.withChecksum
      checksum)).receiver.oooBuffer.size = 0 := by
    rw [Dict.size_eq_zero_iff]
    intro seq member
    obtain ⟨accepted, beyond⟩ := (settled.mem_oooBuffer_iff seq).mp member
    obtain ⟨segment, found⟩ := (Dict.mem_iff_exists_get? _ _).mp accepted
    obtain ⟨other, otherHanded, rfl, _⟩ := agrees'.accepted _ _ found
    have below := (agrees'.consistent.segment other otherHanded).2.1
    simp only [Link.receiveSegment, expectedSeq, sent.nextUnsent]
      at beyond below
    omega
  obtain ⟨ackNum, _⟩ := link.receiving.receiver.processSegment_ack
    (packet.withChecksum checksum)
  obtain ⟨rwnd, _⟩ :=
    agrees.settled.advertised (packet.withChecksum checksum)
  rw [nothingBuffered] at rwnd
  exact ⟨ackNum.trans expectedSeq, rwnd.trans (by simp)⟩

/-- A new acknowledgement leaves an opened sender with at least two
segments of congestion window. -/
theorem growCwnd_opened {sender : RUDPSender}
    (paced : sender.Paced) (opened : Opened sender) :
    Opened sender.growCwnd ∧ 2 * (mss : ℚ) ≤ sender.growCwnd.cwnd := by
  have segment := RUDPSender.mss_cast_pos
  have current := paced.cwnd
  obtain ⟨peerRwnd, slow | ⟨avoiding, wide⟩⟩ := opened
  · have wide : 2 * (mss : ℚ) ≤ sender.growCwnd.cwnd := by
      simp only [RUDPSender.growCwnd, slow]
      linarith
    refine ⟨⟨?_, ?_⟩, wide⟩
    · simpa only [RUDPSender.growCwnd, slow] using peerRwnd
    · by_cases threshold : sender.ssthresh ≤ sender.cwnd + mss
      · right
        exact ⟨by simp [RUDPSender.growCwnd, slow, threshold], wide⟩
      · left
        simp [RUDPSender.growCwnd, slow, threshold]
  · have wide' : 2 * (mss : ℚ) ≤ sender.growCwnd.cwnd := by
      have increment : 0 ≤ (mss * mss : ℚ) / sender.cwnd :=
        div_nonneg (by positivity) (by linarith)
      simp only [RUDPSender.growCwnd, avoiding]
      linarith
    refine ⟨⟨?_, .inr ⟨?_, wide'⟩⟩, wide'⟩
    · simpa only [RUDPSender.growCwnd, avoiding] using peerRwnd
    · simpa only [RUDPSender.growCwnd] using by rw [avoiding]

theorem onAckReceived_opened {sender : RUDPSender}
    (paced : sender.Paced) (opened : Opened sender)
    {ackNum : Int} (new : sender.base < ackNum) (currentTime : ℚ) :
    Opened (sender.onAckReceived ackNum maxRwnd currentTime).1 ∧
      2 * (mss : ℚ) ≤
        (sender.onAckReceived ackNum maxRwnd currentTime).1.cwnd := by
  have grown : Opened (RUDPSender.afterNewAck
        { sender with peerRwnd := maxRwnd } ackNum currentTime) ∧
      2 * (mss : ℚ) ≤ (RUDPSender.afterNewAck
        { sender with peerRwnd := maxRwnd } ackNum currentTime).cwnd := by
    unfold RUDPSender.afterNewAck
    obtain ⟨_, _, sampled⟩ := RUDPSender.sampleRtt_frame
      { sender with
        peerRwnd := maxRwnd
        base := ackNum
        dupAckCount := 0
        lastAckReceived := ackNum } (ackNum - 1) currentTime
    rw [sampled]
    have removed := sender.unackedPackets.size_filter_le
      (fun seq _ => !decide (seq < ackNum))
    apply growCwnd_opened
    · exact
        { paced with
          one_le_peerRwnd := by simp [RUDPSender.removeAcked, maxRwnd]
          peerRwnd_le := by simp [RUDPSender.removeAcked]
          inFlight := removed.trans paced.inFlight }
    · exact ⟨rfl, opened.grown⟩
  unfold RUDPSender.onAckReceived
  simp only
  rw [if_pos new, RUDPSender.onNewAck_eq, RUDPSender.trySend_cwnd]
  refine ⟨⟨?_, ?_⟩, grown.2⟩
  · rw [RUDPSender.trySend_peerRwnd]
    exact grown.1.peerRwnd
  · rw [RUDPSender.trySend_ccState, RUDPSender.trySend_cwnd]
    exact grown.1.grown

/-- One round of the run. -/
theorem Idle.exists_next {link : Link} {count : Nat} (idle : link.Idle count)
    (numbered : count + 1 < 2 ^ 32) :
    ∃ link', Idle link' (count + 1) := by
  have sent := idle.sent
  obtain ⟨link', reachable, same, ack, inFlight, ackNum, rwnd⟩ :=
    sent.delivered (by omega)
  have agrees := agrees_of_reachable reachable
  obtain ⟨datagram, checksum, packed, read⟩ :=
    (agrees.acks ack inFlight).packs_iff.mpr (by omega)
  have acknowledged : machine.next link' (.deliverAck datagram 0) =
      link'.call (.onAckReceived (count + 1) maxRwnd 0) := by
    simp only [machine, next, read, RUDPPacket.withChecksum, ackNum, rwnd]
  have reachable' : machine.Reachable
      (link'.call (.onAckReceived (count + 1) maxRwnd 0)) := by
    rw [← acknowledged]
    exact reachable.next ⟨ack, inFlight, packed⟩
  have agrees' := agrees_of_reachable reachable'
  have opened : Opened link'.sending.sender := same ▸ sent.opened
  have new : link'.sending.sender.base < count + 1 := by
    rw [same, sent.base]
    omega
  have grown := onAckReceived_opened agrees.flowing.toPaced opened new 0
  exact ⟨_,
    { reachable := reachable'
      inRange := by
        have := sent.inRange
        rw [InRange, ← same] at this
        exact this
      nextSeq := by
        have before := agrees.consistent.window.nextSeq
        have after := agrees'.consistent.window.nextSeq
        have total := sent.nextSeq
        rw [← same] at total
        rw [after]
        exact_mod_cast before.symm.trans total
      base := by
        simp only [call, RUDPSender.Run.next, RUDPSender.Run.record,
          RUDPSender.onAckReceived_base]
        rw [same, sent.base]
        push_cast
        omega
      opened := grown.1
      grown := fun _ => grown.2 }⟩

theorem idle_start : machine.start.Idle 0 where
  reachable := .start
  inRange := by simp [InRange, machine, RUDPSender.Run.machine]
  nextSeq := rfl
  base := rfl
  opened := ⟨rfl, .inl rfl⟩
  grown := by simp

/-- Every count below `2 ^ 32` is reached. -/
theorem exists_idle (count : Nat) (numbered : count < 2 ^ 32) :
    ∃ link, Idle link count := by
  induction count with
  | zero => exact ⟨machine.start, idle_start⟩
  | succ count inductionHypothesis =>
      obtain ⟨link, idle⟩ := inductionHypothesis (by omega)
      exact idle.exists_next numbered

theorem two_le_window {sender : RUDPSender}
    (opened : Opened sender) (wide : 2 * (mss : ℚ) ≤ sender.cwnd) :
    2 ≤ sender.window := by
  have twoSegments : (2 : Int) ≤ (sender.cwnd / mss).floor := by
    rw [Rat.le_floor_iff, le_div_iff₀ RUDPSender.mss_cast_pos]
    exact_mod_cast wide
  rw [RUDPSender.window, opened.peerRwnd]
  simp only [maxRwnd]
  omega

/-- With one segment in flight and room for two, another message goes straight
out. -/
theorem Sent.nextUnsent_enqueueEmpty {link : Link} {count : Nat}
    (sent : link.Sent count) (positive : 0 < count) :
    link.enqueueEmpty.sending.sender.nextUnsent = count + 2 := by
  have agrees :=
    agrees_of_reachable (enqueueEmpty_reachable sent.reachable)
  have window := agrees.consistent.window
  have nextSeq := link.enqueueEmpty_nextSeq
  have base := link.enqueueEmpty_base
  rw [sent.nextSeq] at nextSeq
  rw [sent.base] at base
  have wide : 2 * (mss : ℚ) ≤ link.enqueueEmpty.sending.sender.cwnd := by
    rw [enqueueEmpty_cwnd]
    exact sent.grown positive
  cases buffered : link.enqueueEmpty.sending.sender.sendBuffer with
  | nil =>
      simp only [RUDPSender.nextUnsent, buffered, List.length_nil, nextSeq]
      omega
  | cons packet rest =>
      exfalso
      have size := window.size
      have bytes := window.inflightBytes_le
      have atMostOne :
          link.enqueueEmpty.sending.sender.unackedPackets.size ≤ 1 := by
        have upper : link.enqueueEmpty.sending.sender.nextUnsent ≤
            count + 1 := by
          simp only [RUDPSender.nextUnsent, buffered, List.length_cons,
            nextSeq]
          omega
        omega
      have payload := (RUDPSender.isEnqueued_of_mem_stream
        (List.mem_of_getElem? (window.head buffered).1)).payload
      have fits : link.enqueueEmpty.sending.sender.inflightBytes +
          packet.payload.length ≤ 2 * (mss : Int) := by
        have scaled : (link.enqueueEmpty.sending.sender.unackedPackets.size *
            mss : Int) ≤ 1 * mss := by
          exact_mod_cast Nat.mul_le_mul_right mss atMostOne
        omega
      refine RUDPSender.not_admits_of_trySend buffered ⟨?_, ?_⟩
      · refine le_trans ?_ wide
        exact_mod_cast fits
      · have room := two_le_window (enqueueEmpty_opened sent.opened) wide
        have counted : (link.enqueueEmpty.sending.sender.unackedPackets.size
            : Int) < 2 := by omega
        exact counted.trans_le room

/-- Not every run stays on the wire: after `2 ^ 32 - 1` acknowledged segments
neither the acknowledgement of the next segment nor the segment after it
packs.  And not every retransmission is in the receive window: with its
acknowledgement lost, a segment is sent again after it was taken. -/
theorem sequence_numbers_run_out :
    (∃ link, machine.Reachable link ∧ link.InRange ∧
      ∃ packet ∈ link.sending.handed, packet.pack = .error .structError) ∧
    (∃ link, machine.Reachable link ∧ link.InRange ∧
      ∃ ack ∈ link.acks, ack.pack = .error .structError) ∧
    (∃ link currentTime, machine.Reachable link ∧ link.InRange ∧
      ∃ packet ∈ (link.sending.sender.checkTimeouts currentTime).2,
        packet.seqNum < link.receiving.receiver.expectedSeq) := by
  obtain ⟨link, idle⟩ := exists_idle (2 ^ 32 - 1) (by norm_num)
  have sent := idle.sent
  refine ⟨?_, ?_, ?_⟩
  · have nextUnsent := sent.nextUnsent_enqueueEmpty (by norm_num)
    have reachable := enqueueEmpty_reachable sent.reachable
    have agrees := agrees_of_reachable reachable
    obtain ⟨packet, handed, seqNum⟩ := agrees.consistent.complete (2 ^ 32)
      (by norm_num) (by rw [nextUnsent]; norm_num)
    refine ⟨_, reachable, enqueueEmpty_inRange sent.inRange, packet, handed,
      RUDPPacket.pack_eq_structError ?_⟩
    intro header
    have := header.seqNum.2
    omega
  · obtain ⟨link', reachable, same, ack, inFlight, ackNum, _⟩ :=
      sent.delivered (by norm_num)
    refine ⟨link', reachable, ?_, ack, inFlight,
      RUDPPacket.pack_eq_structError ?_⟩
    · have := sent.inRange
      rwa [InRange, ← same] at this
    · intro header
      have := header.ackNum.2
      rw [ackNum] at this
      norm_num at this
  · have sent := idle_start.sent
    obtain ⟨link', reachable, same, ack, inFlight, ackNum, _⟩ :=
      sent.delivered (by norm_num)
    have agrees := agrees_of_reachable reachable
    have acknowledged := (agrees.acks ack inFlight).ackNum_le
    have base : link'.sending.sender.base = 0 := by
      rw [same, sent.base]
      rfl
    have pending :
        link'.sending.sender.base < link'.sending.sender.nextSeq := by
      rw [base, same, sent.nextSeq]
      norm_num
    obtain ⟨oldestInfo, found, seqNum, _⟩ := agrees.exists_oldest pending
    refine ⟨link', oldestInfo.sentTime + link'.sending.sender.rto, reachable,
      ?_, oldestInfo.packet, ?_, ?_⟩
    · have := sent.inRange
      rwa [InRange, ← same] at this
    · rw [RUDPSender.checkTimeouts_handed found (by linarith)]
      exact List.mem_singleton_self _
    · rw [seqNum, base]
      omega

end Link

end RudpAgentStack

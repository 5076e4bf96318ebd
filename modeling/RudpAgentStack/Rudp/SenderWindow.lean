import RudpAgentStack.Rudp.SegmentStream
import Mathlib.Algebra.Order.BigOperators.Group.List
import Mathlib.Data.Int.Interval

/-!
# The sliding window of a sender

At any time the unacked map of a sender holds an interval of its segment
stream, the send buffer holds the rest of the stream after that interval, and
`inflight_bytes` is the payload in the map.  Each operation is described by
what it does to the interval: `_try_send` moves its upper end, a new
acknowledgement its lower end.  None of this assumes anything about the
acknowledgements received.
-/

namespace RudpAgentStack

open Foundation

namespace RUDPSender

/-! ## The loop of `_try_send` -/

/-- The two limits `_try_send` checks before it transmits a packet. -/
structure Admits (sender : RUDPSender) (packet : RUDPPacket) : Prop where
  bytes : ((sender.inflightBytes + packet.payload.length : Int) : ℚ) ≤
    sender.cwnd
  segments : (sender.unackedPackets.size : Int) < sender.window

/-- Loop rule: whatever holds before `_try_send` and survives each admitted
transmission holds after it, of the state and of the packets handed over. -/
theorem trySend_rule
    (Invariant : RUDPSender → List RUDPPacket → Prop)
    {currentTime : ℚ}
    (widened : ∀ sender handed window, Invariant sender handed →
      Invariant { sender with effectiveWindow := window } handed)
    (transmitted : ∀ sender handed packet rest, Invariant sender handed →
      sender.sendBuffer = packet :: rest → sender.Admits packet →
      Invariant (sender.transmit packet rest currentTime)
        (handed ++ [packet]))
    {sender : RUDPSender}
    (initial : Invariant sender []) :
    Invariant (sender.trySend currentTime).1
      (sender.trySend currentTime).2 := by
  have loop : ∀ buffer sender handed, sender.sendBuffer = buffer →
      Invariant sender handed →
      Invariant (trySendLoop currentTime buffer sender).1
        (handed ++ (trySendLoop currentTime buffer sender).2) := by
    intro buffer
    induction buffer with
    | nil =>
        intro sender handed _ holds
        simpa [trySendLoop] using holds
    | cons packet rest inductionHypothesis =>
        intro sender handed buffered holds
        simp only [trySendLoop]
        split
        · simpa using holds
        · next bytes =>
          split
          · simpa using widened sender handed _ holds
          · next segments =>
            have admitted : sender.Admits packet :=
              ⟨not_lt.mp bytes, not_le.mp segments⟩
            have next := transmitted _ handed packet rest
              (widened sender handed sender.window holds) buffered
              ⟨admitted.bytes, admitted.segments⟩
            simpa using inductionHypothesis _ _ rfl next
  simpa [trySend] using loop sender.sendBuffer sender [] rfl initial

/-- `_try_send` stops only when the buffer is empty or its head would break
one of the two limits. -/
theorem not_admits_of_trySend
    {sender : RUDPSender} {currentTime : ℚ}
    {packet : RUDPPacket} {rest : List RUDPPacket}
    (left : (sender.trySend currentTime).1.sendBuffer = packet :: rest) :
    ¬ (sender.trySend currentTime).1.Admits packet := by
  have loop : ∀ buffer sender, sender.sendBuffer = buffer →
      (trySendLoop currentTime buffer sender).1.sendBuffer = packet :: rest →
      ¬ (trySendLoop currentTime buffer sender).1.Admits packet := by
    intro buffer
    induction buffer with
    | nil =>
        intro sender buffered left
        simp [trySendLoop, buffered] at left
    | cons head tail inductionHypothesis =>
        intro sender buffered
        simp only [trySendLoop]
        split
        · next bytes =>
          intro left admitted
          obtain ⟨rfl, rfl⟩ := List.cons.inj (buffered.symm.trans left)
          exact absurd bytes (not_lt.mpr admitted.bytes)
        · split
          · next segments =>
            intro left admitted
            exact absurd admitted.segments (not_lt.mpr segments)
          · intro left
            exact inductionHypothesis _ rfl left
  exact loop sender.sendBuffer sender rfl left

/-- `_try_send` changes nothing but the effective window, the send buffer, the
unacked map and the bytes in flight. -/
theorem trySend_frame (sender : RUDPSender) (currentTime : ℚ) :
    ∃ effectiveWindow sendBuffer unackedPackets inflightBytes,
      (sender.trySend currentTime).1 =
        { sender with
          effectiveWindow := effectiveWindow
          sendBuffer := sendBuffer
          unackedPackets := unackedPackets
          inflightBytes := inflightBytes } := by
  refine trySend_rule
    (fun after _ => ∃ effectiveWindow sendBuffer unackedPackets inflightBytes,
      after =
        { sender with
          effectiveWindow := effectiveWindow
          sendBuffer := sendBuffer
          unackedPackets := unackedPackets
          inflightBytes := inflightBytes }) ?_ ?_ ⟨_, _, _, _, rfl⟩
  · rintro _ _ window ⟨_, _, _, _, rfl⟩
    exact ⟨_, _, _, _, rfl⟩
  · rintro _ _ packet rest ⟨_, _, _, _, rfl⟩ _ _
    exact ⟨_, _, _, _, rfl⟩

section Frame

variable (sender : RUDPSender) (currentTime : ℚ)

@[simp] theorem trySend_base :
    (sender.trySend currentTime).1.base = sender.base := by
  obtain ⟨_, _, _, _, equal⟩ := sender.trySend_frame currentTime
  rw [equal]

@[simp] theorem trySend_nextSeq :
    (sender.trySend currentTime).1.nextSeq = sender.nextSeq := by
  obtain ⟨_, _, _, _, equal⟩ := sender.trySend_frame currentTime
  rw [equal]

@[simp] theorem trySend_cwnd :
    (sender.trySend currentTime).1.cwnd = sender.cwnd := by
  obtain ⟨_, _, _, _, equal⟩ := sender.trySend_frame currentTime
  rw [equal]

@[simp] theorem trySend_ccState :
    (sender.trySend currentTime).1.ccState = sender.ccState := by
  obtain ⟨_, _, _, _, equal⟩ := sender.trySend_frame currentTime
  rw [equal]

@[simp] theorem trySend_peerRwnd :
    (sender.trySend currentTime).1.peerRwnd = sender.peerRwnd := by
  obtain ⟨_, _, _, _, equal⟩ := sender.trySend_frame currentTime
  rw [equal]

end Frame

/-! ## Bytes in flight -/

theorem payloadBytes_set_of_not_mem
    {unacked : Dict Int UnackedPacket} {seq : Int}
    (absent : seq ∉ unacked) (info : UnackedPacket) :
    payloadBytes (unacked.set seq info) =
      payloadBytes unacked + info.packet.payload.length := by
  simp [payloadBytes, Dict.entries_set_of_not_mem absent]

/-- Replacing the record of a segment by one with the same packet keeps the
bytes in flight. -/
theorem payloadBytes_set_of_same_packet
    {unacked : Dict Int UnackedPacket} {seq : Int} {old new : UnackedPacket}
    (found : unacked.get? seq = some old)
    (samePacket : new.packet = old.packet) :
    payloadBytes (unacked.set seq new) = payloadBytes unacked := by
  have present := Dict.mem_of_get? found
  rw [payloadBytes, Dict.entries_set_of_mem present, List.map_map, payloadBytes]
  congr 1
  apply List.map_congr_left
  rintro ⟨other, info⟩ member
  by_cases same : other = seq
  · subst same
    rw [← Dict.get?_eq_some_iff, found, Option.some.injEq] at member
    simp [samePacket, member]
  · simp [same]

theorem payloadBytes_filter_add
    (unacked : Dict Int UnackedPacket) (keep : Int → Bool) :
    payloadBytes (unacked.filter fun seq _ => keep seq) +
        payloadBytes (unacked.filter fun seq _ => !keep seq) =
      payloadBytes unacked := by
  simp only [payloadBytes, Dict.filter]
  induction unacked.entries with
  | nil => rfl
  | cons entry rest inductionHypothesis =>
      cases kept : keep entry.1 <;>
        simp only [List.filter_cons, kept, List.map_cons, List.sum_cons,
          Bool.not_true, Bool.not_false, Bool.false_eq_true, if_true,
          if_false] <;>
        omega

theorem payloadBytes_eq_zero_of_size
    {unacked : Dict Int UnackedPacket} (noEntries : unacked.size = 0) :
    payloadBytes unacked = 0 := by
  rw [Dict.size, List.length_eq_zero_iff] at noEntries
  simp [payloadBytes, noEntries]

/-! ## The window -/

/-- The sequence number of the next segment to be transmitted for the first
time. -/
def nextUnsent (sender : RUDPSender) : Int :=
  sender.nextSeq - sender.sendBuffer.length

/-- The unacked map holds the segments from `low` up to the next unsent one,
and the send buffer holds the rest of the stream. -/
structure Window
    (sender : RUDPSender) (messages : List (Bytes × Int)) (low : Int) :
    Prop where
  low_nonneg : 0 ≤ low
  low_le : low ≤ sender.nextUnsent
  nextSeq : sender.nextSeq = (stream messages).length
  sendBuffer : sender.sendBuffer =
    (stream messages).drop sender.nextUnsent.toNat
  mem_unacked : ∀ seq, seq ∈ sender.unackedPackets ↔
    low ≤ seq ∧ seq < sender.nextUnsent
  packet : ∀ seq info, sender.unackedPackets.get? seq = some info →
    (stream messages)[seq.toNat]? = some info.packet
  inflightBytes : sender.inflightBytes = payloadBytes sender.unackedPackets

/-- How the packets handed over by an operation relate to the stream: they are
segments transmitted so far, and they include every segment transmitted for
the first time. -/
structure Handover
    (messages : List (Bytes × Int)) (before after : RUDPSender)
    (handed : List RUDPPacket) : Prop where
  mono : before.nextUnsent ≤ after.nextUnsent
  segment : ∀ packet ∈ handed, 0 ≤ packet.seqNum ∧
    packet.seqNum < after.nextUnsent ∧
    (stream messages)[packet.seqNum.toNat]? = some packet
  complete : ∀ seq, before.nextUnsent ≤ seq → seq < after.nextUnsent →
    ∃ packet ∈ handed, packet.seqNum = seq

/-- A new sender has an empty window. -/
theorem window_new (windowSize : Int) : Window (new windowSize) [] 0 where
  low_nonneg := le_rfl
  low_le := by simp [new, nextUnsent]
  nextSeq := rfl
  sendBuffer := rfl
  mem_unacked := by
    intro seq
    simp only [new, nextUnsent, List.length_nil, Dict.not_mem_empty,
      false_iff]
    omega
  packet := by simp [new]
  inflightBytes := rfl

namespace Window

variable {sender : RUDPSender} {messages : List (Bytes × Int)} {low : Int}

theorem nextUnsent_nonneg (window : Window sender messages low) :
    0 ≤ sender.nextUnsent :=
  window.low_nonneg.trans window.low_le

theorem nextUnsent_le (window : Window sender messages low) :
    sender.nextUnsent ≤ (stream messages).length := by
  have := window.nextSeq
  simp only [nextUnsent]
  omega

/-- The number of segments in flight. -/
theorem size (window : Window sender messages low) :
    (sender.unackedPackets.size : Int) = sender.nextUnsent - low := by
  have card := Dict.size_eq_card_of_mem_iff
    (Finset.Ico low sender.nextUnsent)
    (fun seq => by rw [window.mem_unacked, Finset.mem_Ico])
  rw [card, Int.card_Ico]
  have := window.low_le
  omega

/-- No segment in flight carries more than `MSS` bytes. -/
theorem inflightBytes_le (window : Window sender messages low) :
    sender.inflightBytes ≤ sender.unackedPackets.size * mss := by
  rw [window.inflightBytes, payloadBytes, Dict.size]
  have bounded : ∀ bytes ∈ sender.unackedPackets.entries.map fun entry =>
      (entry.2.packet.payload.length : Int), bytes ≤ (mss : Int) := by
    intro bytes member
    obtain ⟨⟨seq, info⟩, stored, rfl⟩ := List.mem_map.mp member
    have found := (Dict.get?_eq_some_iff _ _ _).mpr stored
    have inStream := List.mem_of_getElem? (window.packet seq info found)
    exact_mod_cast (isEnqueued_of_mem_stream inStream).payload
  simpa using List.sum_le_card_nsmul _ (mss : Int) bounded

/-- The head of the send buffer is the next unsent segment of the stream. -/
theorem head (window : Window sender messages low)
    {packet : RUDPPacket} {rest : List RUDPPacket}
    (buffered : sender.sendBuffer = packet :: rest) :
    (stream messages)[sender.nextUnsent.toNat]? = some packet ∧
      packet.seqNum = sender.nextUnsent ∧
      rest = (stream messages).drop (sender.nextUnsent.toNat + 1) := by
  have dropped := window.sendBuffer.symm.trans buffered
  have found : (stream messages)[sender.nextUnsent.toNat]? = some packet := by
    rw [← List.head?_drop, dropped, List.head?_cons]
  refine ⟨found, ?_, ?_⟩
  · rw [seqNum_stream found, Int.toNat_of_nonneg window.nextUnsent_nonneg]
  · rw [← List.tail_drop, dropped, List.tail_cons]

/-- A segment of the stream that is not in the send buffer was
transmitted. -/
theorem lt_nextUnsent (window : Window sender messages low)
    {index : Nat} {packet : RUDPPacket}
    (inStream : (stream messages)[index]? = some packet)
    (unbuffered : packet ∉ sender.sendBuffer) :
    (index : Int) < sender.nextUnsent := by
  by_contra waiting
  have later : sender.nextUnsent.toNat ≤ index := by omega
  have found : ((stream messages).drop sender.nextUnsent.toNat)[
      index - sender.nextUnsent.toNat]? = some packet := by
    rw [List.getElem?_drop, Nat.add_sub_cancel' later]
    exact inStream
  exact unbuffered (window.sendBuffer ▸ List.mem_of_getElem? found)

theorem nextUnsent_transmit
    {packet : RUDPPacket} {rest : List RUDPPacket}
    (buffered : sender.sendBuffer = packet :: rest) (currentTime : ℚ) :
    (sender.transmit packet rest currentTime).nextUnsent =
      sender.nextUnsent + 1 := by
  simp only [nextUnsent, transmit, buffered, List.length_cons]
  omega

/-- Transmitting the head of the buffer moves the upper end of the window by
one. -/
theorem transmit (window : Window sender messages low)
    {packet : RUDPPacket} {rest : List RUDPPacket}
    (buffered : sender.sendBuffer = packet :: rest) (currentTime : ℚ) :
    Window (sender.transmit packet rest currentTime) messages low := by
  obtain ⟨found, seqNum, restEquality⟩ := window.head buffered
  have next := nextUnsent_transmit buffered currentTime
  have nonneg := window.nextUnsent_nonneg
  have bound := window.low_le
  have absent : packet.seqNum ∉ sender.unackedPackets := by
    rw [window.mem_unacked, seqNum]
    omega
  exact
    { low_nonneg := window.low_nonneg
      low_le := by omega
      nextSeq := window.nextSeq
      sendBuffer := by
        rw [next, show (sender.nextUnsent + 1).toNat =
          sender.nextUnsent.toNat + 1 by omega]
        exact restEquality
      mem_unacked := by
        intro seq
        rw [next]
        simp only [RUDPSender.transmit, Dict.mem_set, window.mem_unacked,
          seqNum]
        omega
      packet := by
        intro seq info stored
        simp only [RUDPSender.transmit, Dict.get?_set] at stored
        split at stored
        · next same =>
          rw [same, seqNum]
          simp only [Option.some.injEq] at stored
          rw [← stored]
          exact found
        · exact window.packet seq info stored
      inflightBytes := by
        simp only [RUDPSender.transmit]
        rw [payloadBytes_set_of_not_mem absent, window.inflightBytes] }

/-- `_try_send` keeps the lower end of the window and hands over the segments
by which the upper end moves. -/
theorem trySend (window : Window sender messages low) (currentTime : ℚ) :
    Window (sender.trySend currentTime).1 messages low ∧
      Handover messages sender (sender.trySend currentTime).1
        (sender.trySend currentTime).2 := by
  refine trySend_rule
    (fun after handed => Window after messages low ∧
      Handover messages sender after handed) ?_ ?_ ⟨window, ?_⟩
  · rintro after handed _ ⟨⟨_, _, _, _, _, _, _⟩, ⟨_, _, _⟩⟩
    exact ⟨⟨‹_›, ‹_›, ‹_›, ‹_›, ‹_›, ‹_›, ‹_›⟩, ⟨‹_›, ‹_›, ‹_›⟩⟩
  · rintro after handed packet rest ⟨window, handover⟩ buffered _
    obtain ⟨found, seqNum, _⟩ := window.head buffered
    have next := nextUnsent_transmit buffered currentTime
    have mono := handover.mono
    have nonneg := window.nextUnsent_nonneg
    refine ⟨window.transmit buffered currentTime, ?_, ?_, ?_⟩
    · omega
    · intro other member
      rcases List.mem_append.mp member with earlier | last
      · obtain ⟨lower, upper, inStream⟩ := handover.segment other earlier
        exact ⟨lower, by omega, inStream⟩
      · obtain rfl := List.mem_singleton.mp last
        rw [seqNum]
        exact ⟨nonneg, by omega, found⟩
    · intro seq lower upper
      by_cases last : seq = after.nextUnsent
      · exact ⟨packet, by simp, seqNum.trans last.symm⟩
      · obtain ⟨other, member, equal⟩ :=
          handover.complete seq lower (by omega)
        exact ⟨other, by simp [member], equal⟩
  · exact ⟨le_rfl, by simp, fun seq lower upper => by omega⟩

/-- A further message extends the stream but not the window. -/
theorem enqueue (window : Window sender messages low)
    (data : Bytes) (msgId : Int) :
    Window
      { sender with
        sendBuffer := sender.sendBuffer ++
          messagePackets msgId sender.nextSeq 0 (slices mss data)
        nextSeq := sender.nextSeq +
          (messagePackets msgId sender.nextSeq 0 (slices mss data)).length }
      (messages ++ [(data, msgId)]) low := by
  have grown := stream_append_singleton messages data msgId
  have bound := window.nextUnsent_le
  have nonneg := window.nextUnsent_nonneg
  have sameUnsent : ∀ packets : List RUDPPacket,
      nextUnsent { sender with
        sendBuffer := sender.sendBuffer ++ packets
        nextSeq := sender.nextSeq + packets.length } = sender.nextUnsent := by
    intro packets
    simp only [nextUnsent, List.length_append]
    omega
  refine ⟨window.low_nonneg, ?_, ?_, ?_, ?_, ?_, window.inflightBytes⟩
  · rw [sameUnsent]
    exact window.low_le
  · simp only [grown, List.length_append, window.nextSeq]
    push_cast
    ring
  · rw [sameUnsent, grown, List.drop_append_of_le_length (by omega),
      ← window.sendBuffer, window.nextSeq]
  · intro seq
    rw [sameUnsent]
    exact window.mem_unacked seq
  · intro seq info found
    have old := window.packet seq info found
    rw [grown, List.getElem?_append_left]
    · exact old
    · exact (List.getElem?_eq_some_iff.mp old).1

/-- Dropping the packets below an acknowledged number moves the lower end of
the window. -/
theorem removeAcked (window : Window sender messages low) (ackNum : Int) :
    Window (sender.removeAcked ackNum) messages
      (max low (min ackNum sender.nextUnsent)) := by
  have bound := window.low_le
  have nonneg := window.low_nonneg
  refine ⟨by omega, ?_, window.nextSeq, window.sendBuffer, ?_, ?_, ?_⟩
  · change _ ≤ sender.nextUnsent
    omega
  · intro seq
    simp only [RUDPSender.removeAcked]
    rw [Dict.mem_filter_key _ (fun seq => !decide (seq < ackNum)),
      window.mem_unacked]
    simp only [Bool.not_eq_true', decide_eq_false_iff_not]
    change _ ↔ _ ∧ seq < sender.nextUnsent
    omega
  · intro seq info found
    simp only [RUDPSender.removeAcked, Dict.get?_filter,
      Option.filter_eq_some_iff] at found
    exact window.packet seq info found.1
  · have parts := payloadBytes_filter_add sender.unackedPackets
      (fun seq => decide (seq < ackNum))
    simp only [RUDPSender.removeAcked, window.inflightBytes]
    omega

/-- Replacing the record of a segment in flight keeps the window. -/
theorem setUnacked (window : Window sender messages low)
    {seq : Int} {old : UnackedPacket}
    (found : sender.unackedPackets.get? seq = some old)
    (new : UnackedPacket)
    (samePacket : new.packet = old.packet) :
    Window { sender with
      unackedPackets := sender.unackedPackets.set seq new } messages low := by
  refine ⟨window.low_nonneg, window.low_le, window.nextSeq,
    window.sendBuffer, ?_, ?_, ?_⟩
  · intro other
    have present := (window.mem_unacked seq).mp (Dict.mem_of_get? found)
    simp only [Dict.mem_set, window.mem_unacked]
    change _ ↔ low ≤ other ∧ other < sender.nextUnsent
    constructor
    · rintro (rfl | inside)
      · exact present
      · exact inside
    · exact .inr
  · intro other info stored
    simp only [Dict.get?_set] at stored
    split at stored
    · next same =>
      simp only [Option.some.injEq] at stored
      rw [same, ← stored, samePacket]
      exact window.packet seq old found
    · exact window.packet other info stored
  · simp only
    rw [payloadBytes_set_of_same_packet found samePacket,
      window.inflightBytes]

end Window

end RUDPSender

end RudpAgentStack

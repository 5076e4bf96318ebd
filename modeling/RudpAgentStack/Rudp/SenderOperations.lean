import RudpAgentStack.Rudp.SenderWindow

/-!
# What the sender's operations do to the window

One lemma per public operation of the sender, for arbitrary acknowledgements:
how the window moves, what is handed over, and what happens to `base`.
-/

namespace RudpAgentStack

open Foundation

namespace RUDPSender

variable {sender : RUDPSender} {messages : List (Bytes × Int)} {low : Int}

/-- The window of a sender depends only on these four fields. -/
theorem Window.congr (window : Window sender messages low)
    {other : RUDPSender}
    (nextSeq : other.nextSeq = sender.nextSeq)
    (sendBuffer : other.sendBuffer = sender.sendBuffer)
    (unackedPackets : other.unackedPackets = sender.unackedPackets)
    (inflightBytes : other.inflightBytes = sender.inflightBytes) :
    Window other messages low := by
  have nextUnsent : other.nextUnsent = sender.nextUnsent := by
    simp [RUDPSender.nextUnsent, nextSeq, sendBuffer]
  exact
    { low_nonneg := window.low_nonneg
      low_le := nextUnsent ▸ window.low_le
      nextSeq := nextSeq.trans window.nextSeq
      sendBuffer := by rw [sendBuffer, nextUnsent, window.sendBuffer]
      mem_unacked := by
        intro seq
        rw [unackedPackets, nextUnsent, window.mem_unacked]
      packet := unackedPackets ▸ window.packet
      inflightBytes := by
        rw [inflightBytes, unackedPackets, window.inflightBytes] }

/-- Handing over nothing while the upper end of the window stays. -/
theorem Handover.nothing {before after : RUDPSender}
    (same : after.nextUnsent = before.nextUnsent) :
    Handover messages before after [] where
  mono := same.ge
  segment := by simp
  complete := by
    intro seq lower upper
    omega

/-- Handing over one segment in flight while the upper end of the window
stays. -/
theorem Handover.single (window : Window sender messages low)
    {seq : Int} {info : UnackedPacket}
    (found : sender.unackedPackets.get? seq = some info)
    {after : RUDPSender}
    (same : after.nextUnsent = sender.nextUnsent) :
    Handover messages sender after [info.packet] where
  mono := same.ge
  segment := by
    intro packet member
    obtain rfl := List.mem_singleton.mp member
    have present := (window.mem_unacked seq).mp (Dict.mem_of_get? found)
    have nonneg := window.low_nonneg
    have inStream := window.packet seq info found
    have seqNum : info.packet.seqNum = seq := by
      rw [seqNum_stream inStream]
      omega
    rw [seqNum]
    exact ⟨by omega, by omega, inStream⟩
  complete := by
    intro seq lower upper
    omega

/-- A handover is described by the upper end of the window before it. -/
theorem Handover.of_same_before {before before' after : RUDPSender}
    {handed : List RUDPPacket}
    (handover : Handover messages before after handed)
    (same : before'.nextUnsent = before.nextUnsent) :
    Handover messages before' after handed :=
  ⟨same ▸ handover.mono, handover.segment, same ▸ handover.complete⟩

/-! ## Enqueueing -/

/-- `enqueue_data` keeps the lower end of the window. -/
theorem Window.enqueueData (window : Window sender messages low)
    (data : Bytes) (msgId : Int) (currentTime : ℚ) :
    Window (sender.enqueueData data msgId currentTime).1
        (messages ++ [(data, msgId)]) low ∧
      Handover (messages ++ [(data, msgId)]) sender
        (sender.enqueueData data msgId currentTime).1
        (sender.enqueueData data msgId currentTime).2 := by
  obtain ⟨window', handover⟩ := (window.enqueue data msgId).trySend currentTime
  refine ⟨window', handover.of_same_before ?_⟩
  simp only [nextUnsent, List.length_append]
  push_cast
  ring

@[simp] theorem enqueueData_base
    (sender : RUDPSender) (data : Bytes) (msgId : Int) (currentTime : ℚ) :
    (sender.enqueueData data msgId currentTime).1.base = sender.base := by
  simp [RUDPSender.enqueueData]

/-! ## Acknowledgements -/

/-- Sampling changes nothing but the estimate and the timeout. -/
theorem sampleRtt_frame
    (sender : RUDPSender) (highestAcked : Int) (currentTime : ℚ) :
    ∃ rtt rto, sender.sampleRtt highestAcked currentTime =
      { sender with rtt := rtt, rto := rto } := by
  unfold sampleRtt
  split
  · exact ⟨_, _, rfl⟩
  · split <;> exact ⟨_, _, rfl⟩

/-- Growth changes nothing but the congestion window and its state. -/
theorem growCwnd_frame (sender : RUDPSender) :
    ∃ cwnd ccState, sender.growCwnd =
      { sender with cwnd := cwnd, ccState := ccState } := by
  unfold growCwnd
  split <;> exact ⟨_, _, rfl⟩

/-- The sender as a new acknowledgement leaves it before `_try_send`. -/
def afterNewAck
    (sender : RUDPSender) (ackNum : Int) (currentTime : ℚ) : RUDPSender :=
  ((({ sender with
        base := ackNum
        dupAckCount := 0
        lastAckReceived := ackNum }).sampleRtt (ackNum - 1)
      currentTime).removeAcked ackNum).growCwnd

theorem onNewAck_eq
    (sender : RUDPSender) (ackNum : Int) (currentTime : ℚ) :
    sender.onNewAck ackNum currentTime =
      (sender.afterNewAck ackNum currentTime).trySend currentTime := rfl

/-- Before `_try_send`, a new acknowledgement has changed only congestion and
timing fields besides removing what it acknowledges. -/
theorem afterNewAck_frame
    (sender : RUDPSender) (ackNum : Int) (currentTime : ℚ) :
    ∃ rtt rto cwnd ccState, sender.afterNewAck ackNum currentTime =
      { sender.removeAcked ackNum with
        base := ackNum
        dupAckCount := 0
        lastAckReceived := ackNum
        rtt := rtt
        rto := rto
        cwnd := cwnd
        ccState := ccState } := by
  unfold afterNewAck
  obtain ⟨rtt, rto, sampled⟩ := sampleRtt_frame
    { sender with
      base := ackNum
      dupAckCount := 0
      lastAckReceived := ackNum } (ackNum - 1) currentTime
  rw [sampled]
  obtain ⟨cwnd, ccState, grown⟩ := growCwnd_frame
    (({ sender with
        base := ackNum
        dupAckCount := 0
        lastAckReceived := ackNum
        rtt := rtt
        rto := rto } : RUDPSender).removeAcked ackNum)
  exact ⟨rtt, rto, cwnd, ccState, grown⟩

theorem afterNewAck_nextUnsent
    (sender : RUDPSender) (ackNum : Int) (currentTime : ℚ) :
    (sender.afterNewAck ackNum currentTime).nextUnsent =
      sender.nextUnsent := by
  obtain ⟨_, _, _, _, equal⟩ := sender.afterNewAck_frame ackNum currentTime
  rw [equal]
  rfl

theorem Window.afterNewAck (window : Window sender messages low)
    (ackNum : Int) (currentTime : ℚ) :
    Window (sender.afterNewAck ackNum currentTime) messages
      (max low (min ackNum sender.nextUnsent)) := by
  obtain ⟨_, _, _, _, equal⟩ := sender.afterNewAck_frame ackNum currentTime
  rw [equal]
  exact (window.removeAcked ackNum).congr rfl rfl rfl rfl

/-- A new acknowledgement moves the lower end of the window. -/
theorem Window.onNewAck (window : Window sender messages low)
    (ackNum : Int) (currentTime : ℚ) :
    Window (sender.onNewAck ackNum currentTime).1 messages
        (max low (min ackNum sender.nextUnsent)) ∧
      Handover messages sender (sender.onNewAck ackNum currentTime).1
        (sender.onNewAck ackNum currentTime).2 := by
  obtain ⟨window', handover⟩ :=
    (window.afterNewAck ackNum currentTime).trySend currentTime
  exact ⟨window', handover.of_same_before
    (sender.afterNewAck_nextUnsent ackNum currentTime).symm⟩

@[simp] theorem onNewAck_base
    (sender : RUDPSender) (ackNum : Int) (currentTime : ℚ) :
    (sender.onNewAck ackNum currentTime).1.base = ackNum := by
  obtain ⟨_, _, _, _, equal⟩ := sender.afterNewAck_frame ackNum currentTime
  rw [onNewAck_eq, trySend_base, equal]

/-- Retransmitting `base` keeps the window. -/
theorem Window.fastRetransmit (window : Window sender messages low)
    (currentTime : ℚ) :
    Window (sender.fastRetransmit currentTime).1 messages low ∧
      Handover messages sender (sender.fastRetransmit currentTime).1
        (sender.fastRetransmit currentTime).2 := by
  unfold RUDPSender.fastRetransmit
  split
  · exact ⟨window, .nothing rfl⟩
  · next packetInfo found =>
      exact ⟨window.setUnacked found _ rfl, .single window found rfl⟩

@[simp] theorem fastRetransmit_base
    (sender : RUDPSender) (currentTime : ℚ) :
    (sender.fastRetransmit currentTime).1.base = sender.base := by
  unfold fastRetransmit
  split <;> rfl

/-- Inflating the congestion window leaves the window of segments alone. -/
theorem Window.inflated (window : Window sender messages low) :
    Window { sender with
      dupAckCount := sender.dupAckCount + 1
      cwnd := sender.cwnd + mss } messages low :=
  window.congr rfl rfl rfl rfl

/-- A duplicate acknowledgement keeps the lower end of the window. -/
theorem Window.onDuplicateAck (window : Window sender messages low)
    (currentTime : ℚ) :
    Window (sender.onDuplicateAck currentTime).1 messages low ∧
      Handover messages sender (sender.onDuplicateAck currentTime).1
        (sender.onDuplicateAck currentTime).2 := by
  unfold RUDPSender.onDuplicateAck
  simp only
  split
  · have entered : Window (enterFastRecovery
        { sender with dupAckCount := sender.dupAckCount + 1 })
        messages low := window.congr rfl rfl rfl rfl
    obtain ⟨window', handover⟩ := entered.fastRetransmit currentTime
    exact ⟨window', handover.of_same_before rfl⟩
  · split
    · obtain ⟨window', handover⟩ := window.inflated.trySend currentTime
      exact ⟨window', handover.of_same_before rfl⟩
    · exact ⟨window.congr rfl rfl rfl rfl, .nothing rfl⟩

@[simp] theorem onDuplicateAck_base
    (sender : RUDPSender) (currentTime : ℚ) :
    (sender.onDuplicateAck currentTime).1.base = sender.base := by
  unfold onDuplicateAck
  simp only
  split
  · rw [fastRetransmit_base]
    rfl
  · split
    · rw [trySend_base]
    · rfl

/-- The lower end of the window after an acknowledgement. -/
def lowAfterAck (sender : RUDPSender) (low ackNum : Int) : Int :=
  if sender.base < ackNum then max low (min ackNum sender.nextUnsent)
  else low

/-- An arbitrary acknowledgement moves the lower end of the window at most up
to the upper end. -/
theorem Window.onAckReceived (window : Window sender messages low)
    (ackNum rwnd : Int) (currentTime : ℚ) :
    Window (sender.onAckReceived ackNum rwnd currentTime).1 messages
        (sender.lowAfterAck low ackNum) ∧
      Handover messages sender
        (sender.onAckReceived ackNum rwnd currentTime).1
        (sender.onAckReceived ackNum rwnd currentTime).2 := by
  have advertised : Window { sender with peerRwnd := rwnd } messages low :=
    window.congr rfl rfl rfl rfl
  unfold RUDPSender.onAckReceived lowAfterAck
  simp only
  split
  · obtain ⟨window', handover⟩ := advertised.onNewAck ackNum currentTime
    exact ⟨window', handover.of_same_before rfl⟩
  · split
    · obtain ⟨window', handover⟩ := advertised.onDuplicateAck currentTime
      exact ⟨window', handover.of_same_before rfl⟩
    · exact ⟨advertised, .nothing rfl⟩

/-- `base` is the largest number acknowledged so far. -/
theorem onAckReceived_base
    (sender : RUDPSender) (ackNum rwnd : Int) (currentTime : ℚ) :
    (sender.onAckReceived ackNum rwnd currentTime).1.base =
      max sender.base ackNum := by
  unfold onAckReceived
  simp only
  split
  · rw [onNewAck_base]
    omega
  · split
    · rw [onDuplicateAck_base]
      simp only
      omega
    · simp only
      omega

/-! ## Timeouts -/

/-- `check_timeouts` keeps the window and hands over at most the segment at
`base`. -/
theorem Window.checkTimeouts (window : Window sender messages low)
    (currentTime : ℚ) :
    Window (sender.checkTimeouts currentTime).1 messages low ∧
      Handover messages sender (sender.checkTimeouts currentTime).1
        (sender.checkTimeouts currentTime).2 := by
  unfold RUDPSender.checkTimeouts
  split
  · exact ⟨window, .nothing rfl⟩
  · next oldestInfo found =>
      split
      · have renewed := window.setUnacked found
          { oldestInfo with
            sentTime := currentTime
            isRetransmitted := true } rfl
        exact ⟨renewed.congr rfl rfl rfl rfl, .single window found rfl⟩
      · exact ⟨window, .nothing rfl⟩

@[simp] theorem checkTimeouts_base
    (sender : RUDPSender) (currentTime : ℚ) :
    (sender.checkTimeouts currentTime).1.base = sender.base := by
  unfold checkTimeouts
  split
  · rfl
  · split <;> rfl

end RUDPSender

end RudpAgentStack

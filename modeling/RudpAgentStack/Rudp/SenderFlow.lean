import RudpAgentStack.Rudp.SenderOperations
import Mathlib.Algebra.Order.Field.Rat
import Mathlib.Tactic.Linarith
import Mathlib.Tactic.Positivity

/-!
# A sender never blocks itself

As long as every acknowledgement advertises between one and `MAX_RWND`
segments, the congestion window holds at least one segment, at most `MAX_RWND`
segments are in flight, and packets wait in the send buffer only while some
segment is in flight.  The last fact is what keeps the retransmission timer
running: every operation that may empty the unacked map ends in `_try_send`.
-/

namespace RudpAgentStack

open Foundation

namespace RUDPSender

variable {sender : RUDPSender} {messages : List (Bytes × Int)} {low : Int}

/-- The limits of `_try_send` leave room for a segment and never for more than
the largest window. -/
structure Paced (sender : RUDPSender) : Prop where
  cwnd : (mss : ℚ) ≤ sender.cwnd
  ssthresh : (mss : ℚ) ≤ sender.ssthresh
  one_le_peerRwnd : 1 ≤ sender.peerRwnd
  peerRwnd_le : sender.peerRwnd ≤ maxRwnd
  inFlight : sender.unackedPackets.size ≤ maxRwnd

/-- A paced sender whose send buffer is non-empty only while a segment is in
flight. -/
structure Flowing (sender : RUDPSender) : Prop extends Paced sender where
  busy : sender.sendBuffer ≠ [] → sender.unackedPackets.size ≠ 0

theorem flowing_new : Flowing (new maxRwnd) where
  cwnd := by norm_num [new, initialCwnd]
  ssthresh := by norm_num [new, initialSsthresh, mss]
  one_le_peerRwnd := by decide
  peerRwnd_le := le_rfl
  inFlight := by simp [new]
  busy := by simp [new]

theorem mss_cast_pos : (0 : ℚ) < mss := by
  norm_num [mss]

/-! ## Sending -/

theorem window_le_peerRwnd (sender : RUDPSender) :
    sender.window ≤ sender.peerRwnd := min_le_right _ _

/-- A peer that advertises a segment leaves room for one. -/
theorem one_le_window (peerRwnd : 1 ≤ sender.peerRwnd) :
    1 ≤ sender.window :=
  le_min (le_max_left _ _) peerRwnd

theorem Paced.trySend (paced : Paced sender) (currentTime : ℚ) :
    Paced (sender.trySend currentTime).1 := by
  refine trySend_rule (fun after _ => after.Paced) ?_ ?_ paced
  · intro after _ _ paced
    exact { paced with }
  · intro after _ packet rest paced _ admitted
    have grown := after.unackedPackets.size_set_le packet.seqNum
      { packet := packet, sentTime := currentTime, isRetransmitted := false }
    have admittedSize := admitted.segments
    have advertised := after.window_le_peerRwnd
    have bounded := paced.peerRwnd_le
    exact
      { paced with
        inFlight := by
          simp only [transmit]
          omega }

/-- After `_try_send` packets are left in the buffer only if something is in
flight: an empty unacked map admits any segment when both windows hold one. -/
theorem Window.busy_trySend
    (window : Window sender messages low)
    (cwnd : (mss : ℚ) ≤ sender.cwnd) (peerRwnd : 1 ≤ sender.peerRwnd)
    (currentTime : ℚ)
    (nonempty : (sender.trySend currentTime).1.sendBuffer ≠ []) :
    (sender.trySend currentTime).1.unackedPackets.size ≠ 0 := by
  intro noneInFlight
  obtain ⟨packet, rest, left⟩ := List.exists_cons_of_ne_nil nonempty
  have window' := (window.trySend currentTime).1
  have noBytes : (sender.trySend currentTime).1.inflightBytes = 0 := by
    rw [window'.inflightBytes, payloadBytes_eq_zero_of_size noneInFlight]
  have inStream := List.mem_of_getElem? (window'.head left).1
  have fits : (packet.payload.length : ℚ) ≤ mss := by
    exact_mod_cast (isEnqueued_of_mem_stream inStream).payload
  refine not_admits_of_trySend left ⟨?_, ?_⟩
  · rw [noBytes, trySend_cwnd]
    push_cast
    linarith
  · have advertised : 1 ≤ (sender.trySend currentTime).1.window :=
      one_le_window (by rw [trySend_peerRwnd]; exact peerRwnd)
    omega

/-- `_try_send` leaves a paced sender flowing. -/
theorem Window.flowing_trySend
    (window : Window sender messages low) (paced : Paced sender)
    (currentTime : ℚ) :
    Flowing (sender.trySend currentTime).1 :=
  { paced.trySend currentTime with
    busy := window.busy_trySend paced.cwnd paced.one_le_peerRwnd currentTime }

/-- Enqueueing keeps a sender flowing. -/
theorem Flowing.enqueueData
    (flowing : Flowing sender) (window : Window sender messages low)
    (data : Bytes) (msgId : Int) (currentTime : ℚ) :
    Flowing (sender.enqueueData data msgId currentTime).1 :=
  (window.enqueue data msgId).flowing_trySend
    { flowing.toPaced with } currentTime

/-! ## Acknowledgements -/

theorem Paced.growCwnd (paced : Paced sender) : Paced sender.growCwnd := by
  have segment := mss_cast_pos
  have current := paced.cwnd
  unfold RUDPSender.growCwnd
  split
  · exact { paced with cwnd := by simp only; linarith }
  · have increment : 0 ≤ (mss * mss : ℚ) / sender.cwnd :=
      div_nonneg (by positivity) (by linarith)
    exact { paced with cwnd := by simp only; linarith }
  · exact { paced with cwnd := paced.ssthresh }

theorem Paced.afterNewAck
    (paced : Paced sender) (ackNum : Int) (currentTime : ℚ) :
    Paced (sender.afterNewAck ackNum currentTime) := by
  unfold RUDPSender.afterNewAck
  obtain ⟨_, _, sampled⟩ := sampleRtt_frame
    { sender with
      base := ackNum
      dupAckCount := 0
      lastAckReceived := ackNum } (ackNum - 1) currentTime
  rw [sampled]
  apply Paced.growCwnd
  have removed := sender.unackedPackets.size_filter_le
    (fun seq _ => !decide (seq < ackNum))
  exact { paced with inFlight := removed.trans paced.inFlight }

theorem Paced.enterFastRecovery (paced : Paced sender) :
    Paced sender.enterFastRecovery := by
  have segment := mss_cast_pos
  have threshold : (mss : ℚ) ≤ max (sender.cwnd / 2) (2 * mss) :=
    le_trans (by linarith) (le_max_right _ _)
  refine { paced with cwnd := ?_, ssthresh := threshold }
  simp only [RUDPSender.enterFastRecovery]
  linarith

/-- Renewing the record of a segment in flight keeps a sender flowing. -/
theorem Flowing.setUnacked
    (flowing : Flowing sender) {seq : Int}
    (present : seq ∈ sender.unackedPackets) (info : UnackedPacket) :
    Flowing { sender with
      unackedPackets := sender.unackedPackets.set seq info } := by
  have sameSize := Dict.size_set_of_mem present info
  exact
    { flowing with
      inFlight := sameSize.trans_le flowing.inFlight
      busy := fun nonempty => sameSize ▸ flowing.busy nonempty }

theorem Flowing.fastRetransmit
    (flowing : Flowing sender) (currentTime : ℚ) :
    Flowing (sender.fastRetransmit currentTime).1 := by
  unfold RUDPSender.fastRetransmit
  split
  · exact flowing
  · next packetInfo found =>
      exact flowing.setUnacked (Dict.mem_of_get? found) _

theorem Flowing.onDuplicateAck
    (flowing : Flowing sender) (window : Window sender messages low)
    (currentTime : ℚ) :
    Flowing (sender.onDuplicateAck currentTime).1 := by
  have counted : Paced
      { sender with dupAckCount := sender.dupAckCount + 1 } :=
    { flowing.toPaced with }
  unfold RUDPSender.onDuplicateAck
  simp only
  split
  · exact Flowing.fastRetransmit
      { counted.enterFastRecovery with busy := flowing.busy } currentTime
  · split
    · have wider : (mss : ℚ) ≤ sender.cwnd + mss := by
        linarith [flowing.cwnd, mss_cast_pos]
      exact window.inflated.flowing_trySend { counted with cwnd := wider }
        currentTime
    · exact { counted with busy := flowing.busy }

/-- An acknowledgement that advertises an admissible window keeps a sender
flowing. -/
theorem Flowing.onAckReceived
    (flowing : Flowing sender) (window : Window sender messages low)
    {ackNum rwnd : Int} (advertised : 1 ≤ rwnd ∧ rwnd ≤ maxRwnd)
    (currentTime : ℚ) :
    Flowing (sender.onAckReceived ackNum rwnd currentTime).1 := by
  have flowing' : Flowing { sender with peerRwnd := rwnd } :=
    { flowing with
      one_le_peerRwnd := advertised.1
      peerRwnd_le := advertised.2 }
  have window' : Window { sender with peerRwnd := rwnd } messages low :=
    window.congr rfl rfl rfl rfl
  unfold RUDPSender.onAckReceived
  simp only
  split
  · rw [onNewAck_eq]
    exact (window'.afterNewAck ackNum currentTime).flowing_trySend
      (flowing'.toPaced.afterNewAck ackNum currentTime) currentTime
  · split
    · exact flowing'.onDuplicateAck window' currentTime
    · exact flowing'

/-! ## Timeouts -/

theorem Flowing.checkTimeouts
    (flowing : Flowing sender) (currentTime : ℚ) :
    Flowing (sender.checkTimeouts currentTime).1 := by
  unfold RUDPSender.checkTimeouts
  split
  · exact flowing
  · next oldestInfo found =>
      split
      · have renewed := flowing.setUnacked (Dict.mem_of_get? found)
          { oldestInfo with
            sentTime := currentTime
            isRetransmitted := true }
        have threshold : (mss : ℚ) ≤ max (sender.cwnd / 2) (2 * mss) :=
          le_trans (by linarith [mss_cast_pos]) (le_max_right _ _)
        exact { renewed with cwnd := le_rfl, ssthresh := threshold }
      · exact flowing

/-- When the timeout of the segment at `base` has expired, `check_timeouts`
hands over exactly this segment. -/
theorem checkTimeouts_handed
    {oldestInfo : UnackedPacket} {currentTime : ℚ}
    (found : sender.unackedPackets.get? sender.base = some oldestInfo)
    (expired : sender.rto ≤ currentTime - oldestInfo.sentTime) :
    (sender.checkTimeouts currentTime).2 = [oldestInfo.packet] := by
  unfold checkTimeouts
  rw [found]
  simp only
  rw [if_pos expired]

end RUDPSender

end RudpAgentStack

import RudpAgentStack.Rudp.SenderCalls
import RudpAgentStack.Rudp.SenderFlow

/-!
# The congestion control state machine

Congestion window, slow-start threshold, duplicate counter and state are tied
together by one invariant that every call of a sender keeps, whatever the
acknowledgements.  Timeouts leave the duplicate counter alone, so a counter of
three or more does not mean Fast Recovery; only the converse holds.
-/

namespace RudpAgentStack

open Foundation

namespace RUDPSender

/-- How the congestion control variables hang together. -/
structure Congestion (sender : RUDPSender) : Prop where
  cwnd : (mss : ℚ) ≤ sender.cwnd
  ssthresh : 2 * (mss : ℚ) ≤ sender.ssthresh
  slowStart : sender.ccState = .slowStart → sender.cwnd < sender.ssthresh
  avoidance : sender.ccState = .avoidance → sender.ssthresh ≤ sender.cwnd
  fastRecovery : sender.ccState = .fastRecovery →
    sender.ssthresh + 3 * mss ≤ sender.cwnd ∧ 3 ≤ sender.dupAckCount

theorem congestion_new (windowSize : Int) : Congestion (new windowSize) where
  cwnd := by norm_num [new, initialCwnd]
  ssthresh := by norm_num [new, initialSsthresh, mss]
  slowStart := by norm_num [new, initialCwnd, initialSsthresh, mss]
  avoidance := by simp [new]
  fastRecovery := by simp [new]

namespace Congestion

variable {sender : RUDPSender}

/-- Growth divides by a window of at least one segment, so it adds at most
one segment. -/
theorem increment_le (congestion : Congestion sender) :
    (mss * mss : ℚ) / sender.cwnd ≤ mss := by
  have segment := mss_cast_pos
  have current := congestion.cwnd
  rw [div_le_iff₀ (by linarith)]
  exact mul_le_mul_of_nonneg_left current segment.le

/-- The invariant reads four fields only. -/
theorem congr (congestion : Congestion sender) {other : RUDPSender}
    (cwnd : other.cwnd = sender.cwnd)
    (ssthresh : other.ssthresh = sender.ssthresh)
    (ccState : other.ccState = sender.ccState)
    (dupAckCount : sender.dupAckCount ≤ other.dupAckCount) :
    Congestion other where
  cwnd := by rw [cwnd]; exact congestion.cwnd
  ssthresh := by rw [ssthresh]; exact congestion.ssthresh
  slowStart := by rw [ccState, cwnd, ssthresh]; exact congestion.slowStart
  avoidance := by rw [ccState, cwnd, ssthresh]; exact congestion.avoidance
  fastRecovery := by
    rw [ccState, cwnd, ssthresh]
    intro recovering
    obtain ⟨wide, counted⟩ := congestion.fastRecovery recovering
    exact ⟨wide, counted.trans dupAckCount⟩

theorem trySend (congestion : Congestion sender) (currentTime : ℚ) :
    Congestion (sender.trySend currentTime).1 := by
  obtain ⟨_, _, _, _, equal⟩ := sender.trySend_frame currentTime
  rw [equal]
  exact congestion.congr rfl rfl rfl le_rfl

theorem enqueueData (congestion : Congestion sender)
    (data : Bytes) (msgId : Int) (currentTime : ℚ) :
    Congestion (sender.enqueueData data msgId currentTime).1 := by
  unfold RUDPSender.enqueueData
  apply trySend
  exact congestion.congr rfl rfl rfl le_rfl

/-- Growth leaves Fast Recovery, so it may forget the duplicates counted. -/
theorem growCwnd (congestion : Congestion sender) {acked : RUDPSender}
    (cwnd : acked.cwnd = sender.cwnd)
    (ssthresh : acked.ssthresh = sender.ssthresh)
    (ccState : acked.ccState = sender.ccState) :
    Congestion acked.growCwnd := by
  have segment := mss_cast_pos
  have current := congestion.cwnd
  have threshold := congestion.ssthresh
  unfold RUDPSender.growCwnd
  rw [ccState, cwnd]
  split
  · -- slow start: one segment more, and on to avoidance at the threshold
    by_cases reached : acked.ssthresh ≤ sender.cwnd + mss
    · simp only [if_pos reached]
      exact ⟨by simp only; linarith, by simp only [ssthresh]; exact threshold,
        by simp, fun _ => reached, by simp⟩
    · simp only [if_neg reached]
      exact ⟨by simp only; linarith, by simp only [ssthresh]; exact threshold,
        fun _ => not_le.mp reached, by simp, by simp⟩
  · -- avoidance: the window never shrinks
    next avoiding =>
    have above := congestion.avoidance avoiding
    have increment : 0 ≤ (mss * mss : ℚ) / sender.cwnd :=
      div_nonneg (by positivity) (by linarith)
    exact ⟨by simp only; linarith, by simp only [ssthresh]; exact threshold,
      by simp [avoiding], fun _ => by simp only [ssthresh]; linarith,
      by simp [avoiding]⟩
  · -- Fast Recovery ends at the threshold
    exact ⟨by simp only [ssthresh]; linarith,
      by simp only [ssthresh]; exact threshold, by simp, fun _ => le_rfl,
      by simp⟩

theorem onNewAck (congestion : Congestion sender)
    (ackNum : Int) (currentTime : ℚ) :
    Congestion (sender.onNewAck ackNum currentTime).1 := by
  rw [onNewAck_eq, afterNewAck]
  obtain ⟨_, _, sampled⟩ := sampleRtt_frame
    { sender with
      base := ackNum
      dupAckCount := 0
      lastAckReceived := ackNum } (ackNum - 1) currentTime
  rw [sampled]
  apply trySend
  exact congestion.growCwnd rfl rfl rfl

/-- Fast Recovery is entered with three duplicates counted. -/
theorem enterFastRecovery {sender : RUDPSender}
    (counted : 3 ≤ sender.dupAckCount) :
    Congestion sender.enterFastRecovery := by
  have segment := mss_cast_pos
  have threshold : 2 * (mss : ℚ) ≤ max (sender.cwnd / 2) (2 * mss) :=
    le_max_right _ _
  exact ⟨by simp only [RUDPSender.enterFastRecovery]; linarith, threshold,
    by simp [RUDPSender.enterFastRecovery],
    by simp [RUDPSender.enterFastRecovery], fun _ => ⟨le_rfl, counted⟩⟩

theorem fastRetransmit (congestion : Congestion sender) (currentTime : ℚ) :
    Congestion (sender.fastRetransmit currentTime).1 := by
  unfold RUDPSender.fastRetransmit
  split
  · exact congestion
  · exact congestion.congr rfl rfl rfl le_rfl

theorem onDuplicateAck (congestion : Congestion sender) (currentTime : ℚ) :
    Congestion (sender.onDuplicateAck currentTime).1 := by
  have segment := mss_cast_pos
  have current := congestion.cwnd
  simp only [RUDPSender.onDuplicateAck]
  split
  · next third =>
      apply fastRetransmit
      exact enterFastRecovery third.1.ge
  · split
    · next inflates =>
        apply trySend
        obtain ⟨wide, counted⟩ := congestion.fastRecovery inflates.2
        exact ⟨by simp only; linarith, congestion.ssthresh,
          by simp [inflates.2], by simp [inflates.2],
          fun _ => ⟨by simp only; linarith, by simp only; omega⟩⟩
    · exact congestion.congr rfl rfl rfl (by simp)

theorem onAckReceived (congestion : Congestion sender)
    (ackNum rwnd : Int) (currentTime : ℚ) :
    Congestion (sender.onAckReceived ackNum rwnd currentTime).1 := by
  have advertised : Congestion { sender with peerRwnd := rwnd } :=
    congestion.congr rfl rfl rfl le_rfl
  simp only [RUDPSender.onAckReceived]
  split
  · exact advertised.onNewAck ackNum currentTime
  · split
    · exact advertised.onDuplicateAck currentTime
    · exact advertised

theorem checkTimeouts (congestion : Congestion sender) (currentTime : ℚ) :
    Congestion (sender.checkTimeouts currentTime).1 := by
  have segment := mss_cast_pos
  have threshold : 2 * (mss : ℚ) ≤ max (sender.cwnd / 2) (2 * mss) :=
    le_max_right _ _
  unfold RUDPSender.checkTimeouts
  split
  · exact congestion
  · split
    · exact ⟨le_rfl, threshold, fun _ => by simp only; linarith, by simp,
        by simp⟩
    · exact congestion

/-- Step lemma: every call keeps the invariant. -/
theorem perform (congestion : Congestion sender) (call : Call) :
    Congestion (sender.perform call).1 := by
  cases call with
  | enqueueData data msgId currentTime =>
      exact congestion.enqueueData data msgId currentTime
  | onAckReceived ackNum rwnd currentTime =>
      exact congestion.onAckReceived ackNum rwnd currentTime
  | checkTimeouts currentTime => exact congestion.checkTimeouts currentTime

end Congestion

namespace Run

/-- Run lemma: the invariant holds after any calls. -/
theorem congestion_after (windowSize : Int) (calls : List Call) :
    Congestion (after windowSize calls).sender := by
  induction calls using List.reverseRecOn with
  | nil => exact congestion_new windowSize
  | append_singleton calls call inductionHypothesis =>
      rw [after_append_singleton, sender_next]
      exact inductionHypothesis.perform call

/-- After any calls the congestion control variables are consistent with the
state, and growth in Congestion Avoidance divides by a positive window and adds
at most one segment. -/
theorem congestion_controlled (windowSize : Int) (calls : List Call) :
    let sender := (after windowSize calls).sender
    ((mss : ℚ) ≤ sender.cwnd ∧ 2 * (mss : ℚ) ≤ sender.ssthresh) ∧
      (sender.ccState = .slowStart → sender.cwnd < sender.ssthresh) ∧
      (sender.ccState = .avoidance → sender.ssthresh ≤ sender.cwnd) ∧
      (sender.ccState = .fastRecovery →
        sender.ssthresh + 3 * mss ≤ sender.cwnd ∧ 3 ≤ sender.dupAckCount) ∧
      sender.cwnd ≠ 0 ∧ (mss * mss : ℚ) / sender.cwnd ≤ mss := by
  intro sender
  have congestion := congestion_after windowSize calls
  refine ⟨⟨congestion.cwnd, congestion.ssthresh⟩, congestion.slowStart,
    congestion.avoidance, congestion.fastRecovery, ?_,
    congestion.increment_le⟩
  exact (mss_cast_pos.trans_le congestion.cwnd).ne'

end Run

end RUDPSender

end RudpAgentStack

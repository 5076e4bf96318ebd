import RudpAgentStack.Rudp.CongestionControl

/-!
# Window updates

A peer that closes its window with the acknowledgement of everything in flight
leaves the sender without a timer.  The update that reopens the window carries
the same acknowledged number, so `on_ack_received` treats it as a duplicate,
and only the branch that inflates the window in Fast Recovery runs `_try_send`.
-/

namespace RudpAgentStack

open Foundation

namespace RUDPSender

/-- Packets wait in the send buffer while nothing is in flight. -/
def Stalled (sender : RUDPSender) : Prop :=
  sender.sendBuffer ≠ [] ∧ sender.unackedPackets.size = 0

instance (sender : RUDPSender) : Decidable (Stalled sender) :=
  inferInstanceAs (Decidable (_ ∧ _))

/-- The last acknowledged number is `base`. -/
def Synchronized (sender : RUDPSender) : Prop :=
  sender.lastAckReceived = sender.base

namespace Synchronized

variable {sender : RUDPSender}

theorem trySend (synchronized : Synchronized sender) (currentTime : ℚ) :
    Synchronized (sender.trySend currentTime).1 := by
  obtain ⟨_, _, _, _, equal⟩ := sender.trySend_frame currentTime
  rw [equal]
  exact synchronized

theorem onNewAck (sender : RUDPSender) (ackNum : Int) (currentTime : ℚ) :
    Synchronized (sender.onNewAck ackNum currentTime).1 := by
  rw [onNewAck_eq]
  apply trySend
  obtain ⟨_, _, _, _, equal⟩ := sender.afterNewAck_frame ackNum currentTime
  rw [equal]
  rfl

theorem fastRetransmit (synchronized : Synchronized sender)
    (currentTime : ℚ) :
    Synchronized (sender.fastRetransmit currentTime).1 := by
  unfold RUDPSender.fastRetransmit
  split <;> exact synchronized

theorem onDuplicateAck (synchronized : Synchronized sender)
    (currentTime : ℚ) :
    Synchronized (sender.onDuplicateAck currentTime).1 := by
  simp only [RUDPSender.onDuplicateAck]
  split
  · exact fastRetransmit (by exact synchronized) currentTime
  · split
    · exact trySend (by exact synchronized) currentTime
    · exact synchronized

/-- Step lemma: every call keeps the two numbers together. -/
theorem perform (synchronized : Synchronized sender) (call : Call) :
    Synchronized (sender.perform call).1 := by
  cases call with
  | enqueueData data msgId currentTime =>
      exact trySend (by exact synchronized) currentTime
  | onAckReceived ackNum rwnd currentTime =>
      simp only [RUDPSender.perform, RUDPSender.onAckReceived]
      split
      · exact onNewAck _ ackNum currentTime
      · split
        · exact onDuplicateAck (by exact synchronized) currentTime
        · exact synchronized
  | checkTimeouts currentTime =>
      simp only [RUDPSender.perform, RUDPSender.checkTimeouts]
      split
      · exact synchronized
      · split <;> exact synchronized

end Synchronized

/-- An acknowledgement leaves the window it advertises. -/
theorem peerRwnd_onAckReceived
    (sender : RUDPSender) (ackNum rwnd : Int) (currentTime : ℚ) :
    (sender.onAckReceived ackNum rwnd currentTime).1.peerRwnd = rwnd := by
  simp only [onAckReceived]
  split
  · rw [onNewAck_eq, trySend_peerRwnd]
    obtain ⟨_, _, _, _, equal⟩ := afterNewAck_frame
      { sender with peerRwnd := rwnd } ackNum currentTime
    rw [equal]
    rfl
  · split
    · simp only [onDuplicateAck]
      split
      · unfold fastRetransmit
        split <;> rfl
      · split
        · rw [trySend_peerRwnd]
        · rfl
    · rfl

/-- A call that retransmits at most one segment stalls a sender only when it
was stalled. -/
theorem Retransmits.stalled_iff
    {sender after : RUDPSender} {handed : List RUDPPacket} {currentTime : ℚ}
    (kept : Retransmits sender after handed currentTime) :
    Stalled after ↔ Stalled sender := by
  have sameSize : after.unackedPackets.size =
      sender.unackedPackets.size := by
    rcases kept.inFlight with ⟨_, same⟩ | ⟨packetInfo, found, _, renewed⟩
    · rw [same]
    · rw [renewed, Dict.size_set_of_mem (Dict.mem_of_get? found)]
  simp only [Stalled, kept.sendBuffer, sameSize]

/-- A duplicate acknowledgement gets to `_try_send` exactly in Fast
Recovery. -/
theorem beforeTrySend_duplicate
    {sender : RUDPSender} (congestion : Congestion sender)
    (synchronized : Synchronized sender) (rwnd : Int) (currentTime : ℚ) :
    (∃ ready, sender.beforeTrySend
        (.onAckReceived sender.base rwnd currentTime) = some ready) ↔
      sender.ccState = .fastRecovery := by
  have duplicate : sender.base = sender.lastAckReceived := synchronized.symm
  simp only [beforeTrySend, lt_irrefl, if_false, ← duplicate, and_self,
    if_true]
  constructor
  · rintro ⟨ready, reached⟩
    split at reached
    · exact absurd reached (by simp)
    · split at reached
      · next inflates => exact inflates.2
      · exact absurd reached (by simp)
  · intro recovering
    have counted := (congestion.fastRecovery recovering).2
    rw [if_neg (fun third => third.2 recovering),
      if_pos ⟨by omega, recovering⟩]
    exact ⟨_, rfl⟩

namespace Run

theorem synchronized_after (windowSize : Int) (calls : List Call) :
    Synchronized (after windowSize calls).sender := by
  induction calls using List.reverseRecOn with
  | nil => rfl
  | append_singleton calls call inductionHypothesis =>
      rw [after_append_singleton, sender_next]
      exact inductionHypothesis.perform call

/-- An acknowledgement that equals `base` once it is processed, and advertises
a segment, does not leave the sender stalled. -/
def Restarts (run : Run) (call : Call) : Prop :=
  ∀ ackNum rwnd currentTime,
    call = .onAckReceived ackNum rwnd currentTime →
    (run.next call).sender.base = ackNum → 0 < rwnd →
    ¬ Stalled (run.next call).sender

/-- An acknowledgement that equals `base` beforehand, and advertises a segment,
finds the sender not stalled or in Fast Recovery. -/
def FindsRunning (run : Run) (call : Call) : Prop :=
  ∀ ackNum rwnd currentTime,
    call = .onAckReceived ackNum rwnd currentTime →
    ackNum = run.sender.base → 0 < rwnd →
    ¬ Stalled run.sender ∨ run.sender.ccState = .fastRecovery

variable {run : Run} {low : Int}

/-- An acknowledgement that advertises a segment and gets to `_try_send` leaves
no sender stalled. -/
theorem Consistent.running
    (consistent : run.Consistent low) (congestion : Congestion run.sender)
    {ready : RUDPSender} {ackNum rwnd : Int} {currentTime : ℚ}
    (reached : run.sender.beforeTrySend
      (.onAckReceived ackNum rwnd currentTime) = some ready)
    (advertised : 0 < rwnd) :
    ¬ Stalled (run.next (.onAckReceived ackNum rwnd currentTime)).sender := by
  have performed := perform_of_beforeTrySend reached
  have window := (consistent.beforeTrySend reached).1
  have cwnd := (congestion.perform
    (.onAckReceived ackNum rwnd currentTime)).cwnd
  have peerRwnd := run.sender.peerRwnd_onAckReceived ackNum rwnd currentTime
  change (run.sender.perform (.onAckReceived ackNum rwnd
    currentTime)).1.peerRwnd = rwnd at peerRwnd
  rw [performed, trySend_cwnd] at cwnd
  rw [performed, trySend_peerRwnd] at peerRwnd
  rw [sender_next, performed]
  rintro ⟨waiting, idle⟩
  exact window.busy_trySend cwnd (by omega) _ waiting idle

/-- Step lemma: a window update restarts the sender exactly when it finds it
running or in Fast Recovery. -/
theorem Consistent.restarts_iff
    (consistent : run.Consistent low) (congestion : Congestion run.sender)
    (synchronized : Synchronized run.sender) (call : Call) :
    run.Restarts call ↔ run.FindsRunning call := by
  constructor
  · rintro restarts ackNum rwnd currentTime rfl rfl advertised
    by_cases recovering : run.sender.ccState = .fastRecovery
    · exact .inr recovering
    · left
      have missed : run.sender.beforeTrySend
          (.onAckReceived run.sender.base rwnd currentTime) = none := by
        rw [Option.eq_none_iff_forall_ne_some]
        intro ready reached
        exact recovering ((beforeTrySend_duplicate congestion synchronized
          rwnd currentTime).mp ⟨ready, reached⟩)
      have kept := retransmits_of_beforeTrySend missed
      rw [← kept.stalled_iff, ← sender_next]
      refine restarts _ rwnd currentTime rfl ?_ advertised
      rw [sender_next, kept.base]
  · rintro finds ackNum rwnd currentTime rfl processed advertised
    cases reached : run.sender.beforeTrySend
        (.onAckReceived ackNum rwnd currentTime) with
    | some ready => exact consistent.running congestion reached advertised
    | none =>
        -- nothing was newly acknowledged, so the number is `base` itself
        have kept := retransmits_of_beforeTrySend reached
        rw [sender_next, kept.base] at processed
        rcases finds _ rwnd currentTime rfl processed.symm advertised with
          running | recovering
        · rw [sender_next, kept.stalled_iff]
          exact running
        · obtain ⟨ready, reached'⟩ := (beforeTrySend_duplicate congestion
            synchronized rwnd currentTime).mpr recovering
          rw [processed, reached] at reached'
          exact absurd reached' (by simp)

/-- In any run of a sender, every acknowledgement that equals `base` and
advertises a segment leaves the sender running exactly when every such
acknowledgement finds it running or in Fast Recovery. -/
theorem restarts_iff_findsRunning (windowSize : Int) (calls : List Call) :
    (∀ earlier call, earlier ++ [call] <+: calls →
        (after windowSize earlier).Restarts call) ↔
      ∀ earlier call, earlier ++ [call] <+: calls →
        (after windowSize earlier).FindsRunning call := by
  have step : ∀ earlier call, (after windowSize earlier).Restarts call ↔
      (after windowSize earlier).FindsRunning call := by
    intro earlier call
    obtain ⟨low, consistent⟩ := exists_consistent windowSize earlier
    exact consistent.restarts_iff (congestion_after windowSize earlier)
      (synchronized_after windowSize earlier) call
  simp only [step]

/-- Two messages, an acknowledgement of the first that closes the window, and
the update that reopens it: the acknowledged numbers are those of transmitted
segments, and the second message stays in the buffer with no timer running. -/
theorem windowUpdate_stalls :
    let run := after maxRwnd
      [.enqueueData [1] 7 0, .enqueueData [2] 8 0, .onAckReceived 1 0 1]
    run.transmitted = 1 ∧ run.sender.base = 1 ∧
      ¬ run.Restarts (.onAckReceived 1 64 2) ∧
      ∀ currentTime, ((run.next
        (.onAckReceived 1 64 2)).sender.checkTimeouts currentTime).2 = [] := by
  intro run
  have stalled : Stalled (run.next (.onAckReceived 1 64 2)).sender := by
    decide +kernel
  have base : (run.next (.onAckReceived 1 64 2)).sender.base = 1 := by
    decide +kernel
  refine ⟨by decide +kernel, by decide +kernel, ?_, ?_⟩
  · intro restarts
    exact restarts 1 64 2 rfl base (by decide) stalled
  · intro currentTime
    have absent := (Dict.size_eq_zero_iff _).mp stalled.2
      (run.next (.onAckReceived 1 64 2)).sender.base
    rw [checkTimeouts, (Dict.get?_eq_none_iff _ _).mpr absent]

end Run

end RUDPSender

end RudpAgentStack

import RudpAgentStack.Rudp.SenderRuns

/-!
# What one call of a sender does

Every public call of a sender either runs `_try_send` on a state in which
nothing new is in flight, or transmits nothing for the first time and at most
retransmits the segment at `base`.  Whatever is later said about the records
and transmissions of a run is a case analysis over these two.
-/

namespace RudpAgentStack

open Foundation

/-- The record of a segment after it was transmitted once more. -/
def UnackedPacket.retransmitted
    (packetInfo : UnackedPacket) (currentTime : ℚ) : UnackedPacket :=
  { packetInfo with isRetransmitted := true, sentTime := currentTime }

namespace RUDPSender

/-- The time a call is given. -/
def Call.time : Call → ℚ
  | .enqueueData _ _ currentTime => currentTime
  | .onAckReceived _ _ currentTime => currentTime
  | .checkTimeouts currentTime => currentTime

/-- One public call. -/
def perform (sender : RUDPSender) : Call → RUDPSender × List RUDPPacket
  | .enqueueData data msgId currentTime =>
      sender.enqueueData data msgId currentTime
  | .onAckReceived ackNum rwnd currentTime =>
      sender.onAckReceived ackNum rwnd currentTime
  | .checkTimeouts currentTime => sender.checkTimeouts currentTime

@[simp] theorem Run.sender_next (run : Run) (call : Call) :
    (run.next call).sender = (run.sender.perform call).1 := by
  cases call <;> rfl

@[simp] theorem Run.handed_next (run : Run) (call : Call) :
    (run.next call).handed = run.handed ++ (run.sender.perform call).2 := by
  cases call <;> rfl

/-- The sender on which a call runs `_try_send`, if it gets there. -/
def beforeTrySend (sender : RUDPSender) : Call → Option RUDPSender
  | .enqueueData data msgId _ =>
      let packets := messagePackets msgId sender.nextSeq 0 (slices mss data)
      some { sender with
        sendBuffer := sender.sendBuffer ++ packets
        nextSeq := sender.nextSeq + packets.length }
  | .onAckReceived ackNum rwnd currentTime =>
      let sender : RUDPSender := { sender with peerRwnd := rwnd }
      if sender.base < ackNum then some (sender.afterNewAck ackNum currentTime)
      else if ackNum = sender.lastAckReceived ∧ ackNum = sender.base then
        let sender : RUDPSender :=
          { sender with dupAckCount := sender.dupAckCount + 1 }
        if sender.dupAckCount = 3 ∧ sender.ccState ≠ .fastRecovery then none
        else if 3 < sender.dupAckCount ∧ sender.ccState = .fastRecovery then
          some { sender with cwnd := sender.cwnd + mss }
        else none
      else none
  | .checkTimeouts _ => none

section

variable {sender ready : RUDPSender} {call : Call}

/-- A call that gets to `_try_send` ends with it. -/
theorem perform_of_beforeTrySend
    (reached : sender.beforeTrySend call = some ready) :
    sender.perform call = ready.trySend call.time := by
  cases call with
  | enqueueData data msgId currentTime =>
      obtain rfl := Option.some.inj reached
      rfl
  | onAckReceived ackNum rwnd currentTime =>
      simp only [beforeTrySend] at reached
      simp only [perform, onAckReceived, Call.time]
      split at reached
      · next newer =>
          obtain rfl := Option.some.inj reached
          rw [if_pos newer, onNewAck_eq]
      · next older =>
          rw [if_neg older]
          split at reached
          · next duplicate =>
              rw [if_pos duplicate, onDuplicateAck]
              simp only
              split at reached
              · exact absurd reached (by simp)
              · next notThird =>
                  rw [if_neg notThird]
                  split at reached
                  · next inflates =>
                      obtain rfl := Option.some.inj reached
                      rw [if_pos inflates]
                  · exact absurd reached (by simp)
          · exact absurd reached (by simp)
  | checkTimeouts currentTime => exact absurd reached (by simp [beforeTrySend])

/-- What a call that does not get to `_try_send` leaves alone, and the one
segment it may retransmit. -/
structure Retransmits
    (sender after : RUDPSender) (handed : List RUDPPacket)
    (currentTime : ℚ) : Prop where
  base : after.base = sender.base
  nextSeq : after.nextSeq = sender.nextSeq
  sendBuffer : after.sendBuffer = sender.sendBuffer
  rtt : after.rtt = sender.rtt
  inFlight :
    (handed = [] ∧ after.unackedPackets = sender.unackedPackets) ∨
      ∃ packetInfo, sender.unackedPackets.get? sender.base = some packetInfo ∧
        handed = [packetInfo.packet] ∧
        after.unackedPackets = sender.unackedPackets.set sender.base
          (packetInfo.retransmitted currentTime)

/-- Nothing is retransmitted. -/
theorem Retransmits.nothing (sender : RUDPSender) (currentTime : ℚ) :
    Retransmits sender sender [] currentTime where
  base := rfl
  nextSeq := rfl
  sendBuffer := rfl
  rtt := rfl
  inFlight := .inl ⟨rfl, rfl⟩

theorem retransmits_fastRetransmit (sender : RUDPSender) (currentTime : ℚ) :
    Retransmits sender (sender.fastRetransmit currentTime).1
      (sender.fastRetransmit currentTime).2 currentTime := by
  unfold fastRetransmit
  split
  · exact .nothing sender currentTime
  · next packetInfo found =>
      exact ⟨rfl, rfl, rfl, rfl, .inr ⟨packetInfo, found, rfl, rfl⟩⟩

theorem retransmits_checkTimeouts (sender : RUDPSender) (currentTime : ℚ) :
    Retransmits sender (sender.checkTimeouts currentTime).1
      (sender.checkTimeouts currentTime).2 currentTime := by
  unfold checkTimeouts
  split
  · exact .nothing sender currentTime
  · next oldestInfo found =>
      split
      · exact ⟨rfl, rfl, rfl, rfl, .inr ⟨oldestInfo, found, rfl, rfl⟩⟩
      · exact .nothing sender currentTime

/-- A call that does not get to `_try_send` retransmits at most the segment at
`base`. -/
theorem retransmits_of_beforeTrySend
    (missed : sender.beforeTrySend call = none) :
    Retransmits sender (sender.perform call).1 (sender.perform call).2
      call.time := by
  cases call with
  | enqueueData data msgId currentTime =>
      exact absurd missed (by simp [beforeTrySend])
  | onAckReceived ackNum rwnd currentTime =>
      simp only [beforeTrySend] at missed
      simp only [perform, onAckReceived, Call.time]
      split at missed
      · exact absurd missed (by simp)
      · next older =>
          rw [if_neg older]
          split at missed
          · next duplicate =>
              rw [if_pos duplicate, onDuplicateAck]
              simp only
              split at missed
              · next third =>
                  rw [if_pos third]
                  obtain ⟨base, nextSeq, sendBuffer, rtt, inFlight⟩ :=
                    retransmits_fastRetransmit (enterFastRecovery
                      { sender with
                        peerRwnd := rwnd
                        dupAckCount := sender.dupAckCount + 1 }) currentTime
                  exact ⟨base, nextSeq, sendBuffer, rtt, inFlight⟩
              · next notThird =>
                  rw [if_neg notThird]
                  split at missed
                  · exact absurd missed (by simp)
                  · next counted =>
                      rw [if_neg counted]
                      exact ⟨rfl, rfl, rfl, rfl, .inl ⟨rfl, rfl⟩⟩
          · next stale =>
              rw [if_neg stale]
              exact ⟨rfl, rfl, rfl, rfl, .inl ⟨rfl, rfl⟩⟩
  | checkTimeouts currentTime =>
      exact retransmits_checkTimeouts sender currentTime

/-- The state on which `_try_send` runs has no records of its own. -/
theorem get?_of_beforeTrySend
    (reached : sender.beforeTrySend call = some ready)
    {seq : Int} {packetInfo : UnackedPacket}
    (found : ready.unackedPackets.get? seq = some packetInfo) :
    sender.unackedPackets.get? seq = some packetInfo := by
  cases call with
  | enqueueData data msgId currentTime =>
      obtain rfl := Option.some.inj reached
      exact found
  | onAckReceived ackNum rwnd currentTime =>
      simp only [beforeTrySend] at reached
      split at reached
      · obtain rfl := Option.some.inj reached
        obtain ⟨_, _, _, _, equal⟩ := afterNewAck_frame
          { sender with peerRwnd := rwnd } ackNum currentTime
        rw [equal] at found
        simp only [removeAcked, Dict.get?_filter,
          Option.filter_eq_some_iff] at found
        exact found.1
      · split at reached
        · split at reached
          · exact absurd reached (by simp)
          · split at reached
            · obtain rfl := Option.some.inj reached
              exact found
            · exact absurd reached (by simp)
        · exact absurd reached (by simp)
  | checkTimeouts currentTime => exact absurd reached (by simp [beforeTrySend])

end

namespace Run

variable {run : Run} {low : Int} {ready : RUDPSender} {call : Call}

/-- The state on which `_try_send` runs has the window that the call leaves,
as far as its lower end goes. -/
theorem Consistent.beforeTrySend (consistent : run.Consistent low)
    (reached : run.sender.beforeTrySend call = some ready) :
    Window ready (run.next call).messages (run.lowAfter low call) ∧
      ready.nextUnsent = run.sender.nextUnsent := by
  cases call with
  | enqueueData data msgId currentTime =>
      obtain rfl := Option.some.inj reached
      refine ⟨consistent.window.enqueue data msgId, ?_⟩
      simp only [nextUnsent, List.length_append]
      push_cast
      ring
  | onAckReceived ackNum rwnd currentTime =>
      have advertised : Window { run.sender with peerRwnd := rwnd }
          run.messages low := consistent.window.congr rfl rfl rfl rfl
      simp only [lowAfter, lowAfterAck]
      simp only [beforeTrySend] at reached
      split at reached
      · next newer =>
          obtain rfl := Option.some.inj reached
          rw [if_pos newer]
          exact ⟨advertised.afterNewAck ackNum currentTime,
            afterNewAck_nextUnsent _ ackNum currentTime⟩
      · next older =>
          rw [if_neg older]
          split at reached
          · split at reached
            · exact absurd reached (by simp)
            · split at reached
              · obtain rfl := Option.some.inj reached
                exact ⟨advertised.congr rfl rfl rfl rfl, rfl⟩
              · exact absurd reached (by simp)
          · exact absurd reached (by simp)
  | checkTimeouts currentTime => exact absurd reached (by simp [beforeTrySend])

end Run

end RUDPSender

end RudpAgentStack

import RudpAgentStack.Foundation.Machine
import RudpAgentStack.Rudp.SenderOperations

/-!
# Runs of a sender under arbitrary acknowledgements

A run is any sequence of public calls on one sender.  The transports pass every
datagram with a valid checksum and the ACK flag on to `on_ack_received`, so the
acknowledged numbers are arbitrary here.  An acknowledgement beyond the
segments transmitted so far moves `base` past the window for good; without such
an acknowledgement `base` stays the smallest key of the unacked map.
-/

namespace RudpAgentStack

open Foundation

namespace RUDPSender

/-- The public calls on a sender. -/
inductive Call
  | enqueueData (data : Bytes) (msgId : Int) (currentTime : ℚ)
  | onAckReceived (ackNum rwnd : Int) (currentTime : ℚ)
  | checkTimeouts (currentTime : ℚ)
  deriving DecidableEq

/-- A sender with the history of its run: the messages it was given and the
packets it handed to `send_callback(packet.pack())`. -/
structure Run where
  sender : RUDPSender
  messages : List (Bytes × Int)
  handed : List RUDPPacket

namespace Run

/-- Record what a call returns. -/
def record
    (run : Run) (messages : List (Bytes × Int))
    (result : RUDPSender × List RUDPPacket) : Run where
  sender := result.1
  messages := messages
  handed := run.handed ++ result.2

/-- One call. -/
def next (run : Run) : Call → Run
  | .enqueueData data msgId currentTime =>
      run.record (run.messages ++ [(data, msgId)])
        (run.sender.enqueueData data msgId currentTime)
  | .onAckReceived ackNum rwnd currentTime =>
      run.record run.messages
        (run.sender.onAckReceived ackNum rwnd currentTime)
  | .checkTimeouts currentTime =>
      run.record run.messages (run.sender.checkTimeouts currentTime)

/-- Runs of a new sender under arbitrary calls. -/
def machine (windowSize : Int) : Machine Run Call where
  start := { sender := new windowSize, messages := [], handed := [] }
  Enabled := fun _ _ => True
  next := next

/-- The state after a list of calls on a new sender. -/
def after (windowSize : Int) (calls : List Call) : Run :=
  (machine windowSize).exec (machine windowSize).start calls

/-- Number of distinct segments transmitted so far. -/
def transmitted (run : Run) : Nat :=
  (run.handed.map RUDPPacket.seqNum).toFinset.card

/-- The history agrees with the window: the segments handed over are exactly
those below the upper end of the window. -/
structure Consistent (run : Run) (low : Int) : Prop where
  window : Window run.sender run.messages low
  segment : ∀ packet ∈ run.handed, 0 ≤ packet.seqNum ∧
    packet.seqNum < run.sender.nextUnsent ∧
    (stream run.messages)[packet.seqNum.toNat]? = some packet
  complete : ∀ seq, 0 ≤ seq → seq < run.sender.nextUnsent →
    ∃ packet ∈ run.handed, packet.seqNum = seq

/-- The segments transmitted are those below the upper end of the window. -/
theorem Consistent.transmitted_eq
    {run : Run} {low : Int} (consistent : run.Consistent low) :
    (run.transmitted : Int) = run.sender.nextUnsent := by
  have nonneg := consistent.window.nextUnsent_nonneg
  have exactly : (run.handed.map RUDPPacket.seqNum).toFinset =
      Finset.Ico 0 run.sender.nextUnsent := by
    ext seq
    simp only [List.mem_toFinset, List.mem_map, Finset.mem_Ico]
    constructor
    · rintro ⟨packet, member, rfl⟩
      obtain ⟨lower, upper, _⟩ := consistent.segment packet member
      exact ⟨lower, upper⟩
    · rintro ⟨lower, upper⟩
      obtain ⟨packet, member, equal⟩ := consistent.complete seq lower upper
      exact ⟨packet, member, equal⟩
  rw [transmitted, exactly, Int.card_Ico]
  omega

/-- Recording a handover keeps the history consistent. -/
theorem Consistent.record
    {run : Run} {low low' : Int} (consistent : run.Consistent low)
    {messages : List (Bytes × Int)}
    {result : RUDPSender × List RUDPPacket}
    (grown : stream run.messages <+: stream messages)
    (window : Window result.1 messages low')
    (handover : Handover messages run.sender result.1 result.2) :
    (run.record messages result).Consistent low' where
  window := window
  segment := by
    intro packet member
    have mono := handover.mono
    rcases List.mem_append.mp member with earlier | now
    · obtain ⟨lower, upper, inStream⟩ := consistent.segment packet earlier
      refine ⟨lower, upper.trans_le mono, ?_⟩
      obtain ⟨rest, extended⟩ := grown
      rw [Run.record, ← extended, List.getElem?_append_left]
      · exact inStream
      · exact (List.getElem?_eq_some_iff.mp inStream).1
    · exact handover.segment packet now
  complete := by
    intro seq lower upper
    by_cases earlier : seq < run.sender.nextUnsent
    · obtain ⟨packet, member, equal⟩ := consistent.complete seq lower earlier
      exact ⟨packet, List.mem_append_left _ member, equal⟩
    · obtain ⟨packet, member, equal⟩ :=
        handover.complete seq (not_lt.mp earlier) upper
      exact ⟨packet, List.mem_append_right _ member, equal⟩

/-- What was handed over stays on record. -/
theorem handed_subset_next (run : Run) (call : Call) :
    run.handed ⊆ (run.next call).handed := by
  cases call <;> exact List.subset_append_left _ _

/-- The lower end of the window after a call. -/
def lowAfter (run : Run) (low : Int) : Call → Int
  | .enqueueData _ _ _ => low
  | .onAckReceived ackNum _ _ => run.sender.lowAfterAck low ackNum
  | .checkTimeouts _ => low

/-- Step lemma: every call keeps the history consistent. -/
theorem Consistent.next
    {run : Run} {low : Int} (consistent : run.Consistent low) (call : Call) :
    (run.next call).Consistent (run.lowAfter low call) := by
  cases call with
  | enqueueData data msgId currentTime =>
      obtain ⟨window, handover⟩ :=
        consistent.window.enqueueData data msgId currentTime
      refine consistent.record ?_ window handover
      rw [stream_append_singleton]
      exact List.prefix_append _ _
  | onAckReceived ackNum rwnd currentTime =>
      obtain ⟨window, handover⟩ :=
        consistent.window.onAckReceived ackNum rwnd currentTime
      exact consistent.record List.prefix_rfl window handover
  | checkTimeouts currentTime =>
      obtain ⟨window, handover⟩ :=
        consistent.window.checkTimeouts currentTime
      exact consistent.record List.prefix_rfl window handover

theorem consistent_start (windowSize : Int) :
    ((machine windowSize).start).Consistent 0 where
  window := window_new windowSize
  segment := by simp [machine]
  complete := by
    intro seq lower upper
    simp only [machine, nextUnsent, new, List.length_nil] at upper
    omega

@[simp] theorem after_nil (windowSize : Int) :
    after windowSize [] = (machine windowSize).start := rfl

@[simp] theorem after_append_singleton
    (windowSize : Int) (calls : List Call) (call : Call) :
    after windowSize (calls ++ [call]) =
      (after windowSize calls).next call := by
  simp [after, machine]

/-- Run lemma: after any calls the history is consistent for some window. -/
theorem exists_consistent (windowSize : Int) (calls : List Call) :
    ∃ low, (after windowSize calls).Consistent low := by
  induction calls using List.reverseRecOn with
  | nil => exact ⟨0, consistent_start windowSize⟩
  | append_singleton calls call inductionHypothesis =>
      obtain ⟨low, consistent⟩ := inductionHypothesis
      rw [after_append_singleton]
      exact ⟨_, consistent.next call⟩

/-! ## Acknowledgements beyond the transmitted segments -/

/-- What the comment in `check_timeouts` asserts, with the bound on `base`:
`base` is at most the number of transmitted segments, and it is the smallest
key whenever something is unacknowledged. -/
structure BaseIsOldest (run : Run) : Prop where
  le_transmitted : run.sender.base ≤ run.transmitted
  smallest : ∀ seq, seq ∈ run.sender.unackedPackets →
    run.sender.base ∈ run.sender.unackedPackets ∧ run.sender.base ≤ seq

/-- A call that does not acknowledge more than was transmitted. -/
def AcksTransmitted (run : Run) : Call → Prop
  | .onAckReceived ackNum _ _ => ackNum ≤ run.transmitted
  | _ => True

theorem Consistent.baseIsOldest
    {run : Run} (consistent : run.Consistent run.sender.base) :
    run.BaseIsOldest where
  le_transmitted := by
    rw [consistent.transmitted_eq]
    exact consistent.window.low_le
  smallest := by
    intro seq member
    have inside := (consistent.window.mem_unacked seq).mp member
    refine ⟨(consistent.window.mem_unacked _).mpr ⟨le_rfl, ?_⟩, inside.1⟩
    omega

/-- A window that starts at `base` starts at `base` again after a call that
acknowledges only transmitted segments. -/
theorem Consistent.next_of_acksTransmitted
    {run : Run} (consistent : run.Consistent run.sender.base)
    {call : Call} (acks : run.AcksTransmitted call) :
    (run.next call).Consistent (run.next call).sender.base := by
  have stepped := consistent.next call
  cases call with
  | enqueueData data msgId currentTime =>
      simpa [Run.next, Run.record, lowAfter] using stepped
  | checkTimeouts currentTime =>
      simpa [Run.next, Run.record, lowAfter] using stepped
  | onAckReceived ackNum rwnd currentTime =>
      simp only [AcksTransmitted, consistent.transmitted_eq] at acks
      have low : run.lowAfter run.sender.base
            (.onAckReceived ackNum rwnd currentTime) =
          (run.next (.onAckReceived ackNum rwnd currentTime)).sender.base := by
        simp only [lowAfter, lowAfterAck, Run.next, Run.record,
          onAckReceived_base]
        split <;> omega
      exact low ▸ stepped

/-- An acknowledgement beyond the transmitted segments leaves `base` either
above the number of transmitted segments or above a segment in flight. -/
theorem Consistent.acksTransmitted_of_next
    {run : Run} {low : Int} (consistent : run.Consistent low)
    (oldest : run.BaseIsOldest)
    {call : Call} (oldestNext : (run.next call).BaseIsOldest) :
    run.AcksTransmitted call := by
  cases call with
  | enqueueData data msgId currentTime => trivial
  | checkTimeouts currentTime => trivial
  | onAckReceived ackNum rwnd currentTime =>
      by_contra beyond
      simp only [AcksTransmitted, consistent.transmitted_eq, not_le] at beyond
      have baseBound := oldest.le_transmitted
      rw [consistent.transmitted_eq] at baseBound
      have lowBound := consistent.window.low_le
      have stepped := consistent.next (.onAckReceived ackNum rwnd currentTime)
      have low' : run.lowAfter low (.onAckReceived ackNum rwnd currentTime) =
          run.sender.nextUnsent := by
        simp only [lowAfter, lowAfterAck]
        rw [if_pos (by omega)]
        omega
      rw [low'] at stepped
      have base' : (run.next
          (.onAckReceived ackNum rwnd currentTime)).sender.base = ackNum := by
        simp only [Run.next, Run.record, onAckReceived_base]
        omega
      have upper := oldestNext.le_transmitted
      rw [stepped.transmitted_eq, base'] at upper
      -- The next unsent segment has been transmitted by now, below `base`.
      have inFlight : run.sender.nextUnsent ∈
          (run.next (.onAckReceived ackNum rwnd
            currentTime)).sender.unackedPackets := by
        rw [stepped.window.mem_unacked]
        omega
      have smallest := (oldestNext.smallest _ inFlight).2
      omega

/-- In a run of a sender, `base` stays the oldest unacknowledged segment in
every state reached exactly when no acknowledgement exceeds the number of
segments transmitted before it. -/
theorem baseIsOldest_iff_acksTransmitted
    (windowSize : Int) (calls : List Call) :
    (∀ earlier, earlier <+: calls →
        (after windowSize earlier).BaseIsOldest) ↔
      ∀ earlier call, earlier ++ [call] <+: calls →
        (after windowSize earlier).AcksTransmitted call := by
  constructor
  · intro oldest earlier call isPrefix
    obtain ⟨low, consistent⟩ := exists_consistent windowSize earlier
    have oldestNext := oldest _ isPrefix
    rw [after_append_singleton] at oldestNext
    exact consistent.acksTransmitted_of_next
      (oldest earlier ((List.prefix_append _ _).trans isPrefix)) oldestNext
  · intro acks
    have consistent : ∀ earlier, earlier <+: calls →
        (after windowSize earlier).Consistent
          (after windowSize earlier).sender.base := by
      intro earlier
      induction earlier using List.reverseRecOn with
      | nil => exact fun _ => consistent_start windowSize
      | append_singleton earlier call inductionHypothesis =>
          intro isPrefix
          rw [after_append_singleton]
          exact (inductionHypothesis
            ((List.prefix_append _ _).trans isPrefix)).next_of_acksTransmitted
              (acks earlier call isPrefix)
    exact fun earlier isPrefix => (consistent earlier isPrefix).baseIsOldest

/-- A forged acknowledgement of segment 1000 followed by a message: the segment
in flight lies below `base`, and no later tick retransmits it. -/
theorem forgedAck_strands_segment :
    let run := after maxRwnd
      [.onAckReceived 1000 64 0, .enqueueData [1] 7 0]
    ¬ run.BaseIsOldest ∧ (0 : Int) ∈ run.sender.unackedPackets ∧
      ∀ currentTime, (run.sender.checkTimeouts currentTime).2 = [] := by
  intro run
  have base : run.sender.base = 1000 := by decide +kernel
  have inFlight : (0 : Int) ∈ run.sender.unackedPackets := by decide +kernel
  have missing : run.sender.unackedPackets.get? run.sender.base = none := by
    rw [base]
    decide +kernel
  refine ⟨?_, inFlight, ?_⟩
  · intro oldest
    have smallest := (oldest.smallest 0 inFlight).2
    omega
  · intro currentTime
    simp [checkTimeouts, missing]

end Run

end RUDPSender

end RudpAgentStack

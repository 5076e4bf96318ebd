import RudpAgentStack.Rudp.Link
import RudpAgentStack.Rudp.ZeroWindow

/-!
# Fast Recovery without a loss

The third duplicate acknowledgement in a row enters Fast Recovery whether or not
anything is in flight.  On a link the acknowledgement of the last segment may be
duplicated, or a copy of an old segment acknowledged again, after everything was
acknowledged; then the threshold is halved and nothing is repaired.  As long as
no such third duplicate arrives, Fast Recovery always repairs the segment at
`base`, and duplicates that find nothing in flight change nothing.
-/

namespace RudpAgentStack

open Foundation

namespace RUDPSender

variable {sender : RUDPSender}

/-! ## How Fast Recovery is entered and left -/

/-- A new acknowledgement ends Fast Recovery. -/
theorem ccState_onNewAck (sender : RUDPSender)
    (ackNum : Int) (currentTime : ℚ) :
    (sender.onNewAck ackNum currentTime).1.ccState ≠ .fastRecovery := by
  rw [onNewAck_eq, trySend_ccState, afterNewAck, growCwnd]
  split
  · simp only
    split <;> simp
  · next avoiding => simp [avoiding]
  · simp

@[simp] theorem fastRetransmit_ccState
    (sender : RUDPSender) (currentTime : ℚ) :
    (sender.fastRetransmit currentTime).1.ccState = sender.ccState := by
  unfold fastRetransmit
  split <;> rfl

/-- The sender on which a third duplicate acknowledgement runs Fast
Retransmit. -/
def afterThirdDuplicate (sender : RUDPSender) (rwnd : Int) : RUDPSender :=
  enterFastRecovery { sender with
    peerRwnd := rwnd
    dupAckCount := sender.dupAckCount + 1 }

/-- Only a third duplicate acknowledgement enters Fast Recovery. -/
theorem third_of_enters {call : Call}
    (outside : sender.ccState ≠ .fastRecovery)
    (entered : (sender.perform call).1.ccState = .fastRecovery) :
    ∃ rwnd currentTime,
      call = .onAckReceived sender.base rwnd currentTime ∧
      sender.dupAckCount = 2 ∧
      sender.perform call =
        (sender.afterThirdDuplicate rwnd).fastRetransmit currentTime := by
  cases call with
  | enqueueData data msgId currentTime =>
      simp only [perform, enqueueData, trySend_ccState] at entered
      exact absurd entered outside
  | onAckReceived ackNum rwnd currentTime =>
      simp only [perform, onAckReceived] at entered ⊢
      split at entered
      · exact absurd entered (ccState_onNewAck _ ackNum currentTime)
      · next older =>
          rw [if_neg older]
          split at entered
          · next duplicate =>
              rw [if_pos duplicate]
              simp only [onDuplicateAck] at entered ⊢
              split at entered
              · next third =>
                  rw [if_pos third]
                  exact ⟨rwnd, currentTime, by rw [duplicate.2],
                    by omega, rfl⟩
              · split at entered
                · next inflates => exact absurd inflates.2 outside
                · exact absurd entered outside
          · exact absurd entered outside
  | checkTimeouts currentTime =>
      simp only [perform, checkTimeouts] at entered
      split at entered
      · exact absurd entered outside
      · split at entered
        · exact absurd entered (by simp)
        · exact absurd entered outside

/-- A third duplicate acknowledgement outside Fast Recovery enters it. -/
theorem perform_third (outside : sender.ccState ≠ .fastRecovery)
    (synchronized : Synchronized sender) (counted : sender.dupAckCount = 2)
    (rwnd : Int) (currentTime : ℚ) :
    sender.perform (.onAckReceived sender.base rwnd currentTime) =
      (sender.afterThirdDuplicate rwnd).fastRetransmit currentTime := by
  simp only [perform, onAckReceived, lt_irrefl, if_false]
  rw [if_pos ⟨synchronized.symm, trivial⟩, onDuplicateAck]
  simp only
  rw [if_pos ⟨by omega, outside⟩]
  rfl

/-- `_try_send` takes nothing out of the unacked map. -/
theorem size_le_trySend (sender : RUDPSender) (currentTime : ℚ) :
    sender.unackedPackets.size ≤
      (sender.trySend currentTime).1.unackedPackets.size := by
  refine trySend_rule
    (fun after _ => sender.unackedPackets.size ≤ after.unackedPackets.size)
    (fun _ _ _ kept => kept) ?_ le_rfl
  intro after _ packet rest kept _ _
  simp only [transmit]
  by_cases present : packet.seqNum ∈ after.unackedPackets
  · rw [Dict.size_set_of_mem present]
    exact kept
  · rw [Dict.size_set_of_not_mem present]
    omega

/-- Fast Recovery goes with a segment in flight. -/
def Repairing (sender : RUDPSender) : Prop :=
  sender.ccState = .fastRecovery → sender.unackedPackets.size ≠ 0

namespace Repairing

theorem trySend (repairing : Repairing sender) (currentTime : ℚ) :
    Repairing (sender.trySend currentTime).1 := by
  intro recovering
  rw [trySend_ccState] at recovering
  have inFlight := repairing recovering
  have kept := sender.size_le_trySend currentTime
  omega

theorem fastRetransmit (repairing : Repairing sender) (currentTime : ℚ) :
    Repairing (sender.fastRetransmit currentTime).1 := by
  unfold RUDPSender.fastRetransmit
  split
  · exact repairing
  · next packetInfo found =>
      intro recovering
      simp only at recovering ⊢
      rw [Dict.size_set_of_mem (Dict.mem_of_get? found)]
      exact repairing recovering

end Repairing

namespace Run

/-! ## Calls -/

/-- A call that enters Fast Recovery finds segment `base` outstanding and
retransmits it and nothing else. -/
def RepairsOnEntry (run : Run) (call : Call) : Prop :=
  run.sender.ccState ≠ .fastRecovery →
  (run.next call).sender.ccState = .fastRecovery →
  run.sender.base ∈ run.sender.unackedPackets ∧
    ∃ packet, packet.seqNum = run.sender.base ∧
      (run.next call).handed = run.handed ++ [packet]

/-- A duplicate acknowledgement that finds nothing outstanding leaves the
congestion control as it is. -/
def IgnoresIdleDuplicate (run : Run) (call : Call) : Prop :=
  ∀ rwnd currentTime,
    call = .onAckReceived run.sender.base rwnd currentTime →
    run.sender.unackedPackets.size = 0 →
    (run.next call).sender.ccState = run.sender.ccState ∧
      (run.next call).sender.cwnd = run.sender.cwnd ∧
      (run.next call).sender.ssthresh = run.sender.ssthresh

/-- The call is not a third duplicate acknowledgement that finds nothing
outstanding. -/
def NoIdleThird (run : Run) (call : Call) : Prop :=
  ∀ rwnd currentTime,
    call = .onAckReceived run.sender.base rwnd currentTime →
    run.sender.unackedPackets.size = 0 →
    run.sender.dupAckCount ≠ 2

variable {run : Run} {call : Call}

/-- Entering Fast Recovery with something in flight repairs segment `base`. -/
theorem repairsOnEntry (consistent : run.Consistent run.sender.base)
    (noThird : run.NoIdleThird call) : run.RepairsOnEntry call := by
  intro outside entered
  rw [sender_next] at entered
  obtain ⟨rwnd, currentTime, rfl, counted, performed⟩ :=
    third_of_enters outside entered
  have inFlight : run.sender.unackedPackets.size ≠ 0 :=
    fun idle => noThird rwnd currentTime rfl idle counted
  have window := consistent.window
  have size := window.size
  have present : run.sender.base ∈ run.sender.unackedPackets :=
    (window.mem_unacked _).mpr ⟨le_rfl, by omega⟩
  obtain ⟨packetInfo, found⟩ := (Dict.mem_iff_exists_get? _ _).mp present
  refine ⟨present, packetInfo.packet, ?_, ?_⟩
  · have nonneg := window.low_nonneg
    rw [seqNum_stream (window.packet _ _ found)]
    omega
  · have found' : (run.sender.afterThirdDuplicate rwnd).unackedPackets.get?
        (run.sender.afterThirdDuplicate rwnd).base = some packetInfo := found
    rw [handed_next, performed, fastRetransmit, found']

/-- Outside Fast Recovery, and before the third, duplicates are only
counted. -/
theorem ignoresIdleDuplicate (repairing : Repairing run.sender)
    (noThird : run.NoIdleThird call) : run.IgnoresIdleDuplicate call := by
  rintro rwnd currentTime rfl idle
  have counted := noThird rwnd currentTime rfl idle
  have outside : run.sender.ccState ≠ .fastRecovery :=
    fun recovering => repairing recovering idle
  simp only [sender_next, perform, onAckReceived, lt_irrefl, if_false]
  split
  · simp only [onDuplicateAck]
    rw [if_neg (by omega), if_neg (fun inflates => outside inflates.2)]
    exact ⟨rfl, rfl, rfl⟩
  · exact ⟨rfl, rfl, rfl⟩

/-- A third duplicate that finds nothing outstanding enters Fast Recovery
without repairing anything. -/
theorem noIdleThird (congestion : Congestion run.sender)
    (synchronized : Synchronized run.sender)
    (repairs : run.RepairsOnEntry call) : run.NoIdleThird call := by
  rintro rwnd currentTime rfl idle counted
  have outside : run.sender.ccState ≠ .fastRecovery := by
    intro recovering
    have := (congestion.fastRecovery recovering).2
    omega
  have entered : (run.next (.onAckReceived run.sender.base rwnd
      currentTime)).sender.ccState = .fastRecovery := by
    rw [sender_next, perform_third outside synchronized counted,
      fastRetransmit_ccState]
    rfl
  have present := (repairs outside entered).1
  exact (Dict.size_eq_zero_iff _).mp idle _ present

/-- Step lemma: without an idle third duplicate, Fast Recovery goes on having
something in flight. -/
theorem repairing_next (repairing : Repairing run.sender)
    (noThird : run.NoIdleThird call) :
    Repairing (run.next call).sender := by
  rw [sender_next]
  cases call with
  | enqueueData data msgId currentTime =>
      exact Repairing.trySend (by exact repairing) currentTime
  | onAckReceived ackNum rwnd currentTime =>
      simp only [perform, onAckReceived]
      split
      · intro recovering
        exact absurd recovering (ccState_onNewAck _ ackNum currentTime)
      · split
        · next duplicate =>
            simp only [onDuplicateAck]
            split
            · next third =>
                apply Repairing.fastRetransmit
                intro _ idle
                exact noThird rwnd currentTime (by rw [duplicate.2]) idle
                  (by omega)
            · split
              · exact Repairing.trySend (by exact repairing) currentTime
              · exact repairing
        · exact repairing
  | checkTimeouts currentTime =>
      simp only [perform, checkTimeouts]
      split
      · exact repairing
      · split
        · intro recovering
          exact absurd recovering (by simp)
        · exact repairing

end Run

end RUDPSender

/-! ## Links -/

namespace Link

open RUDPSender (Repairing Congestion Synchronized)

/-- The call of the sender in a step of a link. -/
def Action.senderCall : Action → Option RUDPSender.Call
  | .enqueueData data msgId currentTime =>
      some (.enqueueData data msgId currentTime)
  | .deliverSegment _ => none
  | .deliverAck datagram currentTime =>
      match RUDPPacket.unpack datagram with
      | .error _ => none
      | .ok ack => some (.onAckReceived ack.ackNum ack.rwnd currentTime)
  | .checkTimeouts currentTime => some (.checkTimeouts currentTime)

/-- A step of a link is a step of its sender or leaves the sender alone. -/
theorem sending_next (link : Link) (action : Action) :
    (machine.next link action).sending =
      match action.senderCall with
      | none => link.sending
      | some call => link.sending.next call := by
  cases action with
  | enqueueData data msgId currentTime => rfl
  | deliverSegment datagram =>
      simp only [machine, next, Action.senderCall]
      split <;> rfl
  | deliverAck datagram currentTime =>
      simp only [machine, next, Action.senderCall]
      cases RUDPPacket.unpack datagram <;> rfl
  | checkTimeouts currentTime => rfl

/-- What a reachable link knows of its sender's congestion control. -/
theorem congestion_of_reachable {link : Link}
    (reachable : machine.Reachable link) :
    Congestion link.sending.sender ∧ Synchronized link.sending.sender := by
  refine Machine.Reachable.invariant
    (fun link => Congestion link.sending.sender ∧
      Synchronized link.sending.sender)
    ?_ ?_ reachable
  · exact ⟨RUDPSender.congestion_new maxRwnd, rfl⟩
  rintro link action _ ⟨congestion, synchronized⟩ _
  rw [sending_next]
  split
  · exact ⟨congestion, synchronized⟩
  · next call _ =>
      rw [RUDPSender.Run.sender_next]
      exact ⟨congestion.perform call, synchronized.perform call⟩

/-- A condition on the sender's calls holds at every step of a list of
actions. -/
def AtEveryCall
    (Condition : RUDPSender.Run → RUDPSender.Call → Prop)
    (actions : List Action) : Prop :=
  ∀ earlier action call, earlier ++ [action] <+: actions →
    action.senderCall = some call →
    Condition (machine.exec machine.start earlier).sending call

/-- One message and its acknowledgement, of which the network delivers four
copies. -/
def lastAckDuplicated : List Action :=
  let ack := Action.deliverAck [0, 0, 0, 0, 0, 0, 0, 1, 2, 0, 64, 189, 254] 0
  [.enqueueData [1] 7 0,
    .deliverSegment
      [0, 0, 0, 0, 0, 0, 0, 0, 4, 0, 0, 244, 254, 0, 0, 0, 7, 0, 0, 0, 0, 1],
    ack, ack, ack, ack]

/-- The fourth copy enters Fast Recovery with nothing in flight: the window
opens from two segments to five and nothing is retransmitted. -/
theorem idleThird_enters :
    machine.Admits machine.start lastAckDuplicated ∧
      ¬ AtEveryCall (fun run call =>
        run.RepairsOnEntry call ∧ run.IgnoresIdleDuplicate call)
        lastAckDuplicated := by
  refine ⟨by decide +kernel, fun repairs => ?_⟩
  have third := repairs (lastAckDuplicated.take 5)
    (.deliverAck [0, 0, 0, 0, 0, 0, 0, 1, 2, 0, 64, 189, 254] 0)
    (.onAckReceived 1 64 0) List.prefix_rfl (by decide +kernel)
  have base : (machine.exec machine.start
      (lastAckDuplicated.take 5)).sending.sender.base = 1 := by
    decide +kernel
  have unchanged := third.2 64 0 (by rw [base]) (by decide +kernel)
  exact absurd unchanged.1 (by decide +kernel)

/-- Without an idle third duplicate, Fast Recovery has something in flight. -/
theorem repairing_of_noIdleThird {actions : List Action}
    (noThird : AtEveryCall RUDPSender.Run.NoIdleThird actions) :
    Repairing (machine.exec machine.start actions).sending.sender := by
  induction actions using List.reverseRecOn with
  | nil =>
      intro recovering
      simp [Machine.exec, machine, RUDPSender.Run.machine, RUDPSender.new]
        at recovering
  | append_singleton actions action inductionHypothesis =>
      have repairing := inductionHypothesis
        fun earlier action call isPrefix =>
          noThird earlier action call
            (isPrefix.trans (List.prefix_append _ _))
      rw [Machine.exec_append_singleton, sending_next]
      split
      · exact repairing
      · next call called =>
          exact RUDPSender.Run.repairing_next repairing
            (noThird actions action call List.prefix_rfl called)

/-- In every run of a link, Fast Recovery is entered only with segment `base`
outstanding, retransmitting exactly that segment, and duplicate
acknowledgements that find nothing outstanding leave the congestion control
alone, exactly when no third duplicate acknowledgement in a row finds nothing
outstanding. -/
theorem fastRecovery_repairs_iff {actions : List Action}
    (admitted : machine.Admits machine.start actions) :
    AtEveryCall (fun run call =>
        run.RepairsOnEntry call ∧ run.IgnoresIdleDuplicate call) actions ↔
      AtEveryCall RUDPSender.Run.NoIdleThird actions := by
  have reachable : ∀ earlier, earlier <+: actions →
      machine.Reachable (machine.exec machine.start earlier) := by
    rintro earlier ⟨later, rfl⟩
    exact .exec .start (machine.admits_of_append admitted)
  constructor
  · intro repairs earlier action call isPrefix called
    obtain ⟨congestion, synchronized⟩ := congestion_of_reachable
      (reachable earlier ((List.prefix_append _ _).trans isPrefix))
    exact RUDPSender.Run.noIdleThird congestion synchronized
      (repairs earlier action call isPrefix called).1
  · intro noThird earlier action call isPrefix called
    have before := (List.prefix_append _ _).trans isPrefix
    have agrees := agrees_of_reachable (reachable earlier before)
    have noEarlierThird : AtEveryCall RUDPSender.Run.NoIdleThird earlier :=
      fun first action call isPrefix =>
        noThird first action call (isPrefix.trans before)
    have repairing := repairing_of_noIdleThird noEarlierThird
    have condition := noThird earlier action call isPrefix called
    exact ⟨RUDPSender.Run.repairsOnEntry agrees.consistent condition,
      RUDPSender.Run.ignoresIdleDuplicate repairing condition⟩

theorem fastRecovery_repairs_iff_lastAckDuplicated :
    AtEveryCall (fun run call =>
        run.RepairsOnEntry call ∧ run.IgnoresIdleDuplicate call)
        lastAckDuplicated ↔
      AtEveryCall RUDPSender.Run.NoIdleThird lastAckDuplicated :=
  fastRecovery_repairs_iff (by decide +kernel)

end Link

end RudpAgentStack

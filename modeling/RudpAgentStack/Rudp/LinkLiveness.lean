import RudpAgentStack.Foundation.FairRuns
import RudpAgentStack.Rudp.FastRecovery
import RudpAgentStack.Rudp.RoundTripTime
import RudpAgentStack.Rudp.SequenceSpace
import Mathlib.Data.Finite.Prod
import Mathlib.Algebra.Order.Archimedean.Basic
import Mathlib.Order.Interval.Set.Infinite

/-!
# Liveness of a link over a fair lossy network

The network may lose, repeat, delay and reorder packets, but a packet that is
handed to it infinitely often comes out infinitely often, and the sender looks
at its timer again and again with a clock that grows without bound.  Then
everything enqueued is delivered and acknowledged after some time: while the
oldest segment is unacknowledged the timer keeps handing it over, the receiver
keeps acknowledging it, and one of these acknowledgements moves `base`.
-/

namespace RudpAgentStack

open Foundation Filter

namespace RUDPSender

variable {sender : RUDPSender} {call : Call} {messages : List (Bytes × Int)}
  {low : Int}

/-- A record is there before a call, or the call hands its segment over. -/
theorem Window.get?_perform (window : Window sender messages low)
    {seq : Int} {packetInfo : UnackedPacket}
    (found : (sender.perform call).1.unackedPackets.get? seq =
      some packetInfo) :
    sender.unackedPackets.get? seq = some packetInfo ∨
      seq ∈ (sender.perform call).2.map RUDPPacket.seqNum := by
  cases reached : sender.beforeTrySend call with
  | some ready =>
      rw [perform_of_beforeTrySend reached] at found ⊢
      rcases get?_trySend ready call.time _ _ found with
        ⟨handed, _⟩ | ⟨_, old⟩
      · exact .inr handed
      · exact .inl (get?_of_beforeTrySend reached old)
  | none =>
      rcases (retransmits_of_beforeTrySend reached).inFlight with
        ⟨_, same⟩ | ⟨retransmitted, stored, handed, records⟩
      · exact .inl (same ▸ found)
      · rw [records, Dict.get?_set] at found
        split at found
        · next isBase =>
            have inStream := window.packet _ _ stored
            have lower := window.low_nonneg
            have inside := (window.mem_unacked _).mp (Dict.mem_of_get? stored)
            have seqNum := seqNum_stream inStream
            right
            rw [handed, List.map_singleton, List.mem_singleton, isBase]
            omega
        · exact .inl found

/-- No call moves `base` down. -/
theorem base_le_perform (sender : RUDPSender) (call : Call) :
    sender.base ≤ (sender.perform call).1.base := by
  cases call with
  | enqueueData data msgId currentTime => simp [perform]
  | onAckReceived ackNum rwnd currentTime => simp [perform, onAckReceived_base]
  | checkTimeouts currentTime => simp [perform]

end RUDPSender

namespace Link

/-! ## What no step undoes -/

/-- The histories are only added to and `base` only moves up. -/
structure Grows (before after : Link) : Prop where
  messages : before.sending.messages <+: after.sending.messages
  handed : before.sending.handed <+: after.sending.handed
  acks : before.acks <+: after.acks
  delivered : before.receiving.delivered <+: after.receiving.delivered
  base : before.sending.sender.base ≤ after.sending.sender.base

theorem Grows.refl (link : Link) : Grows link link where
  messages := List.prefix_rfl
  handed := List.prefix_rfl
  acks := List.prefix_rfl
  delivered := List.prefix_rfl
  base := le_rfl

theorem Grows.trans {first second third : Link}
    (earlier : Grows first second) (later : Grows second third) :
    Grows first third where
  messages := earlier.messages.trans later.messages
  handed := earlier.handed.trans later.handed
  acks := earlier.acks.trans later.acks
  delivered := earlier.delivered.trans later.delivered
  base := earlier.base.trans later.base

theorem grows_call (link : Link) (call : RUDPSender.Call) :
    Grows link (link.call call) where
  messages := by
    cases call with
    | enqueueData data msgId currentTime => exact List.prefix_append _ _
    | onAckReceived ackNum rwnd currentTime => exact List.prefix_rfl
    | checkTimeouts currentTime => exact List.prefix_rfl
  handed := by
    rw [Link.call, RUDPSender.Run.handed_next]
    exact List.prefix_append _ _
  acks := List.prefix_rfl
  delivered := List.prefix_rfl
  base := by
    rw [Link.call, RUDPSender.Run.sender_next]
    exact link.sending.sender.base_le_perform call

theorem grows_receiveSegment (link : Link) (segment : RUDPPacket) :
    Grows link (link.receiveSegment segment) where
  messages := List.prefix_rfl
  handed := List.prefix_rfl
  acks := List.prefix_append _ _
  delivered := List.prefix_append _ _
  base := le_rfl

/-- Step lemma: a link only grows. -/
theorem grows_next (link : Link) (action : Action) :
    Grows link (machine.next link action) := by
  cases action with
  | enqueueData data msgId currentTime => exact link.grows_call _
  | deliverSegment datagram =>
      simp only [machine, next]
      split
      · exact .refl link
      · exact link.grows_receiveSegment _
  | deliverAck datagram currentTime =>
      simp only [machine, next]
      split
      · exact .refl link
      · exact link.grows_call _
  | checkTimeouts currentTime => exact link.grows_call _

/-- The timeout of a reachable link is within its bounds. -/
theorem timing_of_reachable {link : Link}
    (reachable : machine.Reachable link) :
    link.sending.sender.timing.Bounded := by
  refine Machine.Reachable.invariant
    (fun link => link.sending.sender.timing.Bounded) ?_ ?_ reachable
  · exact RUDPSender.Run.bounded_after maxRwnd []
  · intro link action _ bounded _
    rw [sending_next]
    split
    · exact bounded
    · next call _ =>
        rw [RUDPSender.Run.sender_next]
        exact RUDPSender.bounded_perform bounded call

/-! ## Fair runs -/

section Fairness

variable (run : machine.InfiniteRun)

/-- The sender hands a segment to the network. -/
def SegmentHanded (packet : RUDPPacket) (time : ℕ) : Prop :=
  ∃ more, (run.state (time + 1)).sending.handed =
    (run.state time).sending.handed ++ more ∧ packet ∈ more

/-- A datagram of a segment arrives at the receiver. -/
def SegmentDelivered (packet : RUDPPacket) (time : ℕ) : Prop :=
  ∃ datagram, packet.pack = .ok datagram ∧
    run.action time = some (.deliverSegment datagram)

/-- The receiver hands an acknowledgement to the network. -/
def AckHanded (ack : RUDPPacket) (time : ℕ) : Prop :=
  ∃ more, (run.state (time + 1)).acks = (run.state time).acks ++ more ∧
    ack ∈ more

/-- A datagram of an acknowledgement arrives at the sender. -/
def AckDelivered (ack : RUDPPacket) (time : ℕ) : Prop :=
  ∃ datagram currentTime, ack.pack = .ok datagram ∧
    run.action time = some (.deliverAck datagram currentTime)

/-- The network is fair in both directions, and the timer is looked at
infinitely often with a clock that grows without bound. -/
structure Fair : Prop where
  segments : FairLossy (SegmentHanded run) (SegmentDelivered run)
  acks : FairLossy (AckHanded run) (AckDelivered run)
  timers : ∀ bound, ∃ᶠ time in atTop, ∃ now, bound ≤ now ∧
    run.action time = some (.checkTimeouts now)

/-- All messages ever enqueued have fewer than `2 ^ 32` segments together and
fit the reassembly fields. -/
structure Numbered : Prop where
  inRange : ∀ time, (run.state time).InRange
  nextSeq : ∀ time, (run.state time).sending.sender.nextSeq < 2 ^ 32

end Fairness

/-- The acknowledgements a receiver can build above a number. -/
def possibleAcks (seq : Int) : Set RUDPPacket :=
  {ack | ∃ ackNum rwnd : Int,
    (seq < ackNum ∧ ackNum < 2 ^ 32) ∧ (1 ≤ rwnd ∧ rwnd ≤ maxRwnd) ∧
    ack = { seqNum := 0, ackNum := ackNum, flags := flagAck, rwnd := rwnd }}

theorem finite_possibleAcks (seq : Int) : (possibleAcks seq).Finite := by
  have numbers : (Set.Ioo seq (2 ^ 32) ×ˢ
      Set.Icc (1 : Int) maxRwnd).Finite :=
    (Set.finite_Ioo _ _).prod (Set.finite_Icc _ _)
  apply (numbers.image fun fields : Int × Int =>
    ({ seqNum := 0, ackNum := fields.1, flags := flagAck, rwnd := fields.2 } :
      RUDPPacket)).subset
  rintro ack ⟨ackNum, rwnd, inside, possible, rfl⟩
  exact ⟨(ackNum, rwnd), ⟨inside, possible⟩, rfl⟩

theorem mem_possibleAcks {result : ReceiverResult} {seq : Int}
    (flags : result.flags = flagAck)
    (above : seq < result.ackNum) (below : result.ackNum < 2 ^ 32)
    (rwnd : 1 ≤ result.rwnd ∧ result.rwnd ≤ maxRwnd) :
    result.ackPacket ∈ possibleAcks seq :=
  ⟨result.ackNum, result.rwnd, ⟨above, below⟩, rwnd, by
    rw [ReceiverResult.ackPacket, flags]⟩

theorem lt_of_mem_possibleAcks {ack : RUDPPacket} {seq : Int}
    (possible : ack ∈ possibleAcks seq) : seq < ack.ackNum := by
  obtain ⟨ackNum, rwnd, inside, _, rfl⟩ := possible
  exact inside.1

section Progress

variable {run : machine.InfiniteRun} {start : ℕ}

/-- Run lemma: a link only grows. -/
theorem grows (run : machine.InfiniteRun) {time later : ℕ}
    (after : time ≤ later) : Grows (run.state time) (run.state later) :=
  run.related Grows.refl (fun _ _ _ => Grows.trans) grows_next after

theorem nextSeq_mono (run : machine.InfiniteRun) {time later : ℕ}
    (after : time ≤ later) :
    (run.state time).sending.sender.nextSeq ≤
      (run.state later).sending.sender.nextSeq := by
  have agrees := agrees_of_reachable (run.reachable time)
  have agreesLater := agrees_of_reachable (run.reachable later)
  rw [agrees.consistent.window.nextSeq, agreesLater.consistent.window.nextSeq]
  exact_mod_cast (RUDPSender.stream_prefix_stream
    (grows run after).messages).length_le

/-- A segment handed over is on record from then on. -/
theorem mem_handed_of_segmentHanded {packet : RUDPPacket} {first time : ℕ}
    (handed : SegmentHanded run packet first) (after : first < time) :
    packet ∈ (run.state time).sending.handed := by
  obtain ⟨more, added, member⟩ := handed
  apply (grows run after).handed.subset
  rw [added]
  exact List.mem_append_right _ member

/-- An acknowledgement handed over is on record from then on. -/
theorem mem_acks_of_ackHanded {ack : RUDPPacket} {first time : ℕ}
    (handed : AckHanded run ack first) (after : first < time) :
    ack ∈ (run.state time).acks := by
  obtain ⟨more, added, member⟩ := handed
  apply (grows run after).acks.subset
  rw [added]
  exact List.mem_append_right _ member

/-- At `base` the sender keeps one and the same segment while `base` stands
still. -/
theorem exists_oldest_segment
    (pending : (run.state start).sending.sender.base <
      (run.state start).sending.sender.nextSeq)
    (still : ∀ time, start ≤ time → (run.state time).sending.sender.base =
      (run.state start).sending.sender.base) :
    ∃ packet, packet.seqNum = (run.state start).sending.sender.base ∧
      ∀ time, start ≤ time →
        (RUDPSender.stream (run.state time).sending.messages)[
          (run.state start).sending.sender.base.toNat]? = some packet ∧
        ∃ oldestInfo,
          (run.state time).sending.sender.unackedPackets.get?
            (run.state time).sending.sender.base = some oldestInfo ∧
          oldestInfo.packet = packet := by
  obtain ⟨first, _, seqNum, inStream⟩ :=
    (agrees_of_reachable (run.reachable start)).exists_oldest pending
  refine ⟨first.packet, seqNum, fun time after => ?_⟩
  have extended : (RUDPSender.stream (run.state time).sending.messages)[
      (run.state start).sending.sender.base.toNat]? = some first.packet := by
    obtain ⟨rest, same⟩ :=
      RUDPSender.stream_prefix_stream (grows run after).messages
    rw [← same, List.getElem?_append_left]
    · exact inStream
    · exact (List.getElem?_eq_some_iff.mp inStream).1
  have pendingLater : (run.state time).sending.sender.base <
      (run.state time).sending.sender.nextSeq := by
    rw [still time after]
    exact pending.trans_le (nextSeq_mono run after)
  obtain ⟨oldestInfo, found, _, inStreamLater⟩ :=
    (agrees_of_reachable (run.reachable time)).exists_oldest pendingLater
  rw [still time after, extended] at inStreamLater
  exact ⟨extended, oldestInfo, found, (Option.some.inj inStreamLater).symm⟩

/-- What a call hands over is handed to the network. -/
theorem segmentHanded_of_call {time : ℕ} {action : Action}
    {call : RUDPSender.Call} {packet : RUDPPacket}
    (taken : run.action time = some action)
    (calls : action.senderCall = some call)
    (handed : packet ∈
      ((run.state time).sending.sender.perform call).2) :
    SegmentHanded run packet time := by
  refine ⟨_, ?_, handed⟩
  rw [run.next, taken, Machine.advance, sending_next, calls]
  exact RUDPSender.Run.handed_next _ call

/-- Unless the oldest segment is handed over, its record stays the same. -/
theorem oldest_kept {packet : RUDPPacket} {time : ℕ}
    (reached : (run.state (time + 1)).sending.sender.base =
      (run.state time).sending.sender.base)
    (inStream : (RUDPSender.stream (run.state (time + 1)).sending.messages)[
      (run.state time).sending.sender.base.toNat]? = some packet)
    (quiet : ¬ SegmentHanded run packet time)
    {oldestInfo : UnackedPacket}
    (found : (run.state (time + 1)).sending.sender.unackedPackets.get?
      (run.state (time + 1)).sending.sender.base = some oldestInfo) :
    (run.state time).sending.sender.unackedPackets.get?
      (run.state time).sending.sender.base = some oldestInfo := by
  have agrees := agrees_of_reachable (run.reachable time)
  have agreesNext := agrees_of_reachable (run.reachable (time + 1))
  rw [reached] at found
  cases taken : run.action time with
  | none =>
      rw [run.next, taken] at found
      exact found
  | some action =>
      have sending : (run.state (time + 1)).sending =
          (machine.next (run.state time) action).sending := by
        rw [run.next, taken, Machine.advance]
      rw [sending_next] at sending
      cases calls : action.senderCall with
      | none =>
          rw [calls] at sending
          rwa [sending] at found
      | some call =>
          rw [calls] at sending
          simp only at sending
          rw [sending, RUDPSender.Run.sender_next] at found
          rcases agrees.consistent.window.get?_perform found with
            old | handed
          · exact old
          · obtain ⟨again, member, seqNum⟩ := List.mem_map.mp handed
            -- The packet handed over is the segment of the stream.
            have listed : again ∈ (run.state (time + 1)).sending.handed := by
              rw [sending, RUDPSender.Run.handed_next]
              exact List.mem_append_right _ member
            have same := (agreesNext.consistent.segment again listed).2.2
            rw [seqNum, inStream] at same
            obtain rfl := Option.some.inj same
            exact absurd (segmentHanded_of_call taken calls member) quiet

/-- While `base` stands still below an enqueued segment, that segment is
handed over infinitely often. -/
theorem frequently_segmentHanded (fair : Fair run)
    (pending : (run.state start).sending.sender.base <
      (run.state start).sending.sender.nextSeq)
    (still : ∀ time, start ≤ time → (run.state time).sending.sender.base =
      (run.state start).sending.sender.base) :
    ∃ packet, packet.seqNum = (run.state start).sending.sender.base ∧
      ∃ᶠ time in atTop, SegmentHanded run packet time := by
  obtain ⟨packet, seqNum, oldest⟩ := exists_oldest_segment pending still
  refine ⟨packet, seqNum, ?_⟩
  -- The stamp of the timer is the time on record for the oldest segment.
  have stamped : ∀ time, ∃ stamp, start ≤ time → ∃ oldestInfo,
      (run.state time).sending.sender.unackedPackets.get?
        (run.state time).sending.sender.base = some oldestInfo ∧
      oldestInfo.packet = packet ∧ oldestInfo.sentTime = stamp := by
    intro time
    by_cases after : start ≤ time
    · obtain ⟨_, oldestInfo, found, same⟩ := oldest time after
      exact ⟨oldestInfo.sentTime, fun _ => ⟨oldestInfo, found, same, rfl⟩⟩
    · exact ⟨0, fun before => absurd before after⟩
  choose stamp record using stamped
  have fires := @frequently_of_timer stamp 4 (SegmentHanded run packet)
    (fun time now => run.action time = some (.checkTimeouts now)) start
  apply fires
  · intro time after quiet
    obtain ⟨nextInfo, found, _, nextStamp⟩ :=
      record (time + 1) (after.trans (Nat.le_succ time))
    obtain ⟨oldestInfo, stored, _, oldStamp⟩ := record time after
    have reached : (run.state (time + 1)).sending.sender.base =
        (run.state time).sending.sender.base := by
      rw [still _ (after.trans (Nat.le_succ time)), still time after]
    have inStream := (oldest (time + 1) (after.trans (Nat.le_succ time))).1
    rw [← still time after] at inStream
    have kept := oldest_kept reached inStream quiet found
    rw [stored] at kept
    rw [← nextStamp, ← oldStamp, Option.some.inj kept]
  · intro time now after looked expired
    obtain ⟨oldestInfo, found, same, stampIs⟩ := record time after
    have bounded := timing_of_reachable (run.reachable time)
    have limit : (run.state time).sending.sender.rto ≤ 4 := by
      have upper := bounded.upper
      rwa [bounded.maxRto] at upper
    have waited : (run.state time).sending.sender.rto ≤
        now - oldestInfo.sentTime := by
      rw [stampIs]
      linarith
    have handed := RUDPSender.checkTimeouts_handed found waited
    have calls : (Action.checkTimeouts now).senderCall =
        some (.checkTimeouts now) := rfl
    apply segmentHanded_of_call looked calls
    rw [RUDPSender.perform, handed, same]
    exact List.mem_singleton_self packet
  · exact fair.timers

/-- What arrives at the receiver below the expected number is acknowledged
with a number above it. -/
theorem ackHanded_of_segmentDelivered {packet : RUDPPacket} {time : ℕ}
    (numbered : Numbered run)
    (handed : packet ∈ (run.state time).sending.handed)
    (reached : packet.seqNum ≤
      (run.state time).receiving.receiver.expectedSeq)
    (delivered : SegmentDelivered run packet time) :
    ∃ ack ∈ possibleAcks packet.seqNum, AckHanded run ack time := by
  obtain ⟨datagram, packed, taken⟩ := delivered
  have agrees := agrees_of_reachable (run.reachable time)
  have agreesNext := agrees_of_reachable (run.reachable (time + 1))
  have shape := (RUDPSender.isEnqueued_of_mem_stream
    (agrees.mem_stream handed)).hasWireShape
  obtain ⟨checksum, _, read⟩ := RUDPPacket.unpack_of_pack shape packed
  have stepped : run.state (time + 1) =
      (run.state time).receiveSegment (packet.withChecksum checksum) := by
    rw [run.next, taken]
    simp only [Machine.advance, machine, next, read]
  have moved : packet.seqNum <
      (run.state (time + 1)).receiving.receiver.expectedSeq := by
    rw [stepped]
    rcases reached.eq_or_lt with expected | earlier
    · rw [expected]
      have sameNumber : (packet.withChecksum checksum).seqNum =
          (run.state time).receiving.receiver.expectedSeq := expected
      exact agrees.settled.expectedSeq_lt_next sameNumber
    · exact earlier.trans_le (agrees.settled.expectedSeq_le_next _)
  have bound : (run.state (time + 1)).receiving.receiver.expectedSeq <
      2 ^ 32 := by
    have taken := agreesNext.expectedSeq_le
    have window := agreesNext.consistent.window
    have upper := window.nextSeq ▸ window.nextUnsent_le
    exact taken.trans_lt (upper.trans_lt (numbered.nextSeq (time + 1)))
  obtain ⟨ackNum, _, flags⟩ :=
    (run.state time).receiving.receiver.processSegment_ack
      (packet.withChecksum checksum)
  obtain ⟨_, rwnd⟩ := agrees.settled.advertised (packet.withChecksum checksum)
  refine ⟨_, ?_, [_], by rw [stepped]; rfl, List.mem_singleton_self _⟩
  have expected : (run.state (time + 1)).receiving.receiver.expectedSeq =
      ((run.state time).receiving.receiver.processSegment
        (packet.withChecksum checksum)).ackNum := by
    rw [ackNum, stepped]
    rfl
  rw [expected] at moved bound
  exact mem_possibleAcks flags moved bound rwnd

/-- An acknowledgement above `base` moves `base` when it arrives. -/
theorem base_lt_of_ackDelivered {ack : RUDPPacket} {time : ℕ}
    (inFlight : ack ∈ (run.state time).acks)
    (above : (run.state time).sending.sender.base < ack.ackNum)
    (delivered : AckDelivered run ack time) :
    (run.state time).sending.sender.base <
      (run.state (time + 1)).sending.sender.base := by
  obtain ⟨datagram, currentTime, packed, taken⟩ := delivered
  have agrees := agrees_of_reachable (run.reachable time)
  obtain ⟨checksum, _, read⟩ := RUDPPacket.unpack_of_pack
    (.inr (agrees.acks ack inFlight).ackOnly) packed
  have base : (run.state (time + 1)).sending.sender.base =
      max (run.state time).sending.sender.base ack.ackNum := by
    rw [run.next, taken]
    simp only [Machine.advance, machine, next, read]
    exact RUDPSender.onAckReceived_base _ ack.ackNum ack.rwnd currentTime
  rw [base]
  exact above.trans_le (le_max_right _ _)

/-- While an enqueued segment is unacknowledged, `base` moves after some
time. -/
theorem exists_base_lt (fair : Fair run) (numbered : Numbered run)
    (pending : (run.state start).sending.sender.base <
      (run.state start).sending.sender.nextSeq) :
    ∃ later, start ≤ later ∧ (run.state start).sending.sender.base <
      (run.state later).sending.sender.base := by
  by_contra stuck
  have still : ∀ time, start ≤ time → (run.state time).sending.sender.base =
      (run.state start).sending.sender.base := by
    intro time after
    refine le_antisymm ?_ (grows run after).base
    by_contra moved
    exact stuck ⟨time, after, not_le.mp moved⟩
  -- The oldest segment goes out, and some of it comes through, forever.
  obtain ⟨packet, seqNum, handed⟩ :=
    frequently_segmentHanded fair pending still
  have delivered := fair.segments packet handed
  have acked : ∃ᶠ time in atTop,
      ∃ ack ∈ possibleAcks packet.seqNum, AckHanded run ack time := by
    obtain ⟨first, _, sent⟩ := frequently_atTop.mp handed start
    refine (delivered.and_eventually
      (eventually_ge_atTop (max start (first + 1)))).mono ?_
    rintro time ⟨arrived, after⟩
    have listed :=
      mem_handed_of_segmentHanded sent ((le_max_right _ _).trans after)
    apply ackHanded_of_segmentDelivered numbered listed ?_ arrived
    rw [seqNum, ← still time ((le_max_left _ _).trans after)]
    exact (agrees_of_reachable (run.reachable time)).base_le
  -- One acknowledgement comes through after it was built.
  obtain ⟨ack, possible, sent⟩ :=
    exists_frequently_of_finite (finite_possibleAcks _) acked
  obtain ⟨first, _, built⟩ := frequently_atTop.mp sent start
  obtain ⟨time, after, arrived⟩ :=
    frequently_atTop.mp (fair.acks ack sent) (max start (first + 1))
  have afterTime := (le_max_left _ _).trans after
  have listed := mem_acks_of_ackHanded built ((le_max_right _ _).trans after)
  have above : (run.state time).sending.sender.base < ack.ackNum := by
    rw [still time afterTime, ← seqNum]
    exact lt_of_mem_possibleAcks possible
  have moved := base_lt_of_ackDelivered listed above arrived
  rw [still time afterTime, still (time + 1) (by omega)] at moved
  exact lt_irrefl _ moved

/-- After some time all that is enqueued now has been acknowledged. -/
theorem eventually_acknowledged (fair : Fair run) (numbered : Numbered run)
    (time : ℕ) :
    ∀ᶠ later in atTop, time ≤ later ∧
      (run.state time).sending.sender.nextSeq ≤
        (run.state later).sending.sender.base := by
  obtain ⟨done, after, reached⟩ := @exists_le_of_grows
    (fun later => (run.state later).sending.sender.base)
    (run.state time).sending.sender.nextSeq time (by
      intro later after below
      exact exists_base_lt fair numbered
        (below.trans_le (nextSeq_mono run after)))
  filter_upwards [eventually_ge_atTop done] with later afterDone
  exact ⟨after.trans afterDone, reached.trans (grows run afterDone).base⟩

/-- What has been acknowledged has been delivered. -/
theorem delivered_of_acknowledged {time later : ℕ} (after : time ≤ later)
    (acknowledged : (run.state time).sending.sender.nextSeq ≤
      (run.state later).sending.sender.base) :
    (run.state time).sending.messages.map Prod.fst <+:
      (run.state later).receiving.delivered := by
  have agrees := agrees_of_reachable (run.reachable time)
  have agreesLater := agrees_of_reachable (run.reachable later)
  apply agreesLater.prefix_delivered (grows run after).messages
  rw [← agrees.consistent.window.nextSeq]
  exact acknowledged.trans agreesLater.base_le

end Progress

/-! ## Quiet links -/

/-- A link with nothing left to do for its sender. -/
structure Quiet (link : Link) : Prop where
  delivered : link.receiving.delivered = link.sending.messages.map Prod.fst
  unacked : ∀ seq, seq ∉ link.sending.sender.unackedPackets
  sendBuffer : link.sending.sender.sendBuffer = []

/-- Once everything enqueued is acknowledged a link is quiet. -/
theorem Agrees.quiet {link : Link}
    (agrees : Agrees link.sending link.receiving link.acks)
    (acknowledged : link.sending.sender.nextSeq ≤ link.sending.sender.base) :
    Quiet link where
  delivered := by
    have taken := agrees.base_le
    have delivered := agrees.prefix_delivered List.prefix_rfl (by
      rw [← agrees.consistent.window.nextSeq]
      omega)
    exact (delivered.eq_of_length_le
      agrees.delivered_prefix_messages.length_le).symm
  unacked := by
    intro seq
    have window := agrees.consistent.window
    have upper := window.nextSeq ▸ window.nextUnsent_le
    rw [window.mem_unacked]
    omega
  sendBuffer := by
    have window := agrees.consistent.window
    have lower := window.low_le
    rw [window.sendBuffer, List.drop_eq_nil_iff]
    have nextSeq := window.nextSeq
    omega

/-- With everything acknowledged no call but `enqueue_data` hands anything
over. -/
theorem Agrees.handed_eq_nil {link : Link}
    (agrees : Agrees link.sending link.receiving link.acks)
    (acknowledged : link.sending.sender.nextSeq ≤ link.sending.sender.base)
    {call : RUDPSender.Call}
    (consistentNext : (link.sending.next call).Consistent
      (link.sending.next call).sender.base)
    (same : (link.sending.next call).messages = link.sending.messages) :
    (link.sending.sender.perform call).2 = [] := by
  rw [List.eq_nil_iff_forall_not_mem]
  intro packet handed
  have window := agrees.consistent.window
  have windowNext := consistentNext.window
  have listed : packet ∈ (link.sending.next call).handed := by
    rw [RUDPSender.Run.handed_next]
    exact List.mem_append_right _ handed
  have upper := (consistentNext.segment packet listed).2.1
  have below := windowNext.nextSeq ▸ windowNext.nextUnsent_le
  rw [windowNext.nextSeq, same, ← window.nextSeq] at below
  rw [← RUDPSender.map_packet_transmissions] at handed
  obtain ⟨transmission, member, samePacket⟩ := List.mem_map.mp handed
  have lower := agrees.consistent.lowAfter_le_transmissions call
    transmission member
  have moved := link.sending.le_lowAfter link.sending.sender.base call
  rw [samePacket] at lower
  omega

/-! ## Main results -/

/-- Eventual delivery.  In every fair run what has been enqueued at any time
is delivered in order and acknowledged after some time, for good. -/
theorem eventually_delivered (run : machine.InfiniteRun)
    (fair : Fair run) (numbered : Numbered run) (time : ℕ) :
    ∀ᶠ later in atTop,
      (run.state time).sending.messages.map Prod.fst <+:
        (run.state later).receiving.delivered ∧
      (run.state time).sending.sender.nextSeq ≤
        (run.state later).sending.sender.base := by
  filter_upwards [eventually_acknowledged fair numbered time]
    with later ⟨after, acknowledged⟩
  exact ⟨delivered_of_acknowledged after acknowledged, acknowledged⟩

namespace Sample

/-- One message whose first datagram is lost: the timer sends it again, it
arrives, and so does its acknowledgement.  From then on only the timer is
looked at. -/
def lostOnce : ℕ → Option Action
  | 0 => some (.enqueueData [1] 7 0)
  | 1 => some (.checkTimeouts 5)
  | 2 => some (.deliverSegment
      [0, 0, 0, 0, 0, 0, 0, 0, 4, 0, 0, 244, 254, 0, 0, 0, 7, 0, 0, 0, 0, 1])
  | 3 => some (.deliverAck [0, 0, 0, 0, 0, 0, 0, 1, 2, 0, 64, 189, 254] 6)
  | time + 4 => some (.checkTimeouts time)

theorem lostOnce_enabled (time : ℕ) (action : Action)
    (taken : lostOnce time = some action) :
    machine.Enabled
      (Machine.InfiniteRun.states machine machine.start lostOnce time)
      action := by
  match time, taken with
  | 0, taken =>
      rw [← Option.some.inj taken]
      trivial
  | 1, taken =>
      rw [← Option.some.inj taken]
      trivial
  | 2, taken =>
      rw [← Option.some.inj taken]
      decide +kernel
  | 3, taken =>
      rw [← Option.some.inj taken]
      decide +kernel
  | time + 4, taken =>
      rw [← Option.some.inj taken]
      trivial

/-- The run of these actions. -/
def lostOnceRun : machine.InfiniteRun :=
  .ofActions .start lostOnce lostOnce_enabled

theorem lostOnceRun_idle (time : ℕ) :
    lostOnceRun.state (time + 4) = lostOnceRun.state 4 := by
  induction time with
  | zero => rfl
  | succ time inductionHypothesis =>
      have unacked : (lostOnceRun.state 4).sending.sender.unackedPackets.get?
          (lostOnceRun.state 4).sending.sender.base = none := by
        decide +kernel
      have stepped := lostOnceRun.next (time + 4)
      rw [inductionHypothesis] at stepped
      rw [Nat.add_right_comm, stepped]
      change (lostOnceRun.state 4).call (.checkTimeouts time) = _
      simp only [call, RUDPSender.Run.next, RUDPSender.Run.record,
        RUDPSender.checkTimeouts, unacked, List.append_nil]

/-- Nothing is added to a history after the fourth action. -/
theorem lostOnceRun_rare {history : Link → List RUDPPacket}
    {packet : RUDPPacket} :
    ¬ ∃ᶠ time in atTop, ∃ more,
      history (lostOnceRun.state (time + 1)) =
        history (lostOnceRun.state time) ++ more ∧ packet ∈ more := by
  rw [not_frequently]
  filter_upwards [eventually_ge_atTop 4] with time after
  rintro ⟨more, added, member⟩
  obtain ⟨extra, rfl⟩ := Nat.exists_eq_add_of_le' after
  rw [Nat.add_right_comm, lostOnceRun_idle (extra + 1),
    lostOnceRun_idle extra, List.self_eq_append_right] at added
  rw [added] at member
  exact absurd member (by simp)

theorem lostOnceRun_fair : Fair lostOnceRun where
  segments := fun packet frequently => absurd frequently
    (@lostOnceRun_rare (fun link => link.sending.handed) packet)
  acks := fun ack frequently => absurd frequently
    (@lostOnceRun_rare Link.acks ack)
  timers := by
    intro bound
    rw [frequently_atTop]
    intro time
    obtain ⟨late, above⟩ := exists_nat_ge bound
    refine ⟨max time late + 4, by omega, ((max time late : ℕ) : ℚ), ?_, rfl⟩
    exact above.trans (by exact_mod_cast le_max_right _ _)

theorem lostOnceRun_numbered : Numbered lostOnceRun where
  inRange := by
    intro time message member
    have inRange : (lostOnceRun.state 4).InRange := by
      unfold InRange
      decide +kernel
    have grown := (grows lostOnceRun (Nat.le_add_right time 4)).messages
    rw [lostOnceRun_idle] at grown
    exact inRange message (grown.subset member)
  nextSeq := by
    intro time
    have grown := nextSeq_mono lostOnceRun (Nat.le_add_right time 4)
    rw [lostOnceRun_idle] at grown
    exact grown.trans_lt (by decide +kernel)

end Sample

open Sample in
/-- The message of the sample run is delivered although it was lost once. -/
theorem eventually_delivered_lostOnce :
    ∀ᶠ later in atTop,
      [[1]] <+: (lostOnceRun.state later).receiving.delivered ∧
      1 ≤ (lostOnceRun.state later).sending.sender.base := by
  have delivered := eventually_delivered lostOnceRun lostOnceRun_fair
    lostOnceRun_numbered 1
  have messages :
      (lostOnceRun.state 1).sending.messages.map Prod.fst = [[1]] := by
    decide +kernel
  have nextSeq : (lostOnceRun.state 1).sending.sender.nextSeq = 1 := by
    decide +kernel
  rwa [messages, nextSeq] at delivered

/-- Quiescence.  In every fair run in which nothing is enqueued any more, the
link is quiet after some time, and the sender hands nothing to the network
from then on. -/
theorem eventually_quiet (run : machine.InfiniteRun)
    (fair : Fair run) (numbered : Numbered run) (time : ℕ)
    (stopped : ∀ later, time ≤ later →
      (run.state later).sending.messages =
        (run.state time).sending.messages) :
    ∀ᶠ later in atTop, Quiet (run.state later) ∧
      (run.state (later + 1)).sending.handed =
        (run.state later).sending.handed := by
  filter_upwards [eventually_acknowledged fair numbered time]
    with later ⟨after, passed⟩
  have agrees := agrees_of_reachable (run.reachable later)
  have agreesNext := agrees_of_reachable (run.reachable (later + 1))
  have sameSeq : (run.state later).sending.sender.nextSeq =
      (run.state time).sending.sender.nextSeq := by
    have window := agrees.consistent.window
    have windowThen :=
      (agrees_of_reachable (run.reachable time)).consistent.window
    rw [window.nextSeq, stopped later after, ← windowThen.nextSeq]
  have acknowledged : (run.state later).sending.sender.nextSeq ≤
      (run.state later).sending.sender.base := by
    rw [sameSeq]
    exact passed
  refine ⟨agrees.quiet acknowledged, ?_⟩
  cases taken : run.action later with
  | none => rw [run.next, taken, Machine.advance]
  | some action =>
      have stepped : run.state (later + 1) =
          machine.next (run.state later) action := by
        rw [run.next, taken, Machine.advance]
      have sending := sending_next (run.state later) action
      rw [← stepped] at sending
      cases calls : action.senderCall with
      | none =>
          rw [calls] at sending
          rw [sending]
      | some call =>
          rw [calls] at sending
          simp only at sending
          have same : ((run.state later).sending.next call).messages =
              (run.state later).sending.messages := by
            rw [← sending, stopped _ (after.trans (Nat.le_succ later)),
              stopped later after]
          rw [sending, RUDPSender.Run.handed_next,
            agrees.handed_eq_nil acknowledged
              (sending ▸ agreesNext.consistent) same, List.append_nil]

open Sample in
theorem eventually_quiet_lostOnce :
    ∀ᶠ later in atTop, Quiet (lostOnceRun.state later) ∧
      (lostOnceRun.state (later + 1)).sending.handed =
        (lostOnceRun.state later).sending.handed := by
  apply eventually_quiet lostOnceRun lostOnceRun_fair lostOnceRun_numbered 4
  intro later after
  obtain ⟨extra, rfl⟩ := Nat.exists_eq_add_of_le' after
  rw [lostOnceRun_idle]

end Link

end RudpAgentStack

import RudpAgentStack.Foundation.Redelivery
import RudpAgentStack.Rudp.ReceiverWindow

/-!
# A delivery callback that raises

The receiver with a callback that may raise at any of its invocations.  The
payload is in the assembly buffer by then, and the buffer is cleared and the
expected number moved only afterwards; a segment of the drain loop has already
left the out-of-order buffer.  The transports catch the exception and go on, so
the segment is taken once more when it is retransmitted.
-/

namespace RudpAgentStack

open Foundation

namespace RUDPReceiver

/-- What a call leaves in which the callback raised. -/
structure DeliveryError where
  receiver : RUDPReceiver
  /-- The messages the callback took before. -/
  delivered : List Bytes
  /-- The segment that ended the message at which the callback raised. -/
  segment : RUDPPacket

/-- The callback raises at the message a segment ends. -/
def raiseAt (receiver : RUDPReceiver) (segment : RUDPPacket) :
    DeliveryError where
  receiver :=
    { receiver with
      assemblyBuffer := receiver.assemblyBuffer ++ segment.payload }
  delivered := []
  segment := segment

/-- The rest of a call after the callback has taken some messages. -/
def afterDelivering (delivered : List Bytes) :
    Except DeliveryError (RUDPReceiver × List Bytes) →
      Except DeliveryError (RUDPReceiver × List Bytes)
  | .error error => .error { error with delivered := delivered ++ error.delivered }
  | .ok result => .ok (result.1, delivered ++ result.2)

/-- The loop that drains contiguous buffered segments.  `raises` says which
invocations of the callback raise, counted from here on. -/
def drain? (raises : Nat → Bool) (receiver : RUDPReceiver) :
    Except DeliveryError (RUDPReceiver × List Bytes) :=
  match _found : receiver.oooBuffer.get? receiver.expectedSeq with
  | none => .ok (receiver, [])
  | some bufferedSegment =>
      if bufferedSegment.isFin && raises 0 then
        .error (receiver.popExpected.raiseAt bufferedSegment)
      else
        let taken := receiver.popExpected.takeInOrder bufferedSegment
        afterDelivering taken.2
          (drain? (fun invocation => raises (invocation + taken.2.length))
            taken.1)
termination_by receiver.oooBuffer.size
decreasing_by
  simp only [takeInOrder_oooBuffer, popExpected]
  exact Dict.size_del_lt (Dict.mem_of_get? _found)

/-- The part of `process_segment` before the acknowledgement is computed.  Only
the expected segment leads to the callback. -/
def receiveSegment? (raises : Nat → Bool)
    (receiver : RUDPReceiver) (segment : RUDPPacket) :
    Except DeliveryError (RUDPReceiver × List Bytes) :=
  if segment.seqNum = receiver.expectedSeq then
    if segment.isFin && raises 0 then .error (receiver.raiseAt segment)
    else
      let taken := receiver.takeInOrder segment
      afterDelivering taken.2
        (drain? (fun invocation => raises (invocation + taken.2.length))
          taken.1)
  else .ok (receiver.receiveSegment segment)

/-- `process_segment`.  After an exception there is no flow control and no
acknowledgement. -/
def processSegment? (raises : Nat → Bool)
    (receiver : RUDPReceiver) (segment : RUDPPacket) :
    Except DeliveryError ReceiverResult :=
  match receiver.receiveSegment? raises segment with
  | .error error => .error error
  | .ok received =>
      .ok
        { receiver := received.1.updateFlowControl
          delivered := received.2
          ackNum := received.1.expectedSeq
          rwnd := max 0 (maxRwnd - received.1.oooBuffer.size)
          flags := flagAck }

/-- A callback that never raises. -/
def silent : Nat → Bool := fun _ => false

theorem drain?_silent (receiver : RUDPReceiver) :
    drain? silent receiver = .ok receiver.drain := by
  induction receiver using drain.induct with
  | case1 receiver missing => rw [drain?, drain, missing]
  | case2 receiver bufferedSegment found inductionHypothesis =>
      rw [drain?, drain, found]
      simp only [silent, Bool.and_false, Bool.false_eq_true, if_false]
      change afterDelivering _ (drain? silent _) = _
      rw [inductionHypothesis]
      rfl

/-- Without exceptions this is the receiver as it is. -/
theorem processSegment?_silent
    (receiver : RUDPReceiver) (segment : RUDPPacket) :
    receiver.processSegment? silent segment =
      .ok (receiver.processSegment segment) := by
  have received : receiver.receiveSegment? silent segment =
      .ok (receiver.receiveSegment segment) := by
    unfold receiveSegment?
    split
    · next inOrder =>
        simp only [silent, Bool.and_false, Bool.false_eq_true, if_false]
        change afterDelivering _ (drain? silent _) = _
        rw [drain?_silent]
        simp only [receiveSegment]
        rw [if_neg (by omega), if_neg (by
          simp only [inOrder, maxRwnd]
          omega), if_pos inOrder]
        rfl
    · rfl
  rw [processSegment?, received]
  rfl

/-! ## Runs -/

/-- A segment together with the invocations of the callback that raise while it
is processed. -/
abbrev Arrival := RUDPPacket × (Nat → Bool)

/-- A receiver with what its callback was passed. -/
structure FailingRun where
  receiver : RUDPReceiver
  /-- The messages the callback took. -/
  delivered : List Bytes
  /-- The segments at which it raised. -/
  raisedAt : List RUDPPacket

namespace FailingRun

/-- A new receiver. -/
def start : FailingRun where
  receiver := new
  delivered := []
  raisedAt := []

/-- Record how a call ends. -/
def record (run : FailingRun) :
    Except DeliveryError (RUDPReceiver × List Bytes) → FailingRun
  | .error error =>
      { receiver := error.receiver
        delivered := run.delivered ++ error.delivered
        raisedAt := run.raisedAt ++ [error.segment] }
  | .ok result =>
      { receiver := result.1
        delivered := run.delivered ++ result.2
        raisedAt := run.raisedAt }

/-- Process one segment.  The caller of `process_segment` catches what it
raises. -/
def next (run : FailingRun) (arrival : Arrival) : FailingRun :=
  run.record
    (match run.receiver.processSegment? arrival.2 arrival.1 with
    | .error error => .error error
    | .ok result => .ok (result.receiver, result.delivered))

/-- Process a list of segments. -/
def processAll (run : FailingRun) (arrivals : List Arrival) : FailingRun :=
  arrivals.foldl next run

/-- The run of a new receiver over a list of segments. -/
def after (arrivals : List Arrival) : FailingRun := start.processAll arrivals

theorem record_afterDelivering (run : FailingRun) (delivered : List Bytes)
    (outcome : Except DeliveryError (RUDPReceiver × List Bytes)) :
    run.record (afterDelivering delivered outcome) =
      ({ run with delivered := run.delivered ++ delivered }).record
        outcome := by
  cases outcome <;> simp [afterDelivering, record]

/-! ## The invariant -/

/-- A segment is, to reassembly, the packet of a sender's stream with a given
number. -/
def IsCopy (messages : List (Bytes × Int)) (seq : Int)
    (segment : RUDPPacket) : Prop :=
  0 ≤ seq ∧ ∃ packet, (RUDPSender.stream messages)[seq.toNat]? = some packet ∧
    segment.segment = packet.segment

/-- Arrivals of a sender's stream: copies of its packets, under the checksum
they were packed with. -/
def IsGenuine (messages : List (Bytes × Int)) (segment : RUDPPacket) : Prop :=
  ∃ packet ∈ RUDPSender.stream messages, ∃ checksum,
    segment = packet.withChecksum checksum

theorem IsGenuine.isCopy {messages : List (Bytes × Int)}
    {segment : RUDPPacket} (genuine : IsGenuine messages segment) :
    IsCopy messages segment.seqNum segment := by
  obtain ⟨packet, member, checksum, rfl⟩ := genuine
  obtain ⟨index, found⟩ := List.mem_iff_getElem?.mp member
  have seqNum := RUDPSender.seqNum_stream found
  rw [RUDPPacket.seqNum_withChecksum]
  refine ⟨by omega, packet, ?_, rfl⟩
  rwa [show packet.seqNum.toNat = index by omega]

/-- The receiver buffers genuine segments only, and its assembly buffer and the
messages the callback took are what reassembly under failing completions leaves
of the segments below the expected number. -/
structure Redelivers
    (messages : List (Bytes × Int)) (run : FailingRun) : Prop where
  expectedSeq_nonneg : 0 ≤ run.receiver.expectedSeq
  buffered : ∀ seq segment,
    run.receiver.oooBuffer.get? seq = some segment →
    IsCopy messages seq segment
  redelivered : Reassembly.Redelivered
    ((RUDPSender.stream messages).map RUDPPacket.segment)
    run.receiver.expectedSeq.toNat
    ⟨run.delivered, run.receiver.assemblyBuffer⟩
    (run.raisedAt.map RUDPPacket.payload)

namespace Redelivers

variable {messages : List (Bytes × Int)} {run : FailingRun}

theorem start (messages : List (Bytes × Int)) :
    Redelivers messages start where
  expectedSeq_nonneg := le_rfl
  buffered := by simp [FailingRun.start, new]
  redelivered := .start _

/-- The invariant reads three fields of the receiver. -/
theorem congr (redelivers : Redelivers messages run) {receiver : RUDPReceiver}
    (expectedSeq : receiver.expectedSeq = run.receiver.expectedSeq)
    (assemblyBuffer : receiver.assemblyBuffer = run.receiver.assemblyBuffer)
    (buffered : ∀ seq segment, receiver.oooBuffer.get? seq = some segment →
      IsCopy messages seq segment) :
    Redelivers messages { run with receiver := receiver } where
  expectedSeq_nonneg := expectedSeq ▸ redelivers.expectedSeq_nonneg
  buffered := buffered
  redelivered := by
    simp only [expectedSeq, assemblyBuffer]
    exact redelivers.redelivered

theorem popExpected (redelivers : Redelivers messages run) :
    Redelivers messages
      { run with receiver := run.receiver.popExpected } := by
  refine redelivers.congr rfl rfl ?_
  intro seq segment found
  simp only [RUDPReceiver.popExpected, Dict.get?_del] at found
  split at found
  · exact absurd found (by simp)
  · exact redelivers.buffered seq segment found

theorem nextSegment {segment : RUDPPacket}
    (copy : IsCopy messages run.receiver.expectedSeq segment) :
    ((RUDPSender.stream messages).map RUDPPacket.segment)[
      run.receiver.expectedSeq.toNat]? = some segment.segment := by
  obtain ⟨_, packet, inStream, same⟩ := copy
  rw [List.getElem?_map, inStream, same]
  rfl

/-- The expected segment is taken. -/
theorem take (redelivers : Redelivers messages run) {segment : RUDPPacket}
    (copy : IsCopy messages run.receiver.expectedSeq segment) :
    Redelivers messages (run.record (.ok (run.receiver.takeInOrder segment)))
    where
  expectedSeq_nonneg := by
    have nonneg := redelivers.expectedSeq_nonneg
    simp only [record, takeInOrder_expectedSeq]
    omega
  buffered := by
    simp only [record, takeInOrder_oooBuffer]
    exact redelivers.buffered
  redelivered := by
    have nonneg := redelivers.expectedSeq_nonneg
    have fed := redelivers.redelivered.feed (nextSegment copy)
    simp only [record, takeInOrder_expectedSeq]
    rw [show (run.receiver.expectedSeq + 1).toNat =
      run.receiver.expectedSeq.toNat + 1 by omega]
    have assembled : (⟨run.delivered ++
          (run.receiver.takeInOrder segment).2,
          (run.receiver.takeInOrder segment).1.assemblyBuffer⟩ :
            Reassembly UInt8) =
        (⟨run.delivered, run.receiver.assemblyBuffer⟩ :
          Reassembly UInt8).feed segment.segment := by
      cases final : segment.isFin <;>
        simp [RUDPReceiver.takeInOrder, Reassembly.feed, RUDPPacket.segment,
          final]
    rw [assembled]
    exact fed

/-- The callback raises at the expected segment. -/
theorem raise (redelivers : Redelivers messages run) {segment : RUDPPacket}
    (copy : IsCopy messages run.receiver.expectedSeq segment)
    (final : segment.isFin = true) :
    Redelivers messages (run.record (.error (run.receiver.raiseAt segment)))
    where
  expectedSeq_nonneg := redelivers.expectedSeq_nonneg
  buffered := redelivers.buffered
  redelivered := by
    have failed := redelivers.redelivered.feedFailing (nextSegment copy) final
    simp only [record, raiseAt, List.append_nil, List.map_append,
      List.map_cons, List.map_nil]
    exact failed

/-- Draining, however it ends. -/
theorem drain (raises : Nat → Bool) (receiver : RUDPReceiver) :
    ∀ run : FailingRun, run.receiver = receiver → Redelivers messages run →
      Redelivers messages (run.record (drain? raises receiver)) ∧
        receiver.expectedSeq ≤
          (run.record (drain? raises receiver)).receiver.expectedSeq := by
  induction raises, receiver using drain?.induct with
  | case1 raises receiver missing =>
      rintro run rfl redelivers
      rw [drain?, missing]
      simp only [record, List.append_nil]
      exact ⟨redelivers, le_rfl⟩
  | case2 raises receiver bufferedSegment found raising =>
      rintro run rfl redelivers
      rw [drain?, found]
      simp only
      rw [if_pos raising]
      rw [Bool.and_eq_true] at raising
      have copy := redelivers.buffered _ _ found
      exact ⟨redelivers.popExpected.raise copy raising.1, le_rfl⟩
  | case3 raises receiver bufferedSegment found calm taken inductionHypothesis =>
      rintro run rfl redelivers
      rw [drain?, found]
      simp only
      rw [if_neg calm, record_afterDelivering]
      have copy := redelivers.buffered _ _ found
      obtain ⟨rest, moved⟩ := inductionHypothesis
        (({ run with receiver := run.receiver.popExpected } :
          FailingRun).record (.ok taken)) rfl
        (redelivers.popExpected.take copy)
      refine ⟨rest, le_trans ?_ moved⟩
      simp only [taken, takeInOrder_expectedSeq, RUDPReceiver.popExpected]
      omega

/-- A segment that is not expected is at most buffered. -/
theorem receiveSegment_of_ne (receiver : RUDPReceiver) {segment : RUDPPacket}
    (outOfOrder : segment.seqNum ≠ receiver.expectedSeq) :
    (receiver.receiveSegment segment).2 = [] ∧
      (receiver.receiveSegment segment).1.expectedSeq =
        receiver.expectedSeq ∧
      (receiver.receiveSegment segment).1.assemblyBuffer =
        receiver.assemblyBuffer ∧
      ((receiver.receiveSegment segment).1.oooBuffer = receiver.oooBuffer ∨
        (receiver.receiveSegment segment).1.oooBuffer =
          receiver.oooBuffer.set segment.seqNum segment) := by
  simp only [RUDPReceiver.receiveSegment]
  split
  · exact ⟨rfl, rfl, rfl, .inl rfl⟩
  · split
    · exact ⟨rfl, rfl, rfl, .inl rfl⟩
    · split
      · exact ⟨rfl, rfl, rfl, .inr rfl⟩
      · exact ⟨rfl, rfl, rfl, .inl rfl⟩

/-- Receiving a genuine segment, however it ends.  The expected number moves
if it is the expected one and the callback takes what it ends. -/
theorem receiveSegment (redelivers : Redelivers messages run)
    (raises : Nat → Bool) {segment : RUDPPacket}
    (copy : IsCopy messages segment.seqNum segment) :
    Redelivers messages
        (run.record (run.receiver.receiveSegment? raises segment)) ∧
      run.receiver.expectedSeq ≤ (run.record
        (run.receiver.receiveSegment? raises segment)).receiver.expectedSeq ∧
      (segment.seqNum = run.receiver.expectedSeq → raises 0 = false →
        run.receiver.expectedSeq < (run.record
          (run.receiver.receiveSegment? raises
            segment)).receiver.expectedSeq) := by
  unfold receiveSegment?
  split
  · next inOrder =>
      rw [inOrder] at copy
      split
      · next raising =>
          rw [Bool.and_eq_true] at raising
          refine ⟨redelivers.raise copy raising.1, le_rfl, ?_⟩
          intro _ calm
          rw [calm] at raising
          exact absurd raising.2 (by simp)
      · simp only
        rw [record_afterDelivering]
        obtain ⟨rest, moved⟩ := drain
          (fun invocation => raises (invocation +
            (run.receiver.takeInOrder segment).2.length))
          (run.receiver.takeInOrder segment).1
          (run.record (.ok (run.receiver.takeInOrder segment))) rfl
          (redelivers.take copy)
        rw [takeInOrder_expectedSeq] at moved
        have further := (Int.lt_succ run.receiver.expectedSeq).trans_le moved
        exact ⟨rest, further.le, fun _ _ => further⟩
  · next outOfOrder =>
      obtain ⟨nothing, expectedSeq, assemblyBuffer, buffer⟩ :=
        receiveSegment_of_ne run.receiver outOfOrder
      refine ⟨?_, expectedSeq.ge, fun inOrder => absurd inOrder outOfOrder⟩
      have received := redelivers.congr expectedSeq assemblyBuffer (by
        intro seq buffered found
        rcases buffer with same | stored
        · exact redelivers.buffered seq buffered (same ▸ found)
        · rw [stored, Dict.get?_set] at found
          split at found
          · next here =>
              obtain rfl := Option.some.inj found
              exact here ▸ copy
          · exact redelivers.buffered seq buffered found)
      simpa only [record, nothing, List.append_nil] using received

/-- Flow control changes nothing that reassembly sees. -/
theorem updateFlowControl (redelivers : Redelivers messages run) :
    Redelivers messages
      { run with receiver := run.receiver.updateFlowControl } := by
  obtain ⟨_, _, updated⟩ := updateFlowControl_frame run.receiver
  rw [updated]
  exact redelivers.congr rfl rfl redelivers.buffered

/-- Step lemma: processing a genuine segment keeps the invariant, whatever the
callback does. -/
theorem next (redelivers : Redelivers messages run) {arrival : Arrival}
    (genuine : IsGenuine messages arrival.1) :
    Redelivers messages (run.next arrival) ∧
      run.receiver.expectedSeq ≤ (run.next arrival).receiver.expectedSeq ∧
      (arrival.1.seqNum = run.receiver.expectedSeq → arrival.2 0 = false →
        run.receiver.expectedSeq <
          (run.next arrival).receiver.expectedSeq) := by
  have received := redelivers.receiveSegment arrival.2 genuine.isCopy
  unfold FailingRun.next processSegment?
  cases outcome : run.receiver.receiveSegment? arrival.2 arrival.1 with
  | error error =>
      rw [outcome] at received
      exact received
  | ok result =>
      rw [outcome] at received
      obtain ⟨kept, moved, further⟩ := received
      have expectedSeq : result.1.updateFlowControl.expectedSeq =
          result.1.expectedSeq := by
        obtain ⟨_, _, updated⟩ := updateFlowControl_frame result.1
        rw [updated]
      refine ⟨kept.updateFlowControl, ?_, ?_⟩
      · simp only [record, expectedSeq]
        exact moved
      · simp only [record, expectedSeq]
        exact further

/-- Run lemma: the invariant holds after any genuine segments. -/
theorem processAll (redelivers : Redelivers messages run)
    {arrivals : List Arrival}
    (genuine : ∀ arrival ∈ arrivals, IsGenuine messages arrival.1) :
    Redelivers messages (run.processAll arrivals) := by
  induction arrivals generalizing run with
  | nil => exact redelivers
  | cons arrival arrivals inductionHypothesis =>
      exact inductionHypothesis
        (redelivers.next (genuine arrival (by simp))).1
        fun later member => genuine later (by simp [member])

theorem expectedSeq_le (redelivers : Redelivers messages run) :
    run.receiver.expectedSeq ≤ (RUDPSender.stream messages).length := by
  have bound := redelivers.redelivered.count_le
  rw [List.length_map] at bound
  have nonneg := redelivers.expectedSeq_nonneg
  omega

/-- Retransmitting the segments from some expected number on, in order and
with a callback that takes everything, completes the stream. -/
theorem retransmit (redelivers : Redelivers messages run)
    (packets : List RUDPPacket) (count : Nat)
    (rest : (RUDPSender.stream messages).drop count = packets)
    (reached : (count : Int) ≤ run.receiver.expectedSeq) :
    (run.processAll (packets.map fun packet =>
      (packet, silent))).receiver.expectedSeq =
        (RUDPSender.stream messages).length := by
  induction packets generalizing run count with
  | nil =>
      have beyond := List.drop_eq_nil_iff.mp rest
      have bound := redelivers.expectedSeq_le
      simp only [List.map_nil, FailingRun.processAll, List.foldl_nil]
      omega
  | cons packet packets inductionHypothesis =>
      have found : (RUDPSender.stream messages)[count]? = some packet := by
        have head := congrArg (fun list : List RUDPPacket => list[0]?) rest
        simpa using head
      have seqNum := RUDPSender.seqNum_stream found
      have genuine : IsGenuine messages packet :=
        ⟨packet, List.mem_of_getElem? found, packet.checksum, rfl⟩
      obtain ⟨kept, moved, further⟩ :=
        @Redelivers.next messages run redelivers (packet, silent) genuine
      refine inductionHypothesis kept (count + 1) ?_ ?_
      · have tail := congrArg List.tail rest
        rwa [List.tail_drop, List.tail_cons] at tail
      · by_cases expected : packet.seqNum = run.receiver.expectedSeq
        · have := further expected rfl
          push_cast
          omega
        · push_cast
          omega

end Redelivers

/-- Once the stream is complete, the callback has taken the original messages
exactly if every segment at which it raised was empty. -/
theorem Redelivers.delivered_eq_iff
    {messages : List (Bytes × Int)} {run : FailingRun}
    (redelivers : Redelivers messages run)
    (complete : run.receiver.expectedSeq =
      (RUDPSender.stream messages).length) :
    run.delivered = messages.map Prod.fst ↔
      ∀ segment ∈ run.raisedAt, segment.payload = [] := by
  have redelivered := redelivers.redelivered
  have count : run.receiver.expectedSeq.toNat =
      ((RUDPSender.stream messages).map RUDPPacket.segment).length := by
    rw [List.length_map, complete, Int.toNat_natCast]
  rw [count] at redelivered
  have whole := RUDPSender.feedAll_packetsFrom .start rfl 0 messages
  have exact_iff := redelivered.messages_eq_iff
  rw [RUDPSender.stream, whole] at exact_iff
  simpa [Reassembly.start] using exact_iff

/-- Calls that do not raise add no segment at which the callback raised. -/
theorem raisedAt_processAll_silent
    (run : FailingRun) (segments : List RUDPPacket) :
    (run.processAll (segments.map fun segment =>
      (segment, silent))).raisedAt = run.raisedAt := by
  induction segments generalizing run with
  | nil => rfl
  | cons segment segments inductionHypothesis =>
      have kept : (run.next (segment, silent)).raisedAt = run.raisedAt := by
        rw [next, processSegment?_silent]
        rfl
      exact (inductionHypothesis _).trans kept

/-- A message of one segment at which the callback raises once.  The
retransmission is taken, and the message delivered has its byte twice. -/
theorem delivered_twice :
    let packets := RUDPSender.stream [([1], 7)]
    let run := after (packets.map fun packet => (packet, fun _ => true))
    (run.processAll (packets.map fun packet => (packet, silent))).delivered =
      [[1, 1]] := by
  decide +kernel

/-- A callback that raises while genuine segments are processed, in whatever
order and as often as it likes.  If the segments from an acknowledged number on
are retransmitted and taken, nothing is lost: the expected number reaches the
end of the stream.  Whenever it does, with whatever retransmissions, the
callback has taken exactly the original messages if and only if every segment
at which it raised has an empty payload. -/
theorem failing_delivery
    {messages : List (Bytes × Int)} {arrivals : List Arrival}
    (genuine : ∀ arrival ∈ arrivals, IsGenuine messages arrival.1) :
    let run := after arrivals
    let resend := fun packets : List RUDPPacket =>
      run.processAll (packets.map fun packet => (packet, silent))
    (∀ acknowledged : Nat, acknowledged ≤ run.receiver.expectedSeq →
      (resend ((RUDPSender.stream messages).drop
        acknowledged)).receiver.expectedSeq =
          (RUDPSender.stream messages).length) ∧
      ∀ packets, (∀ packet ∈ packets, IsGenuine messages packet) →
        (resend packets).receiver.expectedSeq =
          (RUDPSender.stream messages).length →
        ((resend packets).delivered = messages.map Prod.fst ↔
          ∀ segment ∈ run.raisedAt, segment.payload = []) := by
  intro run resend
  have redelivers : Redelivers messages run :=
    (Redelivers.start messages).processAll genuine
  refine ⟨fun acknowledged reached =>
    redelivers.retransmit _ acknowledged rfl reached, ?_⟩
  intro packets genuineAgain complete
  have resent : Redelivers messages (resend packets) :=
    redelivers.processAll fun arrival member => by
      obtain ⟨packet, inPackets, rfl⟩ := List.mem_map.mp member
      exact genuineAgain packet inPackets
  have raisedAt : (resend packets).raisedAt = run.raisedAt :=
    raisedAt_processAll_silent run packets
  rw [← raisedAt]
  exact resent.delivered_eq_iff complete

/-- Two messages, the second one empty.  The callback raises at the empty one
only, which is then taken as it was. -/
theorem failing_delivery_emptyMessage :
    let packets := RUDPSender.stream [([1], 7), ([], 7)]
    let run := after (packets.map fun packet =>
      (packet, fun _ => packet.seqNum == 1))
    (run.processAll (packets.map fun packet => (packet, silent))).delivered =
      [[1], []] := by
  intro packets run
  have genuine : ∀ packet ∈ packets,
      IsGenuine [([1], 7), ([], 7)] packet := fun packet member =>
    ⟨packet, member, packet.checksum, rfl⟩
  have genuineArrivals : ∀ arrival ∈ packets.map fun packet =>
        ((packet, fun _ => packet.seqNum == 1) : Arrival),
      IsGenuine [([1], 7), ([], 7)] arrival.1 := by
    intro arrival member
    obtain ⟨packet, inPackets, rfl⟩ := List.mem_map.mp member
    exact genuine packet inPackets
  obtain ⟨complete, iff_empty⟩ := failing_delivery genuineArrivals
  exact (iff_empty packets genuine (complete 0 (by decide +kernel))).mpr
    (by decide +kernel)

end FailingRun

end RUDPReceiver

end RudpAgentStack

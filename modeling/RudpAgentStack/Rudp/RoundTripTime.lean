import RudpAgentStack.Rudp.SendingDiscipline

/-!
# Round-trip time

The estimate changes only when a new acknowledgement finds the record of its
highest segment, and only if that segment was never retransmitted.  The record
of such a segment is tied to the log of transmissions: the log has exactly one
transmission of it, made at the time on record, and once the segment is
acknowledged it is never transmitted again.
-/

namespace RudpAgentStack

open Foundation

/-- The estimate after one more sample. -/
def RttEstimate.update (rtt : Option RttEstimate) (sampleRtt : ℚ) :
    RttEstimate :=
  match rtt with
  | none => { srtt := sampleRtt, rttvar := sampleRtt / 2 }
  | some ⟨srtt, rttvar⟩ =>
      { rttvar := (1 - beta) * rttvar + beta * |srtt - sampleRtt|
        srtt := (1 - alpha) * srtt + alpha * sampleRtt }

/-- The part of a sender that keeps time. -/
structure Timing where
  rtt : Option RttEstimate
  rto : ℚ
  minRto : ℚ
  maxRto : ℚ

namespace Timing

/-- After a sample the timeout follows the estimate, within its bounds. -/
def sampled (timing : Timing) (sampleRtt : ℚ) : Timing :=
  let estimate := RttEstimate.update timing.rtt sampleRtt
  { timing with
    rtt := some estimate
    rto := max timing.minRto
      (min (estimate.srtt + 4 * estimate.rttvar) timing.maxRto) }

/-- After an expired timer the timeout is doubled, up to its bound. -/
def backedOff (timing : Timing) : Timing :=
  { timing with rto := min (timing.rto * 2) timing.maxRto }

/-- The bounds a sender is built with, and a timeout between them. -/
structure Bounded (timing : Timing) : Prop where
  minRto : timing.minRto = 1 / 10
  maxRto : timing.maxRto = 4
  lower : timing.minRto ≤ timing.rto
  upper : timing.rto ≤ timing.maxRto

variable {timing : Timing}

theorem Bounded.sampled (bounded : Bounded timing) (sampleRtt : ℚ) :
    Bounded (timing.sampled sampleRtt) where
  minRto := bounded.minRto
  maxRto := bounded.maxRto
  lower := le_max_left _ _
  upper := by
    apply max_le
    · exact bounded.lower.trans bounded.upper
    · exact min_le_right _ _

/-- Doubling a positive timeout below its bound does not decrease it. -/
theorem Bounded.le_backedOff (bounded : Bounded timing) :
    timing.rto ≤ timing.backedOff.rto := by
  have positive := bounded.lower
  rw [bounded.minRto] at positive
  apply le_min
  · linarith
  · exact bounded.upper

theorem Bounded.backedOff (bounded : Bounded timing) :
    Bounded timing.backedOff where
  minRto := bounded.minRto
  maxRto := bounded.maxRto
  lower := bounded.lower.trans bounded.le_backedOff
  upper := min_le_right _ _

end Timing

namespace RUDPSender

variable {sender ready : RUDPSender} {call : Call}

/-- The timing of a sender. -/
def timing (sender : RUDPSender) : Timing where
  rtt := sender.rtt
  rto := sender.rto
  minRto := sender.minRto
  maxRto := sender.maxRto

/-! ## Samples -/

/-- The sample an acknowledgement takes from its highest segment: none if the
segment has no record or was retransmitted. -/
def sample? (sender : RUDPSender) (highestAcked : Int) (currentTime : ℚ) :
    Option ℚ :=
  match sender.unackedPackets.get? highestAcked with
  | none => none
  | some packetInfo =>
      if packetInfo.isRetransmitted then none
      else some (currentTime - packetInfo.sentTime)

/-- The sample of a call. -/
def callSample? (sender : RUDPSender) : Call → Option ℚ
  | .onAckReceived ackNum _ currentTime =>
      if sender.base < ackNum then sender.sample? (ackNum - 1) currentTime
      else none
  | _ => none

theorem sample?_eq_some_iff
    (sender : RUDPSender) (highestAcked : Int) (currentTime sample : ℚ) :
    sender.sample? highestAcked currentTime = some sample ↔
      ∃ packetInfo,
        sender.unackedPackets.get? highestAcked = some packetInfo ∧
          packetInfo.isRetransmitted = false ∧
          sample = currentTime - packetInfo.sentTime := by
  unfold sample?
  cases sender.unackedPackets.get? highestAcked with
  | none => simp
  | some packetInfo =>
      simp only [Option.some.injEq]
      constructor
      · intro sampled
        split at sampled
        · exact absurd sampled (by simp)
        · next original =>
            exact ⟨packetInfo, rfl, Bool.not_eq_true _ ▸ original,
              (Option.some.inj sampled).symm⟩
      · rintro ⟨_, rfl, original, rfl⟩
        rw [if_neg (by simp [original])]

theorem timing_sampleRtt
    {highestAcked : Int} {currentTime sample : ℚ}
    (sampled : sender.sample? highestAcked currentTime = some sample) :
    (sender.sampleRtt highestAcked currentTime).timing =
      sender.timing.sampled sample := by
  obtain ⟨packetInfo, found, original, rfl⟩ :=
    (sample?_eq_some_iff _ _ _ _).mp sampled
  rw [sampleRtt, found]
  simp only [original, Bool.false_eq_true, if_false]
  rfl

theorem sampleRtt_of_none
    {highestAcked : Int} {currentTime : ℚ}
    (nothing : sender.sample? highestAcked currentTime = none) :
    sender.sampleRtt highestAcked currentTime = sender := by
  unfold sample? at nothing
  unfold sampleRtt
  split
  · rfl
  · next packetInfo found =>
      simp only [found] at nothing
      split at nothing
      · next retransmitted => rw [if_pos retransmitted]
      · exact absurd nothing (by simp)

@[simp] theorem timing_trySend (sender : RUDPSender) (currentTime : ℚ) :
    (sender.trySend currentTime).1.timing = sender.timing := by
  obtain ⟨_, _, _, _, equal⟩ := sender.trySend_frame currentTime
  rw [equal]
  rfl

@[simp] theorem timing_growCwnd (sender : RUDPSender) :
    sender.growCwnd.timing = sender.timing := by
  obtain ⟨_, _, grown⟩ := growCwnd_frame sender
  rw [grown]
  rfl

@[simp] theorem timing_fastRetransmit
    (sender : RUDPSender) (currentTime : ℚ) :
    (sender.fastRetransmit currentTime).1.timing = sender.timing := by
  unfold fastRetransmit
  split <;> rfl

@[simp] theorem timing_onDuplicateAck
    (sender : RUDPSender) (currentTime : ℚ) :
    (sender.onDuplicateAck currentTime).1.timing = sender.timing := by
  simp only [onDuplicateAck]
  split
  · rw [timing_fastRetransmit]
    rfl
  · split
    · rw [timing_trySend]
      rfl
    · rfl

/-- The timing after a new acknowledgement is that after its sample. -/
theorem timing_onNewAck (sender : RUDPSender)
    (ackNum : Int) (currentTime : ℚ) :
    (sender.onNewAck ackNum currentTime).1.timing =
      (({ sender with
        base := ackNum
        dupAckCount := 0
        lastAckReceived := ackNum } : RUDPSender).sampleRtt (ackNum - 1)
          currentTime).timing := by
  rw [onNewAck_eq, afterNewAck, timing_trySend, timing_growCwnd]
  rfl

/-- Only new acknowledgements take a sample, that of the highest segment they
acknowledge. -/
theorem of_callSample? {sample : ℚ}
    (sampled : sender.callSample? call = some sample) :
    ∃ ackNum rwnd currentTime,
      call = .onAckReceived ackNum rwnd currentTime ∧
        sender.base < ackNum ∧
        sender.sample? (ackNum - 1) currentTime = some sample := by
  cases call with
  | enqueueData data msgId currentTime =>
      exact absurd sampled (by simp [callSample?])
  | checkTimeouts currentTime =>
      exact absurd sampled (by simp [callSample?])
  | onAckReceived ackNum rwnd currentTime =>
      simp only [callSample?] at sampled
      split at sampled
      · next newer =>
          exact ⟨ackNum, rwnd, currentTime, rfl, newer, sampled⟩
      · exact absurd sampled (by simp)

/-- A call with a sample updates the estimate. -/
theorem timing_perform_of_sample {sample : ℚ}
    (sampled : sender.callSample? call = some sample) :
    (sender.perform call).1.timing = sender.timing.sampled sample := by
  obtain ⟨ackNum, rwnd, currentTime, rfl, newer, taken⟩ :=
    of_callSample? sampled
  simp only [perform, onAckReceived]
  rw [if_pos newer, timing_onNewAck]
  exact timing_sampleRtt taken

/-- A call without a sample keeps the timing or is an expired timer. -/
theorem timing_perform_of_none (nothing : sender.callSample? call = none) :
    (sender.perform call).1.timing = sender.timing ∨
      (sender.perform call).1.timing = sender.timing.backedOff := by
  cases call with
  | enqueueData data msgId currentTime =>
      left
      simp only [perform, enqueueData, timing_trySend]
      rfl
  | onAckReceived ackNum rwnd currentTime =>
      left
      simp only [callSample?] at nothing
      simp only [perform, onAckReceived]
      split at nothing
      · next newer =>
          have kept := @sampleRtt_of_none { sender with
            peerRwnd := rwnd
            base := ackNum
            dupAckCount := 0
            lastAckReceived := ackNum } _ _ nothing
          rw [if_pos newer, timing_onNewAck, kept]
          rfl
      · next older =>
          rw [if_neg older]
          split
          · rw [timing_onDuplicateAck]
            rfl
          · rfl
  | checkTimeouts currentTime =>
      simp only [perform, checkTimeouts]
      split
      · exact .inl rfl
      · split
        · exact .inr rfl
        · exact .inl rfl

/-- Step lemma: every call keeps the timeout within its bounds. -/
theorem bounded_perform (bounded : sender.timing.Bounded) (call : Call) :
    (sender.perform call).1.timing.Bounded := by
  cases sampled : sender.callSample? call with
  | some sample =>
      rw [timing_perform_of_sample sampled]
      exact bounded.sampled sample
  | none =>
      rcases timing_perform_of_none sampled with same | doubled
      · rw [same]
        exact bounded
      · rw [doubled]
        exact bounded.backedOff

/-- Timers never decrease the timeout. -/
theorem rto_le_checkTimeouts (bounded : sender.timing.Bounded)
    (currentTime : ℚ) :
    sender.rto ≤ (sender.checkTimeouts currentTime).1.rto := by
  have nothing : sender.callSample? (.checkTimeouts currentTime) = none := rfl
  rcases timing_perform_of_none nothing with same | doubled
  · exact (congrArg Timing.rto same).ge
  · exact bounded.le_backedOff.trans (congrArg Timing.rto doubled).ge

/-! ## Records -/

/-- `_try_send` records what it transmits at its own time and leaves all other
records alone. -/
theorem get?_trySend (sender : RUDPSender) (currentTime : ℚ) :
    ∀ seq packetInfo,
      (sender.trySend currentTime).1.unackedPackets.get? seq =
        some packetInfo →
      (seq ∈ (sender.trySend currentTime).2.map RUDPPacket.seqNum ∧
          packetInfo.sentTime = currentTime ∧
          packetInfo.isRetransmitted = false) ∨
        (seq ∉ (sender.trySend currentTime).2.map RUDPPacket.seqNum ∧
          sender.unackedPackets.get? seq = some packetInfo) := by
  refine trySend_rule
    (fun after handed => ∀ seq packetInfo,
      after.unackedPackets.get? seq = some packetInfo →
      (seq ∈ handed.map RUDPPacket.seqNum ∧
          packetInfo.sentTime = currentTime ∧
          packetInfo.isRetransmitted = false) ∨
        (seq ∉ handed.map RUDPPacket.seqNum ∧
          sender.unackedPackets.get? seq = some packetInfo))
    (fun _ _ _ known => known) ?_
    (fun seq packetInfo found => .inr ⟨by simp, found⟩)
  intro after handed packet rest known _ _ seq packetInfo found
  simp only [transmit, Dict.get?_set] at found
  simp only [List.map_append, List.map_cons, List.map_nil, List.mem_append,
    List.mem_singleton]
  by_cases new : seq = packet.seqNum
  · rw [if_pos new] at found
    obtain rfl := Option.some.inj found
    exact .inl ⟨.inr new, rfl, rfl⟩
  · rw [if_neg new] at found
    rcases known seq packetInfo found with ⟨listed, fresh⟩ | ⟨absent, old⟩
    · exact .inl ⟨.inl listed, fresh⟩
    · exact .inr ⟨fun either => either.elim absent new, old⟩

/-- `enqueue_data` records what it transmits at its own time and leaves all
other records alone. -/
theorem get?_enqueueData (sender : RUDPSender)
    (data : Bytes) (msgId : Int) (currentTime : ℚ) :
    ∀ seq packetInfo,
      (sender.enqueueData data msgId currentTime).1.unackedPackets.get? seq =
        some packetInfo →
      (seq ∈ (sender.enqueueData data msgId currentTime).2.map
            RUDPPacket.seqNum ∧
          packetInfo.sentTime = currentTime ∧
          packetInfo.isRetransmitted = false) ∨
        (seq ∉ (sender.enqueueData data msgId currentTime).2.map
            RUDPPacket.seqNum ∧
          sender.unackedPackets.get? seq = some packetInfo) :=
  get?_trySend _ currentTime

/-- A call leaves a record as it was or stamps it with its own time. -/
theorem get?_perform {seq : Int} {packetInfo : UnackedPacket}
    (found : (sender.perform call).1.unackedPackets.get? seq =
      some packetInfo) :
    sender.unackedPackets.get? seq = some packetInfo ∨
      packetInfo.sentTime = call.time := by
  cases reached : sender.beforeTrySend call with
  | some ready =>
      rw [perform_of_beforeTrySend reached] at found
      rcases get?_trySend ready call.time _ _ found with
        ⟨_, stamped, _⟩ | ⟨_, old⟩
      · exact .inr stamped
      · exact .inl (get?_of_beforeTrySend reached old)
  | none =>
      rcases (retransmits_of_beforeTrySend reached).inFlight with
        ⟨_, same⟩ | ⟨retransmitted, _, _, records⟩
      · exact .inl (same ▸ found)
      · rw [records, Dict.get?_set] at found
        split at found
        · obtain rfl := Option.some.inj found
          exact .inr rfl
        · exact .inl found

/-- `_try_send` transmits nothing below the upper end of the window. -/
theorem Window.nextUnsent_le_handed
    {messages : List (Bytes × Int)} {low : Int}
    (window : Window sender messages low) (currentTime : ℚ) :
    ∀ packet ∈ (sender.trySend currentTime).2,
      sender.nextUnsent ≤ packet.seqNum := by
  intro packet handed
  have numbered : packet.seqNum ∈
      (trySendTransmissions currentTime sender.sendBuffer sender).map
        fun transmission => transmission.packet.seqNum := by
    rw [RUDPSender.trySend, ← map_packet_trySendTransmissions] at handed
    obtain ⟨transmission, member, rfl⟩ := List.mem_map.mp handed
    exact List.mem_map_of_mem
      (f := fun transmission : Transmission => transmission.packet.seqNum)
      member
  rw [window.numbers_trySend] at numbered
  obtain ⟨index, _, equal⟩ := List.mem_map.mp numbered
  omega

/-- `enqueue_data` transmits nothing below the upper end of the window. -/
theorem Window.nextUnsent_le_enqueued
    {messages : List (Bytes × Int)} {low : Int}
    (window : Window sender messages low)
    (data : Bytes) (msgId : Int) (currentTime : ℚ) :
    ∀ packet ∈ (sender.enqueueData data msgId currentTime).2,
      sender.nextUnsent ≤ packet.seqNum := by
  intro packet handed
  have above := (window.enqueue data msgId).nextUnsent_le_handed currentTime
    packet handed
  simp only [nextUnsent, List.length_append] at above ⊢
  omega

end RUDPSender

/-! ## Records and transmissions -/

/-- The transmissions of one segment in a log. -/
def Transmission.ofSegment (seq : Int) (log : List Transmission) :
    List Transmission :=
  log.filter fun transmission => decide (transmission.packet.seqNum = seq)

namespace Transmission

@[simp] theorem ofSegment_append
    (seq : Int) (log later : List Transmission) :
    ofSegment seq (log ++ later) =
      ofSegment seq log ++ ofSegment seq later :=
  List.filter_append _ _

theorem ofSegment_eq_nil {seq : Int} {log : List Transmission}
    (others : ∀ transmission ∈ log, transmission.packet.seqNum ≠ seq) :
    ofSegment seq log = [] := by
  rw [ofSegment, List.filter_eq_nil_iff]
  intro transmission member
  simpa using others transmission member

theorem ofSegment_singleton {seq : Int} {transmission : Transmission}
    (same : transmission.packet.seqNum = seq) :
    ofSegment seq [transmission] = [transmission] := by
  simp [ofSegment, same]

end Transmission

namespace RUDPSender

open Transmission (ofSegment)

/-- The log has only segments below the next unsent one, and exactly one
transmission of every segment whose record was not retransmitted, at the time
on record. -/
structure Timed (sender : RUDPSender) (log : List Transmission) : Prop where
  below : ∀ transmission ∈ log,
    transmission.packet.seqNum < sender.nextUnsent
  once : ∀ seq packetInfo,
    sender.unackedPackets.get? seq = some packetInfo →
    packetInfo.isRetransmitted = false →
    ∃ transmission, ofSegment seq log = [transmission] ∧
      transmission.time = packetInfo.sentTime

namespace Timed

variable {sender ready : RUDPSender} {log : List Transmission}
  {messages : List (Bytes × Int)} {low : Int}

/-- Removing records keeps the rest timed. -/
theorem mono (timed : Timed sender log) {other : RUDPSender}
    (sameUnsent : other.nextUnsent = sender.nextUnsent)
    (subset : ∀ seq packetInfo,
      other.unackedPackets.get? seq = some packetInfo →
      sender.unackedPackets.get? seq = some packetInfo) :
    Timed other log where
  below := sameUnsent ▸ timed.below
  once := fun seq packetInfo found =>
    timed.once seq packetInfo (subset seq packetInfo found)

theorem transmit (timed : Timed sender log)
    {packet : RUDPPacket} {rest : List RUDPPacket} {currentTime : ℚ}
    {transmission : Transmission}
    (buffered : sender.sendBuffer = packet :: rest)
    (seqNum : packet.seqNum = sender.nextUnsent)
    (samePacket : transmission.packet = packet)
    (sameTime : transmission.time = currentTime) :
    Timed (sender.transmit packet rest currentTime)
      (log ++ [transmission]) := by
  have next := Window.nextUnsent_transmit buffered currentTime
  constructor
  · intro other member
    rw [next]
    rcases List.mem_append.mp member with earlier | last
    · have := timed.below other earlier
      omega
    · obtain rfl := List.mem_singleton.mp last
      rw [samePacket]
      omega
  · intro seq packetInfo found original
    simp only [RUDPSender.transmit, Dict.get?_set] at found
    rw [Transmission.ofSegment_append]
    by_cases new : seq = packet.seqNum
    · -- the segment was never transmitted before
      rw [if_pos new] at found
      obtain rfl := Option.some.inj found
      have before : ofSegment seq log = [] := by
        apply Transmission.ofSegment_eq_nil
        intro other member
        have := timed.below other member
        omega
      refine ⟨transmission, ?_, sameTime⟩
      rw [before, Transmission.ofSegment_singleton (by rw [samePacket, new])]
      rfl
    · rw [if_neg new] at found
      obtain ⟨single, alone, time⟩ := timed.once seq packetInfo found original
      refine ⟨single, ?_, time⟩
      rw [alone, Transmission.ofSegment_eq_nil, List.append_nil]
      intro other member
      obtain rfl := List.mem_singleton.mp member
      rw [samePacket]
      exact fun same => new same.symm

theorem trySend (timed : Timed sender log)
    (window : Window sender messages low) (currentTime : ℚ) :
    Timed (sender.trySend currentTime).1
      (log ++ trySendTransmissions currentTime sender.sendBuffer sender) := by
  refine (trySendTransmissions_rule
    (fun after new => Window after messages low ∧ Timed after (log ++ new))
    ?_ ?_ ⟨window, by simpa using timed⟩).2
  · rintro after new _ ⟨window, timed⟩
    exact ⟨window.congr rfl rfl rfl rfl,
      timed.mono rfl fun _ _ found => found⟩
  · rintro after new packet rest ⟨window, timed⟩ buffered _
    refine ⟨window.transmit buffered currentTime, ?_⟩
    rw [← List.append_assoc]
    exact timed.transmit buffered (window.head buffered).2.1 rfl rfl

/-- A retransmission is added to the log of a segment whose record says so. -/
theorem retransmits (timed : Timed sender log)
    (window : Window sender messages low) {after : RUDPSender}
    {handed : List RUDPPacket} {currentTime : ℚ}
    (kept : Retransmits sender after handed currentTime)
    {again : List Transmission}
    (packets : again.map Transmission.packet = handed) :
    Timed after (log ++ again) := by
  have sameUnsent : after.nextUnsent = sender.nextUnsent := by
    simp only [nextUnsent, kept.nextSeq, kept.sendBuffer]
  rcases kept.inFlight with ⟨nothing, sameRecords⟩ |
    ⟨packetInfo, found, single, records⟩
  · rw [nothing, List.map_eq_nil_iff] at packets
    rw [packets, List.append_nil]
    exact timed.mono sameUnsent fun seq info => by rw [sameRecords]; exact id
  · have present := (window.mem_unacked _).mp (Dict.mem_of_get? found)
    have nonneg := window.low_nonneg
    have seqNum : packetInfo.packet.seqNum = sender.base := by
      rw [seqNum_stream (window.packet _ _ found)]
      omega
    have repeated : ∀ transmission ∈ again,
        transmission.packet.seqNum = sender.base := by
      intro transmission member
      have listed : transmission.packet ∈ handed :=
        packets ▸ List.mem_map_of_mem member
      rw [single, List.mem_singleton] at listed
      rw [listed, seqNum]
    constructor
    · intro transmission member
      rw [sameUnsent]
      rcases List.mem_append.mp member with earlier | now
      · exact timed.below transmission earlier
      · rw [repeated transmission now]
        exact present.2
    · intro seq info stored original
      rw [records, Dict.get?_set] at stored
      split at stored
      · obtain rfl := Option.some.inj stored
        exact absurd original (by simp [UnackedPacket.retransmitted])
      · next other =>
          obtain ⟨transmission, alone, time⟩ :=
            timed.once seq info stored original
          refine ⟨transmission, ?_, time⟩
          rw [Transmission.ofSegment_append, alone,
            Transmission.ofSegment_eq_nil, List.append_nil]
          intro transmission' member same
          exact other (same ▸ repeated transmission' member)

end Timed

namespace Run

variable {run : Run} {low : Int}

/-- Step lemma: every call keeps the records timed. -/
theorem Consistent.timed_next (consistent : run.Consistent low)
    {log : List Transmission} (timed : Timed run.sender log) (call : Call) :
    Timed (run.next call).sender
      (log ++ run.sender.transmissions call) := by
  rw [sender_next]
  cases reached : run.sender.beforeTrySend call with
  | some ready =>
      obtain ⟨window, sameUnsent⟩ := consistent.beforeTrySend reached
      have before : Timed ready log := timed.mono sameUnsent
        fun _ _ found => get?_of_beforeTrySend reached found
      rw [perform_of_beforeTrySend reached]
      simp only [RUDPSender.transmissions, reached]
      exact before.trySend window call.time
  | none =>
      exact timed.retransmits consistent.window
        (retransmits_of_beforeTrySend reached)
        (RUDPSender.map_packet_transmissions run.sender call)

/-- Run lemma: after any calls the records are timed by the log. -/
theorem timed_after (windowSize : Int) (calls : List Call) :
    Timed (after windowSize calls).sender
      (transmissions windowSize calls) := by
  induction calls using List.reverseRecOn with
  | nil =>
      constructor
      · simp [transmissions, transmissionsFrom]
      · simp [machine, new]
  | append_singleton calls call inductionHypothesis =>
      obtain ⟨low, consistent⟩ := exists_consistent windowSize calls
      rw [transmissions_append_singleton, after_append_singleton]
      exact consistent.timed_next inductionHypothesis call

/-- A call transmits nothing below the lower end of the window it leaves. -/
theorem Consistent.lowAfter_le_transmissions (consistent : run.Consistent low)
    (call : Call) :
    ∀ transmission ∈ run.sender.transmissions call,
      run.lowAfter low call ≤ transmission.packet.seqNum := by
  intro transmission member
  have handed : transmission.packet ∈ (run.sender.perform call).2 := by
    rw [← RUDPSender.map_packet_transmissions]
    exact List.mem_map_of_mem member
  cases reached : run.sender.beforeTrySend call with
  | some ready =>
      obtain ⟨window, _⟩ := consistent.beforeTrySend reached
      rw [perform_of_beforeTrySend reached] at handed
      exact window.low_le.trans
        (window.nextUnsent_le_handed call.time _ handed)
  | none =>
      have kept := retransmits_of_beforeTrySend reached
      rcases kept.inFlight with ⟨nothing, _⟩ | ⟨packetInfo, found, single, _⟩
      · rw [nothing] at handed
        exact absurd handed (by simp)
      · have present := (consistent.window.mem_unacked _).mp
          (Dict.mem_of_get? found)
        have nonneg := consistent.window.low_nonneg
        have seqNum := seqNum_stream (consistent.window.packet _ _ found)
        have sameLow : run.lowAfter low call = low := by
          cases call with
          | enqueueData data msgId currentTime => rfl
          | checkTimeouts currentTime => rfl
          | onAckReceived ackNum rwnd currentTime =>
              simp only [RUDPSender.beforeTrySend] at reached
              split at reached
              · exact absurd reached (by simp)
              · next older => exact if_neg older
        rw [single, List.mem_singleton] at handed
        rw [handed, sameLow]
        omega

/-- The lower end of the window never moves down. -/
theorem le_lowAfter (run : Run) (low : Int) (call : Call) :
    low ≤ run.lowAfter low call := by
  cases call with
  | enqueueData data msgId currentTime => exact le_rfl
  | checkTimeouts currentTime => exact le_rfl
  | onAckReceived ackNum rwnd currentTime =>
      simp only [lowAfter, lowAfterAck]
      split
      · exact le_max_left _ _
      · exact le_rfl

/-- What lies below the window is never transmitted again. -/
theorem Consistent.low_le_transmissionsFrom
    (consistent : run.Consistent low) (calls : List Call) :
    ∀ transmission ∈ run.transmissionsFrom calls,
      low ≤ transmission.packet.seqNum := by
  induction calls generalizing run low with
  | nil => simp [transmissionsFrom]
  | cons call calls inductionHypothesis =>
      intro transmission member
      have moved := run.le_lowAfter low call
      rcases List.mem_append.mp member with now | later
      · exact moved.trans
          (consistent.lowAfter_le_transmissions call transmission now)
      · exact moved.trans
          (inductionHypothesis (consistent.next call) transmission later)

/-- Run lemma: the timeout stays within its bounds. -/
theorem bounded_after (windowSize : Int) (calls : List Call) :
    (after windowSize calls).sender.timing.Bounded := by
  induction calls using List.reverseRecOn with
  | nil =>
      exact ⟨rfl, rfl, by norm_num [timing, machine, new, initialRto],
        by norm_num [timing, machine, new, initialRto,
          RudpAgentStack.maxRto]⟩
  | append_singleton calls call inductionHypothesis =>
      rw [after_append_singleton, sender_next]
      exact bounded_perform inductionHypothesis call

/-- What a new acknowledgement of a transmitted segment acknowledges: the
segments of the window below its number. -/
theorem Consistent.isGreatest_acked (consistent : run.Consistent low)
    {ackNum : Int} (rwnd : Int) (currentTime : ℚ)
    (newer : run.sender.base < ackNum)
    (present : ackNum - 1 ∈ run.sender.unackedPackets) :
    let call := Call.onAckReceived ackNum rwnd currentTime
    run.lowAfter low call = ackNum ∧
      IsGreatest {seq : Int | seq ∈ run.sender.unackedPackets ∧
        seq ∉ (run.next call).sender.unackedPackets} (ackNum - 1) := by
  intro call
  have inWindow := (consistent.window.mem_unacked _).mp present
  have low' : run.lowAfter low call = ackNum := by
    simp only [call, lowAfter, lowAfterAck]
    rw [if_pos newer]
    omega
  have window' := (consistent.next call).window
  rw [low'] at window'
  have mono : run.sender.nextUnsent ≤ (run.next call).sender.nextUnsent :=
    (consistent.window.onAckReceived ackNum rwnd currentTime).2.mono
  refine ⟨low', ⟨present, ?_⟩, ?_⟩
  · rw [window'.mem_unacked]
    omega
  · rintro seq ⟨before, after⟩
    rw [consistent.window.mem_unacked] at before
    rw [window'.mem_unacked] at after
    omega

/-- The highest segment a new acknowledgement samples is transmitted once,
however the run goes on. -/
theorem ofSegment_acked {windowSize : Int} {calls : List Call}
    {ackNum : Int} {packetInfo : UnackedPacket} (rwnd : Int) (currentTime : ℚ)
    (newer : (after windowSize calls).sender.base < ackNum)
    (found : (after windowSize calls).sender.unackedPackets.get? (ackNum - 1) =
      some packetInfo)
    (original : packetInfo.isRetransmitted = false) :
    ∃ transmission : Transmission,
      transmission.time = packetInfo.sentTime ∧
        ∀ later, ofSegment (ackNum - 1) (transmissions windowSize
          (calls ++ .onAckReceived ackNum rwnd currentTime :: later)) =
            [transmission] := by
  obtain ⟨low, consistent⟩ := exists_consistent windowSize calls
  obtain ⟨low', _⟩ := consistent.isGreatest_acked rwnd currentTime newer
    (Dict.mem_of_get? found)
  obtain ⟨transmission, alone, time⟩ :=
    (timed_after windowSize calls).once _ _ found original
  refine ⟨transmission, time, fun later => ?_⟩
  rw [transmissions_append, Transmission.ofSegment_append, alone,
    transmissionsFrom, Transmission.ofSegment_append]
  have now : ofSegment (ackNum - 1)
      ((after windowSize calls).sender.transmissions
        (.onAckReceived ackNum rwnd currentTime)) = [] := by
    apply Transmission.ofSegment_eq_nil
    intro other member same
    have := consistent.lowAfter_le_transmissions _ other member
    omega
  have afterwards : ofSegment (ackNum - 1)
      (((after windowSize calls).next (.onAckReceived ackNum rwnd
        currentTime)).transmissionsFrom later) = [] := by
    apply Transmission.ofSegment_eq_nil
    intro other member same
    have := (consistent.next _).low_le_transmissionsFrom later other member
    omega
  rw [now, afterwards]
  rfl

/-- Timeout and estimate over whole runs.  The timeout stays between its
bounds and timers never decrease it.  The estimate changes only on an
acknowledgement whose highest newly acknowledged segment is transmitted exactly
once, however the run goes on, by the time since that transmission. -/
theorem rtt_sampled_from_single_transmission
    (windowSize : Int) (calls : List Call) :
    let run := after windowSize calls
    (run.sender.minRto = 1 / 10 ∧ run.sender.maxRto = 4 ∧
      1 / 10 ≤ run.sender.rto ∧ run.sender.rto ≤ 4) ∧
      (∀ currentTime, run.sender.rto ≤
        (run.next (.checkTimeouts currentTime)).sender.rto) ∧
      ∀ call, (run.next call).sender.rtt ≠ run.sender.rtt →
        ∃ ackNum rwnd currentTime transmission,
          call = .onAckReceived ackNum rwnd currentTime ∧
          IsGreatest {seq : Int | seq ∈ run.sender.unackedPackets ∧
            seq ∉ (run.next call).sender.unackedPackets} (ackNum - 1) ∧
          (∀ later, ofSegment (ackNum - 1)
            (transmissions windowSize (calls ++ call :: later)) =
              [transmission]) ∧
          (run.next call).sender.rtt = some (RttEstimate.update
            run.sender.rtt (currentTime - transmission.time)) := by
  intro run
  have bounded : run.sender.timing.Bounded := bounded_after windowSize calls
  refine ⟨⟨bounded.minRto, bounded.maxRto,
    bounded.minRto ▸ bounded.lower, bounded.maxRto ▸ bounded.upper⟩, ?_, ?_⟩
  · intro currentTime
    rw [sender_next]
    exact rto_le_checkTimeouts bounded currentTime
  · intro call changed
    rw [sender_next] at changed
    cases sampled : run.sender.callSample? call with
    | none =>
        rcases timing_perform_of_none sampled with same | doubled
        · exact absurd (congrArg Timing.rtt same) changed
        · exact absurd (congrArg Timing.rtt doubled) changed
    | some sample =>
        have updated : (run.next call).sender.rtt =
            some (RttEstimate.update run.sender.rtt sample) := by
          rw [sender_next]
          exact congrArg Timing.rtt (timing_perform_of_sample sampled)
        obtain ⟨ackNum, rwnd, currentTime, rfl, newer, taken⟩ :=
          of_callSample? sampled
        obtain ⟨packetInfo, found, original, rfl⟩ :=
          (sample?_eq_some_iff _ _ _ _).mp taken
        obtain ⟨low, consistent⟩ := exists_consistent windowSize calls
        obtain ⟨_, greatest⟩ := consistent.isGreatest_acked rwnd currentTime
          newer (Dict.mem_of_get? found)
        obtain ⟨transmission, time, alone⟩ :=
          ofSegment_acked rwnd currentTime newer found original
        exact ⟨ackNum, rwnd, currentTime, transmission, rfl, greatest, alone,
          time ▸ updated⟩

end Run

end RUDPSender

end RudpAgentStack

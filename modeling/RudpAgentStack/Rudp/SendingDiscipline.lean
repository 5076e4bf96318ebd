import RudpAgentStack.Rudp.Transmissions

/-!
# Sending discipline

A segment is transmitted for the first time only within the congestion window
and the effective window, in the order of the stream and once, and everything
else on the network is a copy of such a transmission.  Acknowledgements are
arbitrary throughout.
-/

namespace RudpAgentStack

open Foundation

namespace Transmission

/-- Both limits of `_try_send` hold of the state the transmission leaves. -/
structure WithinLimits (transmission : Transmission) : Prop where
  bytes : (transmission.sender.inflightBytes : ℚ) ≤ transmission.sender.cwnd
  segments : (transmission.sender.unackedPackets.size : Int) ≤
    min (max 1 (transmission.sender.cwnd / mss).floor)
      transmission.sender.peerRwnd

/-- The sequence numbers of the first transmissions of a log. -/
def firstNumbers (log : List Transmission) : List Int :=
  (log.filter isFirst).map fun transmission => transmission.packet.seqNum

@[simp] theorem firstNumbers_append (log later : List Transmission) :
    firstNumbers (log ++ later) = firstNumbers log ++ firstNumbers later := by
  simp [firstNumbers]

/-- Every retransmission of a log repeats an earlier first transmission. -/
def Repeats (log : List Transmission) : Prop :=
  ∀ earlier transmission, earlier ++ [transmission] <+: log →
    transmission.isFirst = false →
    ∃ first ∈ earlier, first.isFirst = true ∧
      first.packet = transmission.packet

/-- A log goes on repeating its first transmissions when the continuation
does. -/
theorem Repeats.append {log later : List Transmission}
    (repeats : Repeats log)
    (known : ∀ between transmission, between ++ [transmission] <+: later →
      transmission.isFirst = false →
      ∃ first ∈ log, first.isFirst = true ∧
        first.packet = transmission.packet) :
    Repeats (log ++ later) := by
  intro earlier transmission isPrefix again
  rcases List.prefix_or_prefix_of_prefix isPrefix (List.prefix_append log later)
    with inside | beyond
  · exact repeats earlier transmission inside again
  · rcases List.prefix_concat_iff.mp beyond with rfl | ⟨between, rfl⟩
    · exact repeats earlier transmission List.prefix_rfl again
    · rw [List.append_assoc, List.prefix_append_right_inj] at isPrefix
      obtain ⟨first, member, same⟩ := known between transmission isPrefix again
      exact ⟨first, List.mem_append_left _ member, same⟩

end Transmission

namespace RUDPSender

variable {sender ready : RUDPSender} {messages : List (Bytes × Int)}
  {low : Int}

/-! ## One call -/

/-- `_try_send` transmits nothing but first transmissions within the
limits. -/
theorem trySendTransmissions_within (currentTime : ℚ) (sender : RUDPSender) :
    ∀ transmission ∈
      trySendTransmissions currentTime sender.sendBuffer sender,
      transmission.isFirst = true ∧ transmission.WithinLimits := by
  refine trySendTransmissions_rule
    (fun _ log => ∀ transmission ∈ log,
      transmission.isFirst = true ∧ transmission.WithinLimits) ?_ ?_ (by simp)
  · intro _ _ _ within
    exact within
  · intro after log packet rest within _ admitted transmission member
    rcases List.mem_append.mp member with earlier | last
    · exact within transmission earlier
    · obtain rfl := List.mem_singleton.mp last
      have grown := after.unackedPackets.size_set_le packet.seqNum
        { packet := packet, sentTime := currentTime, isRetransmitted := false }
      have room := admitted.segments
      refine ⟨rfl, admitted.bytes, ?_⟩
      change ((after.unackedPackets.set _ _).size : Int) ≤ after.window
      omega

/-- `_try_send` transmits the segments by which the upper end of the window
moves, in order. -/
theorem Window.numbers_trySend
    (window : Window sender messages low) (currentTime : ℚ) :
    (trySendTransmissions currentTime sender.sendBuffer sender).map
        (fun transmission => transmission.packet.seqNum) =
      (List.range ((sender.trySend currentTime).1.nextUnsent -
        sender.nextUnsent).toNat).map fun index : Nat =>
          sender.nextUnsent + index := by
  refine (trySendTransmissions_rule
    (fun after log => Window after messages low ∧
      sender.nextUnsent ≤ after.nextUnsent ∧
      log.map (fun transmission => transmission.packet.seqNum) =
        (List.range (after.nextUnsent - sender.nextUnsent).toNat).map
          fun index : Nat => sender.nextUnsent + index)
    ?_ ?_ ⟨window, le_rfl, by simp⟩).2.2
  · rintro after log _ ⟨window, grown, numbered⟩
    exact ⟨window.congr rfl rfl rfl rfl, grown, numbered⟩
  · rintro after log packet rest ⟨window, grown, numbered⟩ buffered _
    have next := Window.nextUnsent_transmit buffered currentTime
    have seqNum := (window.head buffered).2.1
    refine ⟨window.transmit buffered currentTime, by omega, ?_⟩
    rw [next, show (after.nextUnsent + 1 - sender.nextUnsent).toNat =
      (after.nextUnsent - sender.nextUnsent).toNat + 1 by omega,
      List.range_succ, List.map_append, List.map_append, numbered]
    simp only [List.map_cons, List.map_nil, seqNum]
    rw [show sender.nextUnsent +
      ((after.nextUnsent - sender.nextUnsent).toNat : Int) =
        after.nextUnsent by omega]

/-- The first transmissions of a call that gets to `_try_send` are all its
transmissions. -/
theorem firstNumbers_transmissions {call : Call}
    (reached : sender.beforeTrySend call = some ready) :
    Transmission.firstNumbers (sender.transmissions call) =
      (sender.transmissions call).map fun transmission =>
        transmission.packet.seqNum := by
  have within := trySendTransmissions_within call.time ready
  simp only [transmissions, reached, Transmission.firstNumbers]
  rw [List.filter_eq_self.mpr fun transmission member =>
    (within transmission member).1]

/-- A call that does not get to `_try_send` makes no first transmission. -/
theorem firstNumbers_of_missed {call : Call}
    (missed : sender.beforeTrySend call = none) :
    Transmission.firstNumbers (sender.transmissions call) = [] := by
  simp [transmissions, missed, Transmission.firstNumbers]

namespace Run

/-! ## Runs -/

/-- Every first transmission of a run is within the limits. -/
theorem within_after (windowSize : Int) (calls : List Call) :
    ∀ transmission ∈ transmissions windowSize calls,
      transmission.isFirst = true → transmission.WithinLimits := by
  induction calls using List.reverseRecOn with
  | nil => simp [transmissions, transmissionsFrom]
  | append_singleton calls call inductionHypothesis =>
      intro transmission member isFirst
      rw [transmissions_append_singleton] at member
      rcases List.mem_append.mp member with earlier | now
      · exact inductionHypothesis transmission earlier isFirst
      · unfold RUDPSender.transmissions at now
        split at now
        · exact (trySendTransmissions_within _ _ transmission now).2
        · obtain ⟨_, _, rfl⟩ := List.mem_map.mp now
          exact absurd isFirst (by simp)

/-- The first transmissions of a run are those of the segments below the upper
end of the window, in order. -/
theorem firstNumbers_after (windowSize : Int) (calls : List Call) :
    Transmission.firstNumbers (transmissions windowSize calls) =
      (List.range (after windowSize calls).sender.nextUnsent.toNat).map
        fun index : Nat => (index : Int) := by
  induction calls using List.reverseRecOn with
  | nil => rfl
  | append_singleton calls call inductionHypothesis =>
      obtain ⟨low, consistent⟩ := exists_consistent windowSize calls
      have nonneg := consistent.window.nextUnsent_nonneg
      rw [transmissions_append_singleton, after_append_singleton,
        Transmission.firstNumbers_append, inductionHypothesis, sender_next]
      cases reached :
          (after windowSize calls).sender.beforeTrySend call with
      | none =>
          have kept := retransmits_of_beforeTrySend reached
          have same : ((after windowSize calls).sender.perform
              call).1.nextUnsent =
                (after windowSize calls).sender.nextUnsent := by
            simp only [nextUnsent, kept.nextSeq, kept.sendBuffer]
          rw [firstNumbers_of_missed reached, List.append_nil, same]
      | some ready =>
          obtain ⟨window, sameUnsent⟩ := consistent.beforeTrySend reached
          have mono := (window.trySend call.time).2.mono
          rw [firstNumbers_transmissions reached,
            perform_of_beforeTrySend reached]
          simp only [RUDPSender.transmissions, reached]
          rw [window.numbers_trySend,
            show (ready.trySend call.time).1.nextUnsent.toNat =
              (after windowSize calls).sender.nextUnsent.toNat +
                ((ready.trySend call.time).1.nextUnsent -
                  ready.nextUnsent).toNat by omega,
            List.range_add, List.map_append, List.map_map]
          congr 1
          apply List.map_congr_left
          intro index _
          simp only [Function.comp_apply]
          omega

/-- A segment below the upper end of the window has been transmitted for the
first time. -/
theorem exists_first {windowSize : Int} {calls : List Call} {low : Int}
    (consistent : (after windowSize calls).Consistent low)
    {seq : Int} (lower : 0 ≤ seq)
    (upper : seq < (after windowSize calls).sender.nextUnsent) :
    ∃ first ∈ transmissions windowSize calls, first.isFirst = true ∧
      (stream (after windowSize calls).messages)[seq.toNat]? =
        some first.packet := by
  have listed : seq ∈ Transmission.firstNumbers
      (transmissions windowSize calls) := by
    rw [firstNumbers_after]
    exact List.mem_map.mpr ⟨seq.toNat, List.mem_range.mpr (by omega), by omega⟩
  obtain ⟨first, member, seqNum⟩ := List.mem_map.mp listed
  obtain ⟨inLog, isFirst⟩ := List.mem_filter.mp member
  have handed : first.packet ∈ (after windowSize calls).handed := by
    rw [← map_packet_transmissions]
    exact List.mem_map_of_mem inLog
  refine ⟨first, inLog, isFirst, ?_⟩
  rw [← seqNum]
  exact (consistent.segment first.packet handed).2.2

/-- Every retransmission of a run repeats an earlier first transmission. -/
theorem repeats_after (windowSize : Int) (calls : List Call) :
    Transmission.Repeats (transmissions windowSize calls) := by
  induction calls using List.reverseRecOn with
  | nil =>
      intro earlier transmission isPrefix
      simp [transmissions, transmissionsFrom] at isPrefix
  | append_singleton calls call inductionHypothesis =>
      obtain ⟨low, consistent⟩ := exists_consistent windowSize calls
      rw [transmissions_append_singleton]
      refine inductionHypothesis.append ?_
      intro between transmission isPrefix again
      have made : transmission ∈
          (after windowSize calls).sender.transmissions call :=
        isPrefix.subset (by simp)
      cases reached :
          (after windowSize calls).sender.beforeTrySend call with
      | some ready =>
          simp only [RUDPSender.transmissions, reached] at made
          have isFirst :=
            (trySendTransmissions_within call.time ready _ made).1
          rw [again] at isFirst
          exact absurd isFirst (by simp)
      | none =>
          have handed : transmission.packet ∈
              ((after windowSize calls).sender.perform call).2 := by
            rw [← RUDPSender.map_packet_transmissions]
            exact List.mem_map_of_mem made
          have kept := retransmits_of_beforeTrySend reached
          rcases kept.inFlight with ⟨nothing, _⟩ |
            ⟨packetInfo, found, single, _⟩
          · rw [nothing] at handed
            exact absurd handed (by simp)
          · rw [single, List.mem_singleton] at handed
            have present := (consistent.window.mem_unacked _).mp
              (Dict.mem_of_get? found)
            have nonneg := consistent.window.low_nonneg
            obtain ⟨first, member, isFirst, inStream⟩ :=
              exists_first consistent (by omega) present.2
            have same := consistent.window.packet _ _ found
            rw [inStream, Option.some.injEq] at same
            exact ⟨first, member, isFirst, by rw [handed, same]⟩

/-- After any calls: the packets handed over are the transmissions on record,
the bytes in flight are the payload in the unacked map, every first
transmission has left both limits intact, first transmissions carry the numbers
from zero on without a gap and each once, everything else repeats one of them,
and a call of `_try_send` returns only when the send buffer is empty or its
head would break one of the limits. -/
theorem sending_disciplined (windowSize : Int) (calls : List Call) :
    let run := after windowSize calls
    let log := transmissions windowSize calls
    log.map Transmission.packet = run.handed ∧
      run.sender.inflightBytes = (run.sender.unackedPackets.entries.map
        fun entry => (entry.2.packet.payload.length : Int)).sum ∧
      (∀ transmission ∈ log, transmission.isFirst = true →
        (transmission.sender.inflightBytes : ℚ) ≤ transmission.sender.cwnd ∧
          (transmission.sender.unackedPackets.size : Int) ≤
            min (max 1 (transmission.sender.cwnd / mss).floor)
              transmission.sender.peerRwnd) ∧
      ((log.filter Transmission.isFirst).map fun transmission =>
          transmission.packet.seqNum) =
        (List.range (log.filter Transmission.isFirst).length).map
          (fun index : Nat => (index : Int)) ∧
      Transmission.Repeats log ∧
      ∀ call ready, run.sender.beforeTrySend call = some ready →
        (run.next call).sender = (ready.trySend call.time).1 ∧
        ∀ packet rest,
          (run.next call).sender.sendBuffer = packet :: rest →
          ¬ (run.next call).sender.Admits packet := by
  intro run log
  obtain ⟨low, consistent⟩ := exists_consistent windowSize calls
  have numbers := firstNumbers_after windowSize calls
  have count : (log.filter Transmission.isFirst).length =
      run.sender.nextUnsent.toNat := by
    have lengths := congrArg List.length numbers
    simpa [Transmission.firstNumbers] using lengths
  refine ⟨map_packet_transmissions windowSize calls,
    consistent.window.inflightBytes, ?_, ?_, repeats_after windowSize calls,
    ?_⟩
  · intro transmission member isFirst
    have within := within_after windowSize calls transmission member isFirst
    exact ⟨within.bytes, within.segments⟩
  · rw [count]
    exact numbers
  · intro call ready reached
    have performed := perform_of_beforeTrySend reached
    rw [sender_next, performed]
    exact ⟨rfl, fun packet rest left => not_admits_of_trySend left⟩

end Run

end RUDPSender

end RudpAgentStack

import RudpAgentStack.Common.RudpReceiver
import RudpAgentStack.Rudp.SegmentStream
import Mathlib.Data.Int.Interval
import Mathlib.Order.Bounds.Basic

/-!
# The receive window

A run of a receiver is any sequence of segments.  Its history records, for
each sequence number, the segment that was accepted first.  The invariant ties
the state to this history: the out-of-order buffer holds what was accepted
beyond the expected number, and the messages delivered with the assembly
buffer are the reassembly of everything accepted below it.
-/

namespace RudpAgentStack

open Foundation

namespace RUDPReceiver

/-- A receiver with the history of its run. -/
structure Run where
  receiver : RUDPReceiver
  /-- The messages passed to `deliver_callback`, in order. -/
  delivered : List Bytes
  /-- The segment first accepted for each sequence number. -/
  accepted : Dict Int RUDPPacket

/-- A sequence number is in the window. -/
def InWindow (receiver : RUDPReceiver) (seq : Int) : Prop :=
  receiver.expectedSeq ≤ seq ∧ seq < receiver.expectedSeq + maxRwnd

instance (receiver : RUDPReceiver) (seq : Int) :
    Decidable (receiver.InWindow seq) :=
  inferInstanceAs (Decidable (_ ∧ _))

namespace Run

/-- A new receiver without history. -/
def start : Run where
  receiver := new
  delivered := []
  accepted := .empty

/-- The accepted segments after one more arrives: it is accepted if it is in
the window and no segment with its number was accepted before. -/
def accept (run : Run) (segment : RUDPPacket) : Dict Int RUDPPacket :=
  if run.receiver.InWindow segment.seqNum ∧ segment.seqNum ∉ run.accepted then
    run.accepted.set segment.seqNum segment
  else run.accepted

/-- Process one segment. -/
def next (run : Run) (segment : RUDPPacket) : Run :=
  let result := run.receiver.processSegment segment
  { receiver := result.receiver
    delivered := run.delivered ++ result.delivered
    accepted := run.accept segment }

/-- The run of a new receiver over a list of segments. -/
def after (segments : List RUDPPacket) : Run :=
  segments.foldl next start

@[simp] theorem after_nil : after [] = start := rfl

@[simp] theorem after_append_singleton
    (segments : List RUDPPacket) (segment : RUDPPacket) :
    after (segments ++ [segment]) = (after segments).next segment := by
  simp [after]

end Run

/-! ## The invariant -/

/-- The first `count` accepted segments, as reassembly sees them. -/
def takenSegments (accepted : Dict Int RUDPPacket) (count : Nat) :
    List (Segment UInt8) :=
  (List.range count).filterMap fun index : Nat =>
    (accepted.get? (index : Int)).map RUDPPacket.segment

theorem takenSegments_succ
    {accepted : Dict Int RUDPPacket} {count : Nat} {segment : RUDPPacket}
    (found : accepted.get? count = some segment) :
    takenSegments accepted (count + 1) =
      takenSegments accepted count ++ [segment.segment] := by
  simp [takenSegments, List.range_succ, found]

theorem takenSegments_congr
    {accepted accepted' : Dict Int RUDPPacket} {count : Nat}
    (agree : ∀ index : Nat, index < count →
      accepted'.get? index = accepted.get? index) :
    takenSegments accepted' count = takenSegments accepted count := by
  apply List.filterMap_congr
  intro index member
  rw [agree index (List.mem_range.mp member)]

/-- Accepted segments that look like the packets of a list reassemble like
it. -/
theorem takenSegments_eq_take
    {accepted : Dict Int RUDPPacket} {packets : List RUDPPacket} {count : Nat}
    (agree : ∀ index : Nat, index < count → ∃ segment packet,
      accepted.get? index = some segment ∧
        packets[index]? = some packet ∧ segment.segment = packet.segment) :
    takenSegments accepted count =
      (packets.take count).map RUDPPacket.segment := by
  induction count with
  | zero => rfl
  | succ count inductionHypothesis =>
      obtain ⟨segment, packet, found, inList, same⟩ :=
        agree count (Nat.lt_succ_self count)
      rw [takenSegments_succ found, List.take_add_one, inList, same,
        inductionHypothesis fun index smaller => agree index (by omega)]
      simp

/-- The state of a receiver agrees with its history.  `first` is the smallest
number the out-of-order buffer may hold: the expected one while the buffer is
being drained, its successor otherwise. -/
structure Tracks
    (receiver : RUDPReceiver) (delivered : List Bytes)
    (accepted : Dict Int RUDPPacket) (first : Int) : Prop where
  expectedSeq_nonneg : 0 ≤ receiver.expectedSeq
  nonneg : ∀ seq, seq ∈ accepted → 0 ≤ seq
  below : ∀ seq, 0 ≤ seq → seq < receiver.expectedSeq → seq ∈ accepted
  buffered : ∀ seq, receiver.oooBuffer.get? seq =
    if first ≤ seq then accepted.get? seq else none
  within : ∀ seq, seq ∈ receiver.oooBuffer →
    seq < receiver.expectedSeq + maxRwnd
  assembled : (⟨delivered, receiver.assemblyBuffer⟩ : Reassembly UInt8) =
    Reassembly.start.feedAll
      (takenSegments accepted receiver.expectedSeq.toNat)

/-- Taking the expected segment feeds it to reassembly. -/
theorem Tracks.takeInOrder
    {receiver : RUDPReceiver} {delivered : List Bytes}
    {accepted : Dict Int RUDPPacket} {segment : RUDPPacket}
    (tracks : Tracks receiver delivered accepted (receiver.expectedSeq + 1))
    (found : accepted.get? receiver.expectedSeq = some segment) :
    Tracks (receiver.takeInOrder segment).1
      (delivered ++ (receiver.takeInOrder segment).2) accepted
      (receiver.takeInOrder segment).1.expectedSeq := by
  have nonneg := tracks.expectedSeq_nonneg
  refine ⟨?_, tracks.nonneg, ?_, ?_, ?_, ?_⟩
  · rw [takeInOrder_expectedSeq]
    omega
  · intro seq lower upper
    rw [takeInOrder_expectedSeq] at upper
    by_cases last : seq = receiver.expectedSeq
    · exact last ▸ Dict.mem_of_get? found
    · exact tracks.below seq lower (by omega)
  · intro seq
    rw [takeInOrder_oooBuffer, takeInOrder_expectedSeq]
    exact tracks.buffered seq
  · intro seq member
    rw [takeInOrder_oooBuffer] at member
    rw [takeInOrder_expectedSeq]
    have := tracks.within seq member
    omega
  · have found' :
        accepted.get? (receiver.expectedSeq.toNat : Int) = some segment := by
      rwa [Int.toNat_of_nonneg nonneg]
    rw [takeInOrder_expectedSeq,
      show (receiver.expectedSeq + 1).toNat =
        receiver.expectedSeq.toNat + 1 by omega,
      takenSegments_succ found', Reassembly.feedAll_append,
      ← tracks.assembled]
    cases final : segment.isFin <;>
      simp [RUDPReceiver.takeInOrder, Reassembly.feed, RUDPPacket.segment,
        final]

/-- Draining leaves a state whose expected segment was not accepted. -/
theorem Tracks.drain
    {receiver : RUDPReceiver} {delivered : List Bytes}
    {accepted : Dict Int RUDPPacket}
    (tracks : Tracks receiver delivered accepted receiver.expectedSeq) :
    Tracks receiver.drain.1 (delivered ++ receiver.drain.2) accepted
        receiver.drain.1.expectedSeq ∧
      receiver.drain.1.expectedSeq ∉ accepted ∧
      receiver.expectedSeq ≤ receiver.drain.1.expectedSeq := by
  induction receiver using RUDPReceiver.drain.induct generalizing delivered with
  | case1 receiver missing =>
      have unexpected := tracks.buffered receiver.expectedSeq
      rw [missing, if_pos le_rfl] at unexpected
      rw [RUDPReceiver.drain, missing]
      simp only [List.append_nil]
      exact ⟨tracks, (accepted.get?_eq_none_iff _).mp unexpected.symm,
        le_rfl⟩
  | case2 receiver bufferedSegment found inductionHypothesis =>
      have acceptedExpected := tracks.buffered receiver.expectedSeq
      rw [found, if_pos le_rfl] at acceptedExpected
      have popped : Tracks receiver.popExpected delivered accepted
          (receiver.expectedSeq + 1) := by
        refine ⟨tracks.expectedSeq_nonneg, tracks.nonneg, tracks.below, ?_,
          ?_, tracks.assembled⟩
        · intro seq
          simp only [popExpected, Dict.get?_del, tracks.buffered]
          by_cases same : seq = receiver.expectedSeq
          · rw [if_pos same, if_neg (by omega)]
          · rw [if_neg same]
            exact if_congr (by omega) rfl rfl
        · intro seq member
          simp only [popExpected, Dict.mem_del] at member
          exact tracks.within seq member.2
      have step := inductionHypothesis
        (Tracks.takeInOrder popped acceptedExpected.symm)
      rw [RUDPReceiver.drain, found]
      simp only [← List.append_assoc]
      refine ⟨step.1, step.2.1, le_trans ?_ step.2.2⟩
      simp only [takeInOrder_expectedSeq, popExpected]
      omega

/-- The history of a run between two calls. -/
structure Run.Settled (run : Run) : Prop where
  tracks : Tracks run.receiver run.delivered run.accepted
    run.receiver.expectedSeq
  expectedSeq_not_mem : run.receiver.expectedSeq ∉ run.accepted

theorem Run.settled_start : Run.start.Settled where
  tracks :=
    { expectedSeq_nonneg := le_rfl
      nonneg := by simp [Run.start]
      below := by
        intro seq lower upper
        simp only [Run.start, new] at upper
        omega
      buffered := by
        intro seq
        exact (ite_self none).symm
      within := by simp [Run.start, new]
      assembled := rfl }
  expectedSeq_not_mem := by simp [Run.start]

/-- Between two calls the out-of-order buffer starts beyond the expected
number. -/
theorem Run.Settled.tracks_succ {run : Run} (settled : run.Settled) :
    Tracks run.receiver run.delivered run.accepted
      (run.receiver.expectedSeq + 1) := by
  have unexpected :=
    (run.accepted.get?_eq_none_iff _).mpr settled.expectedSeq_not_mem
  refine { settled.tracks with buffered := ?_ }
  intro seq
  rw [settled.tracks.buffered]
  by_cases same : seq = run.receiver.expectedSeq
  · subst same
    simp [unexpected]
  · exact if_congr (by omega) rfl rfl

/-- Flow control does not touch the window. -/
theorem updateFlowControl_frame (receiver : RUDPReceiver) :
    ∃ fcState stats, receiver.updateFlowControl =
      { receiver with fcState := fcState, stats := stats } := by
  unfold updateFlowControl
  simp only
  split
  · exact ⟨_, _, rfl⟩
  · split <;> exact ⟨_, _, rfl⟩

theorem Tracks.congr
    {receiver receiver' : RUDPReceiver} {delivered : List Bytes}
    {accepted : Dict Int RUDPPacket} {first : Int}
    (tracks : Tracks receiver delivered accepted first)
    (expectedSeq : receiver'.expectedSeq = receiver.expectedSeq)
    (oooBuffer : receiver'.oooBuffer = receiver.oooBuffer)
    (assemblyBuffer : receiver'.assemblyBuffer = receiver.assemblyBuffer) :
    Tracks receiver' delivered accepted first := by
  obtain ⟨_, _, _, _, _, _⟩ := tracks
  constructor <;> simp_all

/-- Accepting a segment at the expected number or beyond it changes neither
what was delivered nor what was assembled. -/
theorem Tracks.accept
    {receiver : RUDPReceiver} {delivered : List Bytes}
    {accepted buffer : Dict Int RUDPPacket} {first first' : Int}
    {segment : RUDPPacket}
    (tracks : Tracks receiver delivered accepted first)
    (notBefore : receiver.expectedSeq ≤ segment.seqNum)
    (buffered : ∀ seq, buffer.get? seq =
      if first' ≤ seq then (accepted.set segment.seqNum segment).get? seq
      else none)
    (within : ∀ seq, seq ∈ buffer → seq < receiver.expectedSeq + maxRwnd) :
    Tracks { receiver with oooBuffer := buffer } delivered
      (accepted.set segment.seqNum segment) first' where
  expectedSeq_nonneg := tracks.expectedSeq_nonneg
  nonneg := by
    have nonneg := tracks.expectedSeq_nonneg
    intro seq member
    rcases (Dict.mem_set _ _ _ _).mp member with rfl | earlier
    · omega
    · exact tracks.nonneg seq earlier
  below := by
    intro seq lower upper
    exact (Dict.mem_set _ _ _ _).mpr (.inr (tracks.below seq lower upper))
  buffered := buffered
  within := within
  assembled := by
    have nonneg := tracks.expectedSeq_nonneg
    have earlier : takenSegments (accepted.set segment.seqNum segment)
        receiver.expectedSeq.toNat =
          takenSegments accepted receiver.expectedSeq.toNat := by
      apply takenSegments_congr
      intro index upper
      exact Dict.get?_set_of_ne _ _ (by omega)
    rw [earlier]
    exact tracks.assembled

/-- The expected segment is accepted. -/
theorem Run.Settled.accept_expected
    {run : Run} (settled : run.Settled) {segment : RUDPPacket}
    (inOrder : segment.seqNum = run.receiver.expectedSeq) :
    Tracks run.receiver run.delivered
      (run.accepted.set segment.seqNum segment)
      (run.receiver.expectedSeq + 1) := by
  refine settled.tracks.accept inOrder.ge ?_ settled.tracks.within
  intro seq
  rw [settled.tracks_succ.buffered, Dict.get?_set]
  split
  · rw [if_neg (by omega)]
  · rfl

/-- A segment beyond the expected one is accepted into the out-of-order
buffer. -/
theorem Run.Settled.accept_outOfOrder
    {run : Run} (settled : run.Settled) {segment : RUDPPacket}
    (inside : InWindow run.receiver segment.seqNum)
    (outOfOrder : segment.seqNum ≠ run.receiver.expectedSeq) :
    Tracks
        { run.receiver with
          oooBuffer := run.receiver.oooBuffer.set segment.seqNum segment }
        run.delivered (run.accepted.set segment.seqNum segment)
        run.receiver.expectedSeq ∧
      run.receiver.expectedSeq ∉ run.accepted.set segment.seqNum segment := by
  have tracks := settled.tracks
  refine ⟨tracks.accept inside.1 ?_ ?_, ?_⟩
  · intro seq
    simp only [Dict.get?_set, tracks.buffered]
    split
    · next same =>
      rw [if_pos (same ▸ inside.1)]
    · rfl
  · intro seq member
    rcases (Dict.mem_set _ _ _ _).mp member with rfl | earlier
    · exact inside.2
    · exact tracks.within seq earlier
  · rw [Dict.mem_set]
    rintro (same | earlier)
    · exact outOfOrder same.symm
    · exact settled.expectedSeq_not_mem earlier

/-- What one received segment does to the history. -/
theorem Run.Settled.receiveSegment
    {run : Run} (settled : run.Settled) (segment : RUDPPacket) :
    Tracks (run.receiver.receiveSegment segment).1
        (run.delivered ++ (run.receiver.receiveSegment segment).2)
        (run.accept segment)
        (run.receiver.receiveSegment segment).1.expectedSeq ∧
      (run.receiver.receiveSegment segment).1.expectedSeq ∉
        run.accept segment ∧
      run.receiver.expectedSeq ≤
        (run.receiver.receiveSegment segment).1.expectedSeq := by
  have tracks := settled.tracks
  have unexpected := settled.expectedSeq_not_mem
  unfold RUDPReceiver.receiveSegment Run.accept InWindow
  simp only
  split
  · -- a duplicate
    rw [if_neg (by omega), List.append_nil]
    exact ⟨tracks.congr rfl rfl rfl, unexpected, le_rfl⟩
  · split
    · -- beyond the window
      next outside =>
      rw [if_neg (fun accepted => outside accepted.1), List.append_nil]
      exact ⟨tracks.congr rfl rfl rfl, unexpected, le_rfl⟩
    · next inside =>
      rw [not_not] at inside
      split
      · -- the expected segment
        next inOrder =>
        rw [if_pos ⟨inside, inOrder ▸ unexpected⟩]
        have acceptedHere : (run.accepted.set segment.seqNum segment).get?
            run.receiver.expectedSeq = some segment := by
          rw [← inOrder, Dict.get?_set_self]
        have advanced := settled.accept_expected inOrder
        have taken := advanced.takeInOrder acceptedHere
        have drained := taken.drain
        simp only [← List.append_assoc]
        refine ⟨drained.1, drained.2.1, le_trans ?_ drained.2.2⟩
        rw [takeInOrder_expectedSeq]
        omega
      · next outOfOrder =>
        have bufferedHere := tracks.buffered segment.seqNum
        rw [if_pos inside.1] at bufferedHere
        split
        · -- a segment to be buffered
          next absent =>
          have unaccepted : segment.seqNum ∉ run.accepted := by
            rw [← Dict.get?_eq_none_iff, ← bufferedHere,
              Dict.get?_eq_none_iff]
            exact absent
          rw [if_pos ⟨inside, unaccepted⟩, List.append_nil]
          obtain ⟨later, stillUnexpected⟩ :=
            settled.accept_outOfOrder inside outOfOrder
          exact ⟨later.congr rfl rfl rfl, stillUnexpected, le_rfl⟩
        · -- a segment that is already buffered
          next present =>
          rw [not_not] at present
          have accepted : segment.seqNum ∈ run.accepted := by
            rw [Dict.mem_iff_exists_get?] at present ⊢
            rwa [← bufferedHere]
          rw [if_neg (fun fresh => fresh.2 accepted), List.append_nil]
          exact ⟨tracks, unexpected, le_rfl⟩

/-- Step lemma: processing any segment keeps the history in agreement. -/
theorem Run.Settled.next
    {run : Run} (settled : run.Settled) (segment : RUDPPacket) :
    (run.next segment).Settled := by
  obtain ⟨tracks, unexpected, _⟩ := settled.receiveSegment segment
  obtain ⟨_, _, updated⟩ :=
    updateFlowControl_frame (run.receiver.receiveSegment segment).1
  constructor
  · simp only [Run.next, processSegment, updated]
    exact tracks.congr rfl rfl rfl
  · simp only [Run.next, processSegment, updated]
    exact unexpected

/-- The expected number never decreases. -/
theorem Run.Settled.expectedSeq_le_next
    {run : Run} (settled : run.Settled) (segment : RUDPPacket) :
    run.receiver.expectedSeq ≤ (run.next segment).receiver.expectedSeq := by
  obtain ⟨_, _, mono⟩ := settled.receiveSegment segment
  obtain ⟨_, _, updated⟩ :=
    updateFlowControl_frame (run.receiver.receiveSegment segment).1
  simp only [Run.next, processSegment, updated]
  exact mono

/-- Run lemma: the history agrees with the state after any segments. -/
theorem Run.settled_after (segments : List RUDPPacket) :
    (Run.after segments).Settled := by
  induction segments using List.reverseRecOn with
  | nil => exact Run.settled_start
  | append_singleton segments segment inductionHypothesis =>
      rw [Run.after_append_singleton]
      exact inductionHypothesis.next segment

/-! ## Consequences of the invariant -/

namespace Run.Settled

variable {run : Run}

/-- The expected number is the least one not accepted. -/
theorem isLeast_expectedSeq (settled : run.Settled) :
    IsLeast {seq : Int | 0 ≤ seq ∧ seq ∉ run.accepted}
      run.receiver.expectedSeq := by
  refine ⟨⟨settled.tracks.expectedSeq_nonneg, settled.expectedSeq_not_mem⟩, ?_⟩
  rintro seq ⟨lower, unaccepted⟩
  by_contra smaller
  exact unaccepted (settled.tracks.below seq lower (not_le.mp smaller))

/-- The out-of-order buffer holds what was accepted beyond the expected
number. -/
theorem mem_oooBuffer_iff (settled : run.Settled) (seq : Int) :
    seq ∈ run.receiver.oooBuffer ↔
      seq ∈ run.accepted ∧ run.receiver.expectedSeq < seq := by
  simp only [Dict.mem_iff_exists_get?, settled.tracks_succ.buffered]
  constructor
  · rintro ⟨segment, found⟩
    split at found
    · exact ⟨⟨segment, found⟩, by omega⟩
    · exact absurd found (by simp)
  · rintro ⟨⟨segment, found⟩, beyond⟩
    exact ⟨segment, by rw [if_pos (by omega), found]⟩

theorem lt_of_mem_oooBuffer (settled : run.Settled) {seq : Int}
    (member : seq ∈ run.receiver.oooBuffer) :
    run.receiver.expectedSeq < seq ∧
      seq < run.receiver.expectedSeq + maxRwnd :=
  ⟨((settled.mem_oooBuffer_iff seq).mp member).2,
    settled.tracks.within seq member⟩

/-- The out-of-order buffer never fills the whole window. -/
theorem size_oooBuffer_lt (settled : run.Settled) :
    run.receiver.oooBuffer.size < maxRwnd := by
  have within := Dict.size_le_card_of_mem
    (Finset.Ioo run.receiver.expectedSeq
      (run.receiver.expectedSeq + maxRwnd))
    (fun seq member => Finset.mem_Ioo.mpr
      (settled.lt_of_mem_oooBuffer member))
  rw [Int.card_Ioo] at within
  simp only [maxRwnd] at within ⊢
  omega

/-- The payloads accepted below the expected number, in order. -/
theorem contents (settled : run.Settled) :
    run.delivered.flatten ++ run.receiver.assemblyBuffer =
      ((List.range run.receiver.expectedSeq.toNat).map fun index : Nat =>
        (run.accepted.get? (index : Int)).elim [] RUDPPacket.payload).flatten := by
  have fed := congrArg Reassembly.contents settled.tracks.assembled
  rw [Reassembly.contents_feedAll] at fed
  simp only [Reassembly.contents, Reassembly.start, List.flatten_nil,
    List.nil_append] at fed
  rw [fed, takenSegments, List.map_filterMap]
  congr 1
  rw [← List.filterMap_eq_map]
  apply List.filterMap_congr
  intro index member
  have accepted := settled.tracks.below index (by omega)
    (by have := List.mem_range.mp member; omega)
  obtain ⟨segment, found⟩ := (run.accepted.mem_iff_exists_get? _).mp accepted
  simp [found, RUDPPacket.segment]

end Run.Settled

theorem Run.expectedSeq_mono
    {earlier segments : List RUDPPacket}
    (isPrefix : earlier <+: segments) :
    (Run.after earlier).receiver.expectedSeq ≤
      (Run.after segments).receiver.expectedSeq := by
  obtain ⟨later, rfl⟩ := isPrefix
  induction later using List.reverseRecOn with
  | nil => rw [List.append_nil]
  | append_singleton later segment inductionHypothesis =>
      rw [← List.append_assoc, Run.after_append_singleton]
      exact inductionHypothesis.trans
        ((Run.settled_after _).expectedSeq_le_next segment)

/-- A segment with a fresh number in the window is accepted. -/
theorem Run.mem_accept
    {run : Run} {segment : RUDPPacket}
    (inside : run.receiver.InWindow segment.seqNum) :
    segment.seqNum ∈ run.accept segment := by
  unfold Run.accept
  split
  · exact (Dict.mem_set _ _ _ _).mpr (.inl rfl)
  · next rejected =>
      by_contra absent
      exact rejected ⟨inside, absent⟩

/-- Whatever is accepted was accepted before or is the segment at hand. -/
theorem Run.get?_accept
    {run : Run} {segment accepted : RUDPPacket} {seq : Int}
    (found : (run.accept segment).get? seq = some accepted) :
    run.accepted.get? seq = some accepted ∨
      (seq = segment.seqNum ∧ accepted = segment) := by
  unfold Run.accept at found
  split at found
  · rw [Dict.get?_set] at found
    split at found
    · next same =>
        exact .inr ⟨same, (Option.some.inj found).symm⟩
    · exact .inl found
  · exact .inl found

/-- The expected segment moves the expected number. -/
theorem Run.Settled.expectedSeq_lt_next
    {run : Run} (settled : run.Settled) {segment : RUDPPacket}
    (inOrder : segment.seqNum = run.receiver.expectedSeq) :
    run.receiver.expectedSeq < (run.next segment).receiver.expectedSeq := by
  have inside : run.receiver.InWindow segment.seqNum := by
    simp only [InWindow, inOrder, maxRwnd]
    omega
  refine lt_of_le_of_ne (settled.expectedSeq_le_next segment) ?_
  intro same
  apply (settled.next segment).expectedSeq_not_mem
  rw [← same, ← inOrder]
  exact Run.mem_accept inside

/-! ## The drop counter -/

@[simp] theorem takeInOrder_drop
    (receiver : RUDPReceiver) (segment : RUDPPacket) :
    (receiver.takeInOrder segment).1.stats.drop = receiver.stats.drop := by
  unfold takeInOrder
  split <;> rfl

@[simp] theorem drain_drop (receiver : RUDPReceiver) :
    receiver.drain.1.stats.drop = receiver.stats.drop := by
  induction receiver using drain.induct with
  | case1 receiver missing => rw [drain, missing]
  | case2 receiver bufferedSegment found inductionHypothesis =>
      rw [drain, found]
      simpa [popExpected] using inductionHypothesis

@[simp] theorem updateFlowControl_drop (receiver : RUDPReceiver) :
    receiver.updateFlowControl.stats.drop = receiver.stats.drop := by
  unfold updateFlowControl
  simp only
  split
  · rfl
  · split <;> rfl

/-- Only a segment beyond the window counts as dropped. -/
theorem processSegment_drop
    (receiver : RUDPReceiver) {segment : RUDPPacket}
    (inside : segment.seqNum < receiver.expectedSeq + maxRwnd) :
    (receiver.processSegment segment).receiver.stats.drop =
      receiver.stats.drop := by
  simp only [processSegment, updateFlowControl_drop, receiveSegment]
  split
  · rfl
  · split
    · omega
    · split
      · simp
      · split <;> rfl

/-! ## Acknowledgements -/

/-- The acknowledgement of a segment reports the state it leaves. -/
theorem processSegment_ack (receiver : RUDPReceiver) (segment : RUDPPacket) :
    let result := receiver.processSegment segment
    result.ackNum = result.receiver.expectedSeq ∧
      result.rwnd = max 0 (maxRwnd - result.receiver.oooBuffer.size : Int) ∧
      result.flags = flagAck := by
  obtain ⟨_, _, updated⟩ :=
    updateFlowControl_frame (receiver.receiveSegment segment).1
  simp only [processSegment, updated, and_self]

/-- The window a settled receiver advertises is what its buffer leaves free,
which is never nothing. -/
theorem Run.Settled.advertised
    {run : Run} (settled : run.Settled) (segment : RUDPPacket) :
    let result := run.receiver.processSegment segment
    result.rwnd = maxRwnd - (run.next segment).receiver.oooBuffer.size ∧
      1 ≤ result.rwnd ∧ result.rwnd ≤ maxRwnd := by
  have bounded := (settled.next segment).size_oooBuffer_lt
  have advertised := (run.receiver.processSegment_ack segment).2.1
  simp only [Run.next, maxRwnd] at bounded advertised ⊢
  omega

/-- Receive window and acknowledgement after any sequence of segments. -/
theorem processSegment_window
    (segments : List RUDPPacket) (segment : RUDPPacket) :
    let result := (Run.after segments).receiver.processSegment segment
    let run := Run.after (segments ++ [segment])
    run.receiver = result.receiver ∧
      IsLeast {seq : Int | 0 ≤ seq ∧ seq ∉ run.accepted}
        run.receiver.expectedSeq ∧
      result.ackNum = run.receiver.expectedSeq ∧
      (∀ seq, seq ∈ run.receiver.oooBuffer ↔
        seq ∈ run.accepted ∧ run.receiver.expectedSeq < seq) ∧
      (∀ seq, seq ∈ run.receiver.oooBuffer →
        run.receiver.expectedSeq < seq ∧
          seq < run.receiver.expectedSeq + maxRwnd) ∧
      (result.rwnd = maxRwnd - run.receiver.oooBuffer.size ∧
        1 ≤ result.rwnd ∧ result.rwnd ≤ maxRwnd) ∧
      (∀ earlier, earlier <+: segments →
        (Run.after earlier).receiver.expectedSeq ≤ result.ackNum) ∧
      run.delivered.flatten ++ run.receiver.assemblyBuffer =
        ((List.range run.receiver.expectedSeq.toNat).map
          fun index : Nat => (run.accepted.get? (index : Int)).elim []
            RUDPPacket.payload).flatten := by
  intro result run
  have stepped : run = (Run.after segments).next segment :=
    Run.after_append_singleton segments segment
  have settled : run.Settled := Run.settled_after _
  have ackNum : result.ackNum = run.receiver.expectedSeq := by
    rw [stepped]
    exact (processSegment_ack _ segment).1
  refine ⟨by rw [stepped]; rfl, settled.isLeast_expectedSeq, ackNum,
    settled.mem_oooBuffer_iff, fun seq => settled.lt_of_mem_oooBuffer, ?_,
    ?_, settled.contents⟩
  · rw [stepped]
    exact (Run.settled_after segments).advertised segment
  · intro earlier isPrefix
    rw [ackNum]
    exact Run.expectedSeq_mono (isPrefix.trans (List.prefix_append _ _))

end RUDPReceiver

end RudpAgentStack

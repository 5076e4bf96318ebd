import RudpAgentStack.Rudp.ReceiverWindow

/-!
# Flow control of the receiver

The receiver throttles when its out-of-order buffer reaches the high threshold
and returns to normal when the buffer has shrunk to the low one.  One call may
drain any number of buffered segments.  The history kept here is the list of
segments the drain loop has taken out, call after call; state, buffer and
counters are tied to it.
-/

namespace RudpAgentStack

open Foundation

namespace RUDPReceiver

/-! ## Hysteresis -/

/-- The part of a receiver that flow control reads and writes, apart from the
buffer. -/
structure FlowState where
  fcState : FCState
  highThreshold : Int
  lowThreshold : Int
  fcThrottle : Nat
  fcNormal : Nat

/-- The flow control of a receiver. -/
def flowState (receiver : RUDPReceiver) : FlowState where
  fcState := receiver.fcState
  highThreshold := receiver.highThreshold
  lowThreshold := receiver.lowThreshold
  fcThrottle := receiver.stats.fcThrottle
  fcNormal := receiver.stats.fcNormal

namespace FlowState

/-- A switch with two thresholds: it throttles from the high one on, returns to
normal from the low one down and counts both. -/
def update (flow : FlowState) (bufferUsed : Int) : FlowState :=
  if flow.fcState = .normal ∧ flow.highThreshold ≤ bufferUsed then
    { flow with fcState := .throttle, fcThrottle := flow.fcThrottle + 1 }
  else if flow.fcState = .throttle ∧ bufferUsed ≤ flow.lowThreshold then
    { flow with fcState := .normal, fcNormal := flow.fcNormal + 1 }
  else flow

/-- The changes to throttling that have not been undone. -/
def surplus : FCState → Int
  | .throttle => 1
  | .normal => 0

/-- The thresholds are apart, and the counters agree with the state. -/
structure Counted (flow : FlowState) : Prop where
  apart : flow.lowThreshold < flow.highThreshold
  surplus : (flow.fcThrottle : Int) - flow.fcNormal = surplus flow.fcState

variable {flow : FlowState} {bufferUsed : Int}

theorem update_thresholds (flow : FlowState) (bufferUsed : Int) :
    (flow.update bufferUsed).highThreshold = flow.highThreshold ∧
      (flow.update bufferUsed).lowThreshold = flow.lowThreshold := by
  unfold FlowState.update
  split
  · exact ⟨rfl, rfl⟩
  · split <;> exact ⟨rfl, rfl⟩

theorem Counted.update (counted : Counted flow) (bufferUsed : Int) :
    Counted (flow.update bufferUsed) := by
  have surplus := counted.surplus
  unfold FlowState.update
  split
  · next throttles =>
      rw [throttles.1] at surplus
      refine ⟨counted.apart, ?_⟩
      simp only [FlowState.surplus] at surplus ⊢
      omega
  · split
    · next relaxes =>
        rw [relaxes.1] at surplus
        refine ⟨counted.apart, ?_⟩
        simp only [FlowState.surplus] at surplus ⊢
        omega
    · exact counted

theorem update_of_high (counted : Counted flow)
    (high : flow.highThreshold ≤ bufferUsed) :
    (flow.update bufferUsed).fcState = .throttle := by
  have apart := counted.apart
  unfold FlowState.update
  cases state : flow.fcState with
  | normal => rw [if_pos ⟨rfl, high⟩]
  | throttle =>
      rw [if_neg (by simp), if_neg (by omega)]
      exact state

theorem update_of_low (counted : Counted flow)
    (low : bufferUsed ≤ flow.lowThreshold) :
    (flow.update bufferUsed).fcState = .normal := by
  have apart := counted.apart
  unfold FlowState.update
  cases state : flow.fcState with
  | normal =>
      rw [if_neg (by omega), if_neg (by simp)]
      exact state
  | throttle => rw [if_neg (by simp), if_pos ⟨rfl, low⟩]

/-- Between the thresholds the switch stays as it is. -/
theorem update_between
    (aboveLow : flow.lowThreshold < bufferUsed)
    (belowHigh : bufferUsed < flow.highThreshold) :
    flow.update bufferUsed = flow := by
  unfold FlowState.update
  rw [if_neg (by omega), if_neg (by omega)]

end FlowState

/-- Flow control is the switch, applied to the length of the buffer. -/
@[simp] theorem flowState_updateFlowControl (receiver : RUDPReceiver) :
    receiver.updateFlowControl.flowState =
      receiver.flowState.update receiver.oooBuffer.size := by
  unfold updateFlowControl
  simp only
  rw [apply_ite flowState, apply_ite flowState]
  rfl

@[simp] theorem oooBuffer_updateFlowControl (receiver : RUDPReceiver) :
    receiver.updateFlowControl.oooBuffer = receiver.oooBuffer := by
  obtain ⟨_, _, updated⟩ := updateFlowControl_frame receiver
  rw [updated]

@[simp] theorem flowState_takeInOrder
    (receiver : RUDPReceiver) (segment : RUDPPacket) :
    (receiver.takeInOrder segment).1.flowState = receiver.flowState := by
  unfold takeInOrder
  split <;> rfl

@[simp] theorem flowState_drain (receiver : RUDPReceiver) :
    receiver.drain.1.flowState = receiver.flowState := by
  induction receiver using drain.induct with
  | case1 receiver missing => rw [drain, missing]
  | case2 receiver bufferedSegment found inductionHypothesis =>
      rw [drain, found]
      rw [inductionHypothesis, flowState_takeInOrder]
      rfl

/-- Receiving a segment leaves flow control to the end of the call. -/
@[simp] theorem flowState_receiveSegment
    (receiver : RUDPReceiver) (segment : RUDPPacket) :
    (receiver.receiveSegment segment).1.flowState = receiver.flowState := by
  simp only [receiveSegment]
  split
  · rfl
  · split
    · rfl
    · split
      · rw [flowState_drain, flowState_takeInOrder]
      · split <;> rfl

/-! ## Counting segments -/

/-- The segments the drain loop takes out of the buffer. -/
def drainedSegments (receiver : RUDPReceiver) : List RUDPPacket :=
  match _found : receiver.oooBuffer.get? receiver.expectedSeq with
  | none => []
  | some bufferedSegment =>
      bufferedSegment ::
        drainedSegments (receiver.popExpected.takeInOrder bufferedSegment).1
termination_by receiver.oooBuffer.size
decreasing_by
  simp only [takeInOrder_oooBuffer, popExpected]
  exact Dict.size_del_lt (Dict.mem_of_get? _found)

theorem takeInOrder_contents
    (receiver : RUDPReceiver) (segment : RUDPPacket) :
    (receiver.takeInOrder segment).2.flatten ++
        (receiver.takeInOrder segment).1.assemblyBuffer =
      receiver.assemblyBuffer ++ segment.payload := by
  unfold takeInOrder
  split <;> simp

/-- The drain loop delivers or assembles the payloads of the segments it takes
out, in order. -/
theorem drain_contents (receiver : RUDPReceiver) :
    receiver.drain.2.flatten ++ receiver.drain.1.assemblyBuffer =
      receiver.assemblyBuffer ++
        receiver.drainedSegments.flatMap RUDPPacket.payload := by
  induction receiver using drain.induct with
  | case1 receiver missing =>
      rw [drain, drainedSegments, missing]
      simp
  | case2 receiver bufferedSegment found inductionHypothesis =>
      have taken :=
        receiver.popExpected.takeInOrder_contents bufferedSegment
      rw [drain, drainedSegments, found]
      simp only [List.flatten_append, List.flatMap_cons, List.append_assoc]
      rw [inductionHypothesis, ← List.append_assoc, taken, List.append_assoc]
      rfl

/-- The segments one call delivers out of the buffer: only the expected
segment starts the drain loop. -/
def deliveredOutOfBuffer
    (receiver : RUDPReceiver) (segment : RUDPPacket) : List RUDPPacket :=
  if segment.seqNum = receiver.expectedSeq then
    (receiver.takeInOrder segment).1.drainedSegments
  else []

/-- The counters agree with what was delivered: everything below the expected
number, `fromBuffer` segments of it out of the buffer. -/
structure Accounts (receiver : RUDPReceiver) (fromBuffer : Nat) : Prop where
  delivered : (receiver.stats.delivered : Int) = receiver.expectedSeq
  buffered :
    receiver.stats.buffered = receiver.oooBuffer.size + fromBuffer

namespace Accounts

variable {receiver : RUDPReceiver} {fromBuffer : Nat}

theorem takeInOrder (accounts : Accounts receiver fromBuffer)
    (segment : RUDPPacket) :
    Accounts (receiver.takeInOrder segment).1 fromBuffer := by
  have delivered := accounts.delivered
  constructor
  · rw [takeInOrder_expectedSeq]
    unfold RUDPReceiver.takeInOrder
    split
    · simp only
      omega
    · simp only
      omega
  · rw [takeInOrder_oooBuffer, ← accounts.buffered]
    unfold RUDPReceiver.takeInOrder
    split <;> rfl

/-- A segment popped from the buffer moves from one side of the account to the
other. -/
theorem popExpected (accounts : Accounts receiver fromBuffer)
    {bufferedSegment : RUDPPacket}
    (found : receiver.oooBuffer.get? receiver.expectedSeq =
      some bufferedSegment) :
    Accounts receiver.popExpected (fromBuffer + 1) := by
  have popped := Dict.size_del_add_one (Dict.mem_of_get? found)
  have buffered := accounts.buffered
  refine ⟨accounts.delivered, ?_⟩
  simp only [RUDPReceiver.popExpected]
  omega

theorem drain (accounts : Accounts receiver fromBuffer) :
    Accounts receiver.drain.1
      (fromBuffer + receiver.drainedSegments.length) := by
  induction receiver using RUDPReceiver.drain.induct
    generalizing fromBuffer with
  | case1 receiver missing =>
      rw [RUDPReceiver.drain, drainedSegments, missing]
      exact accounts
  | case2 receiver bufferedSegment found inductionHypothesis =>
      have taken := inductionHypothesis
        ((accounts.popExpected found).takeInOrder bufferedSegment)
      rw [RUDPReceiver.drain, drainedSegments, found]
      rw [List.length_cons]
      rwa [show ∀ count, fromBuffer + 1 + count = fromBuffer + (count + 1) by
        omega] at taken

/-- Receiving a segment keeps the accounts, with what it delivers out of the
buffer added. -/
theorem receiveSegment (accounts : Accounts receiver fromBuffer)
    (segment : RUDPPacket) :
    Accounts (receiver.receiveSegment segment).1
      (fromBuffer + (receiver.deliveredOutOfBuffer segment).length) := by
  have buffered := accounts.buffered
  simp only [RUDPReceiver.receiveSegment, deliveredOutOfBuffer]
  split
  · -- a duplicate
    rw [if_neg (by omega)]
    exact ⟨accounts.delivered, accounts.buffered⟩
  · split
    · -- beyond the window
      next outside =>
      rw [if_neg (fun inOrder => outside (by
        simp only [inOrder, maxRwnd]
        omega))]
      exact ⟨accounts.delivered, accounts.buffered⟩
    · split
      · exact (accounts.takeInOrder segment).drain
      · split
        · next absent =>
          refine ⟨accounts.delivered, ?_⟩
          simp only [Dict.size_set_of_not_mem absent, List.length_nil]
          omega
        · exact accounts

/-- The counters of `updateFlowControl` are others. -/
theorem updateFlowControl (accounts : Accounts receiver fromBuffer) :
    Accounts receiver.updateFlowControl fromBuffer := by
  simp only [RUDPReceiver.updateFlowControl]
  split
  · exact ⟨accounts.delivered, accounts.buffered⟩
  · split <;> exact ⟨accounts.delivered, accounts.buffered⟩

end Accounts

namespace Run

/-- The segments delivered out of the buffer while a run goes on. -/
def outOfBufferFrom (run : Run) : List RUDPPacket → List RUDPPacket
  | [] => []
  | segment :: segments =>
      run.receiver.deliveredOutOfBuffer segment ++
        (run.next segment).outOfBufferFrom segments

/-- The segments a new receiver delivers out of its buffer. -/
def outOfBuffer (segments : List RUDPPacket) : List RUDPPacket :=
  start.outOfBufferFrom segments

theorem outOfBufferFrom_append
    (run : Run) (segments later : List RUDPPacket) :
    run.outOfBufferFrom (segments ++ later) =
      run.outOfBufferFrom segments ++
        (segments.foldl next run).outOfBufferFrom later := by
  induction segments generalizing run with
  | nil => rfl
  | cons segment segments inductionHypothesis =>
      rw [List.cons_append, outOfBufferFrom, outOfBufferFrom,
        inductionHypothesis, List.append_assoc]
      rfl

theorem outOfBuffer_append_singleton
    (segments : List RUDPPacket) (segment : RUDPPacket) :
    outOfBuffer (segments ++ [segment]) =
      outOfBuffer segments ++
        (after segments).receiver.deliveredOutOfBuffer segment := by
  rw [outOfBuffer, outOfBufferFrom_append, outOfBufferFrom, outOfBufferFrom,
    List.append_nil]
  rfl

/-- Run lemma: the counters account for everything delivered. -/
theorem accounts_after (segments : List RUDPPacket) :
    Accounts (after segments).receiver (outOfBuffer segments).length := by
  induction segments using List.reverseRecOn with
  | nil => exact ⟨rfl, rfl⟩
  | append_singleton segments segment inductionHypothesis =>
      rw [after_append_singleton, outOfBuffer_append_singleton,
        List.length_append]
      exact (inductionHypothesis.receiveSegment segment).updateFlowControl

/-- One call is a step of the switch, at the length of the buffer it leaves. -/
theorem flowState_next (run : Run) (segment : RUDPPacket) :
    (run.next segment).receiver.flowState =
      run.receiver.flowState.update
        (run.next segment).receiver.oooBuffer.size := by
  simp [next, processSegment]

/-- Run lemma: the changes of the flow control state are counted. -/
theorem counted_after (segments : List RUDPPacket) :
    FlowState.Counted (after segments).receiver.flowState := by
  induction segments using List.reverseRecOn with
  | nil => exact ⟨by decide +kernel, rfl⟩
  | append_singleton segments segment inductionHypothesis =>
      rw [after_append_singleton, flowState_next]
      exact inductionHypothesis.update _

/-- After every call the receiver throttles at the high threshold, is normal
at the low one and as before between them; the changes of its state are
counted, everything below the expected number counts as delivered, and what
was buffered is in the buffer or was delivered out of it. -/
theorem flow_controlled (segments : List RUDPPacket) (segment : RUDPPacket) :
    let before := (after segments).receiver
    let receiver := (after (segments ++ [segment])).receiver
    let bufferUsed : Int := receiver.oooBuffer.size
    (receiver.highThreshold ≤ bufferUsed → receiver.fcState = .throttle) ∧
      (bufferUsed ≤ receiver.lowThreshold → receiver.fcState = .normal) ∧
      (receiver.lowThreshold < bufferUsed →
        bufferUsed < receiver.highThreshold →
        receiver.fcState = before.fcState) ∧
      (receiver.stats.fcThrottle : Int) - receiver.stats.fcNormal =
        FlowState.surplus receiver.fcState ∧
      receiver.stats.delivered = receiver.expectedSeq ∧
      (receiver.stats.buffered : Int) - bufferUsed =
        (outOfBuffer (segments ++ [segment])).length := by
  intro before receiver bufferUsed
  have stepped : receiver = ((after segments).next segment).receiver := by
    rw [← after_append_singleton]
  have counted := counted_after segments
  have flow : receiver.flowState = before.flowState.update bufferUsed := by
    rw [stepped, flowState_next, ← stepped]
  have fcState : receiver.fcState =
      (before.flowState.update bufferUsed).fcState :=
    congrArg FlowState.fcState flow
  have thresholds := before.flowState.update_thresholds bufferUsed
  rw [← flow] at thresholds
  have accounts := accounts_after (segments ++ [segment])
  refine ⟨?_, ?_, ?_, (counted_after (segments ++ [segment])).surplus,
    accounts.delivered, ?_⟩
  · intro high
    rw [fcState]
    exact FlowState.update_of_high counted (thresholds.1 ▸ high)
  · intro low
    rw [fcState]
    exact FlowState.update_of_low counted (thresholds.2 ▸ low)
  · intro aboveLow belowHigh
    rw [fcState, FlowState.update_between (thresholds.2 ▸ aboveLow)
      (thresholds.1 ▸ belowHigh)]
    rfl
  · have buffered : receiver.stats.buffered =
        receiver.oooBuffer.size +
          (outOfBuffer (segments ++ [segment])).length := accounts.buffered
    simp only [bufferUsed]
    omega

end Run

end RUDPReceiver

end RudpAgentStack

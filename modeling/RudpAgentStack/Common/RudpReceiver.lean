import RudpAgentStack.Common.Constants
import RudpAgentStack.Common.RudpPacket
import RudpAgentStack.Foundation.Dict
import Mathlib.Data.Rat.Floor

/-!
# The RUDP receiver

The state machine of `common/rudp_receiver.py` with a delivery callback that
does not raise.  Processing a segment returns the new state, the messages
passed to `deliver_callback` in order, and the parameters of the
acknowledgement.
-/

namespace RudpAgentStack

open Foundation

/-- Flow control states. -/
inductive FCState
  | normal
  | throttle
  deriving DecidableEq

/-- The counters of a receiver. -/
structure ReceiverStats where
  delivered : Nat := 0
  buffered : Nat := 0
  dup : Nat := 0
  drop : Nat := 0
  dropInvalid : Nat := 0
  fcThrottle : Nat := 0
  fcNormal : Nat := 0
  deriving DecidableEq

/-- State of an `RUDPReceiver`. -/
structure RUDPReceiver where
  /-- Next in-order sequence number to deliver. -/
  expectedSeq : Int
  /-- Segments received ahead of order. -/
  oooBuffer : Dict Int RUDPPacket
  /-- Contents of the message under way. -/
  assemblyBuffer : Bytes
  fcState : FCState
  highThreshold : Int
  lowThreshold : Int
  stats : ReceiverStats
  deriving DecidableEq

/-- What processing a segment returns. -/
structure ReceiverResult where
  receiver : RUDPReceiver
  /-- The messages passed to `deliver_callback`. -/
  delivered : List Bytes
  ackNum : Int
  rwnd : Int
  flags : Int

/-- The acknowledgement both transports build from a result. -/
def ReceiverResult.ackPacket (result : ReceiverResult) : RUDPPacket where
  seqNum := 0
  ackNum := result.ackNum
  flags := result.flags
  rwnd := result.rwnd

namespace RUDPReceiver

/-- `__init__` -/
def new : RUDPReceiver where
  expectedSeq := 0
  oooBuffer := .empty
  assemblyBuffer := []
  fcState := .normal
  highThreshold := (highWatermark * maxRwnd).ceil
  lowThreshold := (lowWatermark * maxRwnd).ceil
  stats := {}

/-- Append an in-order segment to the assembly buffer, delivering the buffer
when the segment ends its message. -/
def takeInOrder (receiver : RUDPReceiver) (segment : RUDPPacket) :
    RUDPReceiver × List Bytes :=
  let assembled := receiver.assemblyBuffer ++ segment.payload
  let stats := { receiver.stats with
    delivered := receiver.stats.delivered + 1 }
  if segment.isFin then
    ({ receiver with
        assemblyBuffer := []
        expectedSeq := receiver.expectedSeq + 1
        stats := stats }, [assembled])
  else
    ({ receiver with
        assemblyBuffer := assembled
        expectedSeq := receiver.expectedSeq + 1
        stats := stats }, [])

/-- Remove the expected segment from the out-of-order buffer. -/
def popExpected (receiver : RUDPReceiver) : RUDPReceiver :=
  { receiver with
    oooBuffer := receiver.oooBuffer.del receiver.expectedSeq }

@[simp] theorem takeInOrder_oooBuffer
    (receiver : RUDPReceiver) (segment : RUDPPacket) :
    (receiver.takeInOrder segment).1.oooBuffer = receiver.oooBuffer := by
  unfold takeInOrder
  split <;> rfl

@[simp] theorem takeInOrder_expectedSeq
    (receiver : RUDPReceiver) (segment : RUDPPacket) :
    (receiver.takeInOrder segment).1.expectedSeq =
      receiver.expectedSeq + 1 := by
  unfold takeInOrder
  split <;> rfl

/-- The loop that drains contiguous buffered segments. -/
def drain (receiver : RUDPReceiver) : RUDPReceiver × List Bytes :=
  match _found : receiver.oooBuffer.get? receiver.expectedSeq with
  | none => (receiver, [])
  | some bufferedSegment =>
      let rest := drain (receiver.popExpected.takeInOrder bufferedSegment).1
      (rest.1,
        (receiver.popExpected.takeInOrder bufferedSegment).2 ++ rest.2)
termination_by receiver.oooBuffer.size
decreasing_by
  simp only [takeInOrder_oooBuffer, popExpected]
  exact Dict.size_del_lt (Dict.mem_of_get? _found)

/-- The part of `process_segment` before the acknowledgement is computed:
duplicates and segments beyond the window are counted, the expected segment is
taken and the buffer drained, other segments in the window are buffered. -/
def receiveSegment (receiver : RUDPReceiver) (segment : RUDPPacket) :
    RUDPReceiver × List Bytes :=
  let seq := segment.seqNum
  if seq < receiver.expectedSeq then
    ({ receiver with
        stats := { receiver.stats with dup := receiver.stats.dup + 1 } }, [])
  else if ¬ (receiver.expectedSeq ≤ seq ∧
      seq < receiver.expectedSeq + maxRwnd) then
    ({ receiver with
        stats := { receiver.stats with drop := receiver.stats.drop + 1 } }, [])
  else if seq = receiver.expectedSeq then
    let taken := receiver.takeInOrder segment
    let drained := drain taken.1
    (drained.1, taken.2 ++ drained.2)
  else if seq ∉ receiver.oooBuffer then
    ({ receiver with
        oooBuffer := receiver.oooBuffer.set seq segment
        stats := { receiver.stats with
          buffered := receiver.stats.buffered + 1 } }, [])
  else (receiver, [])

/-- The hysteresis of the flow control state. -/
def updateFlowControl (receiver : RUDPReceiver) : RUDPReceiver :=
  let bufferUsed : Int := receiver.oooBuffer.size
  if receiver.fcState = .normal ∧ receiver.highThreshold ≤ bufferUsed then
    { receiver with
      fcState := .throttle
      stats := { receiver.stats with
        fcThrottle := receiver.stats.fcThrottle + 1 } }
  else if receiver.fcState = .throttle ∧
      bufferUsed ≤ receiver.lowThreshold then
    { receiver with
      fcState := .normal
      stats := { receiver.stats with
        fcNormal := receiver.stats.fcNormal + 1 } }
  else receiver

/-- `process_segment` -/
def processSegment (receiver : RUDPReceiver) (segment : RUDPPacket) :
    ReceiverResult :=
  let received := receiver.receiveSegment segment
  { receiver := received.1.updateFlowControl
    delivered := received.2
    ackNum := received.1.expectedSeq
    rwnd := max 0 (maxRwnd - received.1.oooBuffer.size)
    flags := flagAck }

end RUDPReceiver

end RudpAgentStack

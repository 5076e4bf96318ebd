import RudpAgentStack.Common.Constants
import RudpAgentStack.Common.RudpPacket
import RudpAgentStack.Foundation.Dict
import RudpAgentStack.Foundation.Framing
import Mathlib.Data.Rat.Floor

/-!
# The RUDP sender

The state machine of `common/rudp_sender.py`.  Every operation returns the new
state together with the packets it handed to `send_callback(packet.pack())`, in
order.  A packet that does not pack is handed over all the same: the source
catches and logs the exception after the packet has entered the unacked map.
Times, windows in bytes and the timeout are exact rational numbers.
-/

namespace RudpAgentStack

open Foundation

/-- Congestion control states. -/
inductive CCState
  | slowStart
  | avoidance
  | fastRecovery
  deriving DecidableEq

/-- The record kept for a segment in flight. -/
structure UnackedPacket where
  packet : RUDPPacket
  sentTime : ℚ
  isRetransmitted : Bool
  deriving DecidableEq

/-- The smoothed round-trip time and its variation.  The source sets `srtt` and
`rttvar` together, so they are present or absent together. -/
structure RttEstimate where
  srtt : ℚ
  rttvar : ℚ
  deriving DecidableEq

/-- State of an `RUDPSender`. -/
structure RUDPSender where
  rto : ℚ
  base : Int
  nextSeq : Int
  ccState : CCState
  cwnd : ℚ
  ssthresh : ℚ
  dupAckCount : Int
  lastAckReceived : Int
  inflightBytes : Int
  peerRwnd : Int
  effectiveWindow : Int
  rtt : Option RttEstimate
  minRto : ℚ
  maxRto : ℚ
  unackedPackets : Dict Int UnackedPacket
  sendBuffer : List RUDPPacket
  deriving DecidableEq

namespace RUDPSender

/-- `__init__` -/
def new (windowSize : Int) : RUDPSender where
  rto := initialRto
  base := 0
  nextSeq := 0
  ccState := .slowStart
  cwnd := initialCwnd
  ssthresh := initialSsthresh
  dupAckCount := 0
  lastAckReceived := 0
  inflightBytes := 0
  peerRwnd := windowSize
  effectiveWindow := 0
  rtt := none
  minRto := 1 / 10
  maxRto := RudpAgentStack.maxRto
  unackedPackets := .empty
  sendBuffer := []

/-! ## Sending -/

/-- Move the head of the send buffer into the unacked map. -/
def transmit
    (sender : RUDPSender) (packet : RUDPPacket) (rest : List RUDPPacket)
    (currentTime : ℚ) : RUDPSender :=
  { sender with
    sendBuffer := rest
    unackedPackets := sender.unackedPackets.set packet.seqNum
      { packet := packet, sentTime := currentTime, isRetransmitted := false }
    inflightBytes := sender.inflightBytes + packet.payload.length }

/-- The window `_try_send` computes before each packet, in segments. -/
def window (sender : RUDPSender) : Int :=
  min (max 1 (sender.cwnd / mss).floor) sender.peerRwnd

/-- The loop of `_try_send`.  The list is the send buffer of the sender. -/
def trySendLoop (currentTime : ℚ) :
    List RUDPPacket → RUDPSender → RUDPSender × List RUDPPacket
  | [], sender => (sender, [])
  | packet :: rest, sender =>
      let nextLen : Int := packet.payload.length
      if sender.cwnd < ((sender.inflightBytes + nextLen : Int) : ℚ) then
        (sender, [])
      else
        let sender := { sender with effectiveWindow := sender.window }
        if sender.effectiveWindow ≤ sender.unackedPackets.size then
          (sender, [])
        else
          let result := trySendLoop currentTime rest
            (sender.transmit packet rest currentTime)
          (result.1, packet :: result.2)

/-- `_try_send` -/
def trySend (sender : RUDPSender) (currentTime : ℚ) :
    RUDPSender × List RUDPPacket :=
  trySendLoop currentTime sender.sendBuffer sender

/-- The packets of one message, numbered from `seqNum` on. -/
def messagePackets (msgId : Int) :
    (seqNum offset : Int) → List Bytes → List RUDPPacket
  | _, _, [] => []
  | seqNum, offset, chunk :: rest =>
      { seqNum := seqNum
        ackNum := 0
        flags := if rest.isEmpty then flagFin else 0
        rwnd := 0
        msgId := some msgId
        offset := some offset
        payload := chunk } ::
      messagePackets msgId (seqNum + 1) (offset + chunk.length) rest

/-- `enqueue_data` -/
def enqueueData
    (sender : RUDPSender) (data : Bytes) (msgId : Int) (currentTime : ℚ) :
    RUDPSender × List RUDPPacket :=
  let chunks := slices mss data
  let packets := messagePackets msgId sender.nextSeq 0 chunks
  let sender := { sender with
    sendBuffer := sender.sendBuffer ++ packets
    nextSeq := sender.nextSeq + packets.length }
  sender.trySend currentTime

/-! ## Acknowledgements -/

/-- Total payload of the packets in an unacked map. -/
def payloadBytes (unacked : Dict Int UnackedPacket) : Int :=
  (unacked.entries.map fun entry =>
    (entry.2.packet.payload.length : Int)).sum

/-- Update the round-trip time estimate and the timeout from the highest newly
acknowledged packet, unless that packet was retransmitted. -/
def sampleRtt
    (sender : RUDPSender) (highestAcked : Int) (currentTime : ℚ) :
    RUDPSender :=
  match sender.unackedPackets.get? highestAcked with
  | none => sender
  | some packetInfo =>
      if packetInfo.isRetransmitted then sender
      else
        let sampleRtt := currentTime - packetInfo.sentTime
        let estimate : RttEstimate :=
          match sender.rtt with
          | none => { srtt := sampleRtt, rttvar := sampleRtt / 2 }
          | some ⟨srtt, rttvar⟩ =>
              { rttvar := (1 - beta) * rttvar + beta * |srtt - sampleRtt|
                srtt := (1 - alpha) * srtt + alpha * sampleRtt }
        let rawRto := estimate.srtt + 4 * estimate.rttvar
        { sender with
          rtt := some estimate
          rto := max sender.minRto (min rawRto sender.maxRto) }

/-- Drop every unacked packet below the acknowledged number. -/
def removeAcked (sender : RUDPSender) (ackNum : Int) : RUDPSender :=
  { sender with
    inflightBytes := sender.inflightBytes -
      payloadBytes (sender.unackedPackets.filter fun seq _ => seq < ackNum)
    unackedPackets :=
      sender.unackedPackets.filter fun seq _ => !decide (seq < ackNum) }

/-- Congestion window growth on a new acknowledgement. -/
def growCwnd (sender : RUDPSender) : RUDPSender :=
  match sender.ccState with
  | .slowStart =>
      let cwnd := sender.cwnd + mss
      { sender with
        cwnd := cwnd
        ccState := if sender.ssthresh ≤ cwnd then .avoidance else .slowStart }
  | .avoidance =>
      { sender with cwnd := sender.cwnd + (mss * mss) / sender.cwnd }
  | .fastRecovery =>
      { sender with cwnd := sender.ssthresh, ccState := .avoidance }

/-- Retransmit the segment at `base` if it is in flight. -/
def fastRetransmit (sender : RUDPSender) (currentTime : ℚ) :
    RUDPSender × List RUDPPacket :=
  match sender.unackedPackets.get? sender.base with
  | none => (sender, [])
  | some packetInfo =>
      ({ sender with
          unackedPackets := sender.unackedPackets.set sender.base
            { packetInfo with
              isRetransmitted := true
              sentTime := currentTime } },
        [packetInfo.packet])

/-- The branch of `on_ack_received` for a new acknowledgement. -/
def onNewAck (sender : RUDPSender) (ackNum : Int) (currentTime : ℚ) :
    RUDPSender × List RUDPPacket :=
  let sender := { sender with
    base := ackNum
    dupAckCount := 0
    lastAckReceived := ackNum }
  let sender := sender.sampleRtt (ackNum - 1) currentTime
  let sender := sender.removeAcked ackNum
  let sender := sender.growCwnd
  sender.trySend currentTime

/-- Enter Fast Recovery: halve the threshold and inflate the window. -/
def enterFastRecovery (sender : RUDPSender) : RUDPSender :=
  let ssthresh := max (sender.cwnd / 2) (2 * mss)
  { sender with
    ccState := .fastRecovery
    ssthresh := ssthresh
    cwnd := ssthresh + 3 * mss }

/-- The branch of `on_ack_received` for a duplicate acknowledgement. -/
def onDuplicateAck (sender : RUDPSender) (currentTime : ℚ) :
    RUDPSender × List RUDPPacket :=
  let sender := { sender with dupAckCount := sender.dupAckCount + 1 }
  if sender.dupAckCount = 3 ∧ sender.ccState ≠ .fastRecovery then
    sender.enterFastRecovery.fastRetransmit currentTime
  else if 3 < sender.dupAckCount ∧ sender.ccState = .fastRecovery then
    { sender with cwnd := sender.cwnd + mss }.trySend currentTime
  else (sender, [])

/-- `on_ack_received` -/
def onAckReceived
    (sender : RUDPSender) (ackNum rwnd : Int) (currentTime : ℚ) :
    RUDPSender × List RUDPPacket :=
  let sender := { sender with peerRwnd := rwnd }
  if sender.base < ackNum then sender.onNewAck ackNum currentTime
  else if ackNum = sender.lastAckReceived ∧ ackNum = sender.base then
    sender.onDuplicateAck currentTime
  else (sender, [])

/-! ## Timeouts -/

/-- `check_timeouts` -/
def checkTimeouts (sender : RUDPSender) (currentTime : ℚ) :
    RUDPSender × List RUDPPacket :=
  match sender.unackedPackets.get? sender.base with
  | none => (sender, [])
  | some oldestInfo =>
      if sender.rto ≤ currentTime - oldestInfo.sentTime then
        ({ sender with
            ssthresh := max (sender.cwnd / 2) (2 * mss)
            cwnd := mss
            ccState := .slowStart
            rto := min (sender.rto * 2) sender.maxRto
            unackedPackets := sender.unackedPackets.set sender.base
              { oldestInfo with
                sentTime := currentTime
                isRetransmitted := true } },
          [oldestInfo.packet])
      else (sender, [])

end RUDPSender

end RudpAgentStack

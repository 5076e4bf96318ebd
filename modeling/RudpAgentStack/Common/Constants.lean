import Mathlib.Data.Rat.Defs

/-!
# Common system constants

The constants of `common/constants.py`.  Times are exact rational
numbers of seconds and congestion windows exact rational numbers of bytes.
-/

namespace RudpAgentStack

/-- Version of the application envelope. -/
def protocolVersion : Int := 1

/-- `OP_PUT_META` -/
def opPutMeta : Int := 0x01

/-- `OP_PUT_CHUNK` -/
def opPutChunk : Int := 0x02

/-- `OP_GET` -/
def opGet : Int := 0x03

/-- `OP_APPEND` -/
def opAppend : Int := 0x04

/-- `OP_LIST` -/
def opList : Int := 0x05

/-- `OP_TASK_SEARCH_REPORT` -/
def opTaskSearchReport : Int := 0x10

/-- `OP_TASK_FILTER_LINES` -/
def opTaskFilterLines : Int := 0x11

/-- `OP_TASK_HASH_AND_STORE` -/
def opTaskHashAndStore : Int := 0x12

/-- Largest file the server accepts, 1 MiB. -/
def maxFileSize : Int := 1 * 1024 * 1024

/-- Largest payload of an envelope. -/
def maxPayloadLen : Int := maxFileSize

/-- Maximum payload of one segment, in bytes. -/
def mss : Nat := 1200

/-- Largest advertised window, in segments. -/
def maxRwnd : Nat := 64

/-- Share of the receive buffer at which the receiver starts to throttle. -/
def highWatermark : ℚ := 80 / 100

/-- Share of the receive buffer at which the receiver stops throttling. -/
def lowWatermark : ℚ := 20 / 100

/-- Congestion window of a new sender, in bytes. -/
def initialCwnd : ℚ := 1 * mss

/-- Slow-start threshold of a new sender, in bytes. -/
def initialSsthresh : ℚ := 64 * mss

/-- Retransmission timeout of a new sender, in seconds. -/
def initialRto : ℚ := 1 / 2

/-- Weight of a new sample in the smoothed round-trip time. -/
def alpha : ℚ := 1 / 8

/-- Weight of a new deviation in the round-trip time variation. -/
def beta : ℚ := 1 / 4

/-- Largest retransmission timeout, in seconds. -/
def maxRto : ℚ := 4

/-- Duration of a DHCP lease, in seconds. -/
def dhcpDefaultLeaseTime : Int := 3600

end RudpAgentStack

import RudpAgentStack.Foundation.BinaryRecord
import Mathlib.Data.Int.Bitwise

/-!
# RUDP packets

The packet record of `common/rudp_packet.py` with its checksum, `pack` and
`unpack`.  Packet fields are arbitrary integers, as in the source; a field that
does not fit its width makes `pack` raise `struct.error`.
-/

namespace RudpAgentStack

open Foundation

/-- `FLAG_SYN` -/
def flagSyn : Int := 0x01

/-- `FLAG_ACK` -/
def flagAck : Int := 0x02

/-- `FLAG_FIN` -/
def flagFin : Int := 0x04

/-- `FLAG_RST` -/
def flagRst : Int := 0x08

/-- `FIXED_HEADER_FORMAT`, the format `!IIBHH`. -/
abbrev fixedHeaderFormat : List Nat := [4, 4, 1, 2, 2]

/-- `FIXED_HEADER_SIZE`, 13 bytes. -/
def fixedHeaderSize : Nat := fixedHeaderFormat.sum

/-- `REASSEMBLY_FORMAT`, the format `!II`. -/
abbrev reassemblyFormat : List Nat := [4, 4]

/-- `REASSEMBLY_SIZE`, 8 bytes. -/
def reassemblySize : Nat := reassemblyFormat.sum

/-- The exceptions packing and unpacking can raise. -/
inductive PacketError
  /-- `struct.error`: a value does not fit its field. -/
  | structError
  /-- A plain `ValueError` with its message. -/
  | valueError (message : String)
  /-- A `ChecksumError`, which is a `ValueError` of its own class. -/
  | checksumError (message : String)
  deriving DecidableEq

/-- An RUDP packet. -/
structure RUDPPacket where
  seqNum : Int
  ackNum : Int
  flags : Int
  rwnd : Int
  checksum : Int := 0
  /-- Present on data packets only. -/
  msgId : Option Int := none
  /-- Present on data packets only. -/
  offset : Option Int := none
  payload : Bytes := []
  deriving DecidableEq

namespace RUDPPacket

/-- `struct.pack` for one of the packet's formats. -/
def structPack (format : List Nat) (values : BinaryRecord.Fields format) :
    Except PacketError Bytes :=
  match BinaryRecord.pack format values with
  | some bytes => .ok bytes
  | none => .error .structError

/-- `struct.unpack` for one of the packet's formats. -/
def structUnpack (format : List Nat) (bytes : Bytes) :
    Except PacketError (BinaryRecord.Fields format) :=
  match BinaryRecord.unpack format bytes with
  | some values => .ok values
  | none => .error .structError

/-- The packed reassembly fields, empty unless both are present. -/
def reassemblyBytes (packet : RUDPPacket) : Except PacketError Bytes :=
  match packet.msgId, packet.offset with
  | some msgId, some offset => structPack reassemblyFormat (msgId, offset, ())
  | _, _ => .ok []

/-- The packet's bytes with a given value in the checksum field: fixed header,
reassembly fields, payload. -/
def packetBytes (packet : RUDPPacket) (checksum : Int) :
    Except PacketError Bytes :=
  match structPack fixedHeaderFormat
      (packet.seqNum, packet.ackNum, packet.flags, packet.rwnd, checksum, ()),
    packet.reassemblyBytes with
  | .ok header, .ok reassembly => .ok (header ++ reassembly ++ packet.payload)
  | .error error, _ => .error error
  | .ok _, .error error => .error error

/-- Add the 16-bit words of a byte string of even length to a running sum. -/
def addWords : (csum : Nat) → Bytes → Nat
  | csum, high :: low :: rest =>
      addWords (csum + ((high.toNat <<< 8) + low.toNat)) rest
  | csum, _ => csum

/-- Fold the carry bits back into the low 16 bits until none are left. -/
def addCarry (csum : Nat) : Nat :=
  if 0 < csum >>> 16 then addCarry ((csum &&& 0xFFFF) + (csum >>> 16))
  else csum
termination_by csum
decreasing_by
  next carry =>
    have low : csum &&& 0xFFFF = csum % 2 ^ 16 :=
      Nat.and_two_pow_sub_one_eq_mod csum 16
    rw [Nat.shiftRight_eq_div_pow] at carry ⊢
    rw [low]
    omega

/-- The one's complement checksum of a byte string, padded with a zero byte to
even length.  A zero result becomes `0xFFFF`. -/
def onesComplementChecksum (bytes : Bytes) : Nat :=
  let padded := if bytes.length % 2 = 1 then bytes ++ [0] else bytes
  let csum := addCarry (addWords 0 padded)
  let finalCsum := (~~~(BitVec.ofNat 16 csum)).toNat
  if finalCsum = 0x0000 then 0xFFFF else finalCsum

/-- `calculate_checksum`: the checksum of the packet's bytes with the checksum
field taken as zero. -/
def calculateChecksum (packet : RUDPPacket) : Except PacketError Int :=
  match packet.packetBytes 0 with
  | .error error => .error error
  | .ok bytes => .ok (onesComplementChecksum bytes)

/-- `is_syn` -/
def isSyn (packet : RUDPPacket) : Bool := Int.land packet.flags flagSyn ≠ 0

/-- `is_ack` -/
def isAck (packet : RUDPPacket) : Bool := Int.land packet.flags flagAck ≠ 0

/-- `is_fin` -/
def isFin (packet : RUDPPacket) : Bool := Int.land packet.flags flagFin ≠ 0

/-- `is_rst` -/
def isRst (packet : RUDPPacket) : Bool := Int.land packet.flags flagRst ≠ 0

/-- `has_data`: the packet has a payload or reassembly fields. -/
def hasData (packet : RUDPPacket) : Bool :=
  packet.payload ≠ [] || (packet.msgId.isSome && packet.offset.isSome)

/-- `pack`: the bytes of the packet under its freshly computed checksum. -/
def pack (packet : RUDPPacket) : Except PacketError Bytes :=
  match packet.calculateChecksum with
  | .error error => .error error
  | .ok checksum => packet.packetBytes checksum

/-- The part of `unpack` that reads the fields, up to the checksum test. -/
def unpackFields (data : Bytes) : Except PacketError RUDPPacket :=
  if data.length < fixedHeaderSize then
    .error (.valueError
      s!"Packet too short to contain fixed header: {data.length} bytes")
  else
    match structUnpack fixedHeaderFormat (data.take fixedHeaderSize) with
    | .error error => .error error
    | .ok (seqNum, ackNum, flags, rwnd, checksum, ()) =>
        -- Anything beyond the fixed header makes the packet a data packet.
        if fixedHeaderSize < data.length then
          if data.length < fixedHeaderSize + reassemblySize then
            .error (.valueError
              "Packet has extra data but not enough for reassembly fields")
          else
            match structUnpack reassemblyFormat
                ((data.drop fixedHeaderSize).take reassemblySize) with
            | .error error => .error error
            | .ok (msgId, offset, ()) =>
                .ok { seqNum, ackNum, flags, rwnd, checksum
                      msgId := some msgId
                      offset := some offset
                      payload := data.drop (fixedHeaderSize + reassemblySize) }
        else .ok { seqNum, ackNum, flags, rwnd, checksum }

/-- `unpack`: read the fields and validate the checksum. -/
def unpack (data : Bytes) : Except PacketError RUDPPacket :=
  match unpackFields data with
  | .error error => .error error
  | .ok packet =>
      match packet.calculateChecksum with
      | .error error => .error error
      | .ok calculated =>
          if packet.checksum ≠ calculated then
            .error (.checksumError
              s!"Invalid checksum: expected {calculated}, got {packet.checksum}")
          else .ok packet

end RUDPPacket

end RudpAgentStack

import RudpAgentStack.Common.Errors
import RudpAgentStack.Common.Constants

/-!
# The application envelope

The twelve-byte header of `common/app_envelope.py` and the messages made of a
header and its payload.
-/

namespace RudpAgentStack

open Foundation

/-- `HEADER_FORMAT`, the format `!BBBBII`. -/
abbrev headerFormat : List Nat := [1, 1, 1, 1, 4, 4]

/-- `HEADER_SIZE`, 12 bytes. -/
def headerSize : Nat := headerFormat.sum

/-- A decoded application header. -/
structure AppHeader where
  version : Int
  opcode : Int
  flags : Int
  reserved : Int
  requestId : Int
  payloadLen : Int
  deriving DecidableEq

/-- The checks that encoding and decoding share. -/
def checkHeader (version payloadLen : Int) : Except PyError Unit :=
  if version ≠ protocolVersion then
    valueError ("Invalid version: " ++ Text.ofInt version ++ ". Expected " ++
      Text.ofInt protocolVersion)
  else if maxPayloadLen < payloadLen then
    valueError ("Payload length " ++ Text.ofInt payloadLen ++
      " exceeds max " ++ Text.ofInt maxPayloadLen)
  else .ok ()

/-- `encode_header` -/
def encodeHeader
    (version opcode flags requestId payloadLen : Int) :
    Except PyError Bytes := do
  checkHeader version payloadLen
  match BinaryRecord.pack headerFormat
      (version, opcode, flags, 0, requestId, payloadLen, ()) with
  | some bytes => .ok bytes
  | none => .error ⟨.structError, "argument out of range"⟩

/-- `decode_header` -/
def decodeHeader (data : Bytes) : Except PyError AppHeader :=
  match BinaryRecord.unpack headerFormat data with
  | none =>
      valueError ("Invalid header size: " ++ Text.ofInt data.length ++
        ". Expected " ++ Text.ofInt headerSize)
  | some (version, opcode, flags, reserved, requestId, payloadLen, ()) => do
      checkHeader version payloadLen
      return { version, opcode, flags, reserved, requestId, payloadLen }

/-- `encode_message`, without an overriding request id. -/
def encodeMessage
    (opcode flags requestId : Int) (payload : Bytes) :
    Except PyError Bytes := do
  let header ←
    encodeHeader protocolVersion opcode flags requestId payload.length
  return header ++ payload

end RudpAgentStack

import RudpAgentStack.Common.Host

/-!
# Mixed mode payloads

Payloads made of a four-byte length, JSON metadata of that length and raw
bytes, from `common/mixed_mode_io.py`.
-/

namespace RudpAgentStack

open Foundation

variable {World : Type}

/-- `META_LEN_FORMAT`, the format `!I`. -/
abbrev metaLenFormat : List Nat := [4]

/-- `META_LEN_SIZE`, 4 bytes. -/
def metaLenSize : Nat := metaLenFormat.sum

/-- `MixedModeEncoder.encode` -/
def mixedModeEncode
    (host : Host World) (metadata : Json) (binaryData : Bytes) :
    Except PyError Bytes := do
  let metaBytes ← host.dumpBytes metadata
  match BinaryRecord.pack metaLenFormat (metaBytes.length, ()) with
  | some header => return header ++ metaBytes ++ binaryData
  | none => .error ⟨.structError, "argument out of range"⟩

/-- `MixedModeDecoder.decode` -/
def mixedModeDecode (host : Host World) (data : Bytes) :
    Except PyError (Json × Bytes) := do
  if data.length < metaLenSize then
    valueError "Payload too short to contain metadata length prefix"
  let metaLen := ofBigEndian (data.take metaLenSize)
  let requiredLen := metaLenSize + metaLen
  if data.length < requiredLen then
    valueError ("Payload incomplete. Expected at least " ++
      Text.ofInt requiredLen ++ " bytes, got " ++ Text.ofInt data.length)
  let metaBytes := (data.drop metaLenSize).take metaLen
  match host.loadBytes metaBytes with
  | .ok metadata => return (metadata, data.drop requiredLen)
  | .error error =>
      if error.kind = .jsonDecodeError then
        valueError ("Invalid JSON metadata: " ++ error.message)
      else .error error

end RudpAgentStack

import RudpAgentStack.Common.AppEnvelope
import RudpAgentStack.Common.MixedModeIo

/-!
# Responses

`ResponseBuilder` of `server/agent/response_builder.py`: the envelopes the
server answers with.
-/

namespace RudpAgentStack

open Foundation

namespace ResponseBuilder

variable {World : Type} (host : Host World)

/-- The JSON object of a response. -/
def payloadDict
    (statusCode : ErrorCode) (errorMessage : Option Text) (data : Json) :
    Json :=
  .object
    [("status", .int statusCode.value),
      ("error", match errorMessage with
        | some message => .string message
        | none => .null),
      ("data", data)]

/-- The payload when the response cannot be serialised. -/
def fallbackDict : Json :=
  payloadDict .internalServerError (some "Response serialization failed") .null

/-- `build_response` -/
def buildResponse
    (opcode requestId : Int) (statusCode : ErrorCode)
    (data : Json := .null) (errorMessage : Option Text := none)
    (binaryData : Option Bytes := none) : Except PyError Bytes := do
  let content := payloadDict statusCode errorMessage data
  let serialized :=
    match binaryData with
    | some binary => mixedModeEncode host content binary
    | none => host.dumpBytes content
  let payloadBytes ←
    match serialized with
    | .ok payloadBytes => .ok payloadBytes
    | .error _ => host.dumpBytes fallbackDict
  encodeMessage opcode 0 requestId payloadBytes

/-- `build_error_response` -/
def buildErrorResponse
    (opcode requestId : Int) (errorCode : ErrorCode) (message : Text) :
    Except PyError Bytes :=
  buildResponse host opcode requestId errorCode .null (some message)

end ResponseBuilder

end RudpAgentStack

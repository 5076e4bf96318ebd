import RudpAgentStack.Agent.Envelopes
import RudpAgentStack.Agent.MemoryHost
import RudpAgentStack.Foundation.Utf8

/-!
# What a client reads

The decoding of responses in `AgentClient.send_request_spec` of
`client/agent_client.py`.  A payload in mixed mode and one of JSON alone carry
no mark: a JSON object starts with a brace, and read as the length of metadata
that is more than a payload can have.
-/

namespace RudpAgentStack

open Foundation

variable {World : Type} {host : Host World}

/-- `repr` of a byte. -/
def byteRepr (quote : CodePoint) (byte : UInt8) : Text :=
  let value : CodePoint := Fin.ofNat _ byte.toNat
  if value = quote ∨ value = 0x5C then [0x5C, value]
  else if byte = 0x09 then [0x5C, 0x74]
  else if byte = 0x0A then [0x5C, 0x6E]
  else if byte = 0x0D then [0x5C, 0x72]
  else if 0x20 ≤ byte ∧ byte < 0x7F then [value]
  else
    [0x5C, 0x78, Json.hexDigit (byte.toNat / 16),
      Json.hexDigit (byte.toNat % 16)]

/-- `repr` of a byte string. -/
def bytesRepr (bytes : Bytes) : Text :=
  let quote : CodePoint :=
    if 0x27 ∈ bytes ∧ (0x22 : UInt8) ∉ bytes then 0x22 else 0x27
  [0x62, quote] ++ bytes.flatMap (byteRepr quote) ++ [quote]

namespace AgentClient

/-- What `send_request_spec` returns: status, metadata and binary data. -/
structure Response where
  status : Json
  respMeta : Json
  respBinary : Option Bytes

/-- `resp_meta.get("status", 200)` -/
def statusOf : Json → Except PyError Json
  | .object members => .ok ((Json.get? members "status").getD (.int 200))
  | _ => .error ⟨.attributeError, "object has no attribute 'get'"⟩

/-- The attempt to read a payload in mixed mode; there is no result if it is
not in mixed mode. -/
def decodeMixed (host : Host World) (payloadData : Bytes) :
    Option (Except PyError Response) :=
  if payloadData.length < 4 then none
  else
    match mixedModeDecode host payloadData with
    | .ok (metadata, binary) =>
        some ((statusOf metadata).map fun status =>
          ⟨status, metadata, some binary⟩)
    | .error error =>
        if error.kind.isValueError then none else some (.error error)

/-- Reading a payload that is JSON alone. -/
def decodeJson (host : Host World) (payloadData : Bytes) :
    Except PyError Response :=
  match host.loadBytes payloadData with
  | .ok metadata =>
      (statusOf metadata).map fun status => ⟨status, metadata, none⟩
  | .error error =>
      if error.kind = .jsonDecodeError then
        if payloadData = [] then .ok ⟨.int 200, .object [], none⟩
        else
          valueError ("Invalid response format: " ++
            bytesRepr (payloadData.take 100))
      else .error error

/-- The decode strategy of `send_request_spec`. -/
def decodePayload (host : Host World) (payloadData : Bytes) :
    Except PyError Response :=
  (decodeMixed host payloadData).getD (decodeJson host payloadData)

/-- The part of `send_request_spec` after a message was delivered. -/
def decodeResponse (host : Host World) (responseData : Bytes) :
    Except PyError Response := do
  let header ← decodeHeader (responseData.take headerSize)
  if maxPayloadLen < header.payloadLen then
    valueError ("Payload too large: " ++ Text.ofInt header.payloadLen)
  decodePayload host
    ((responseData.drop headerSize).take header.payloadLen.toNat)

end AgentClient

namespace ResponseBuilder

/-- The object of a response with any status code. -/
def statusDict
    (statusCode : Int) (errorMessage : Option Text) (data : Json) : Json :=
  .object
    [("status", .int statusCode),
      ("error", match errorMessage with
        | some message => .string message
        | none => .null),
      ("data", data)]

/-- The payload of a response that can be serialised. -/
def serialize
    (host : Host World) (statusCode : Int) (data : Json)
    (errorMessage : Option Text) (binaryData : Option Bytes) :
    Except PyError Bytes :=
  match binaryData with
  | some binary =>
      mixedModeEncode host (statusDict statusCode errorMessage data) binary
  | none => host.dumpBytes (statusDict statusCode errorMessage data)

/-- `build_response`, for any status code. -/
def buildStatusResponse
    (host : Host World) (opcode requestId statusCode : Int) (data : Json)
    (errorMessage : Option Text) (binaryData : Option Bytes) :
    Except PyError Bytes := do
  let payloadBytes ←
    match serialize host statusCode data errorMessage binaryData with
    | .ok payloadBytes => .ok payloadBytes
    | .error _ => host.dumpBytes fallbackDict
  encodeMessage opcode 0 requestId payloadBytes

theorem buildResponse_eq
    (opcode requestId : Int) (statusCode : ErrorCode) (data : Json)
    (errorMessage : Option Text) (binaryData : Option Bytes) :
    buildResponse host opcode requestId statusCode data errorMessage
        binaryData =
      buildStatusResponse host opcode requestId statusCode.value data
        errorMessage binaryData :=
  rfl

end ResponseBuilder

/-! ## Reading what was written -/

namespace Host

/-- A value that can be written is read back. -/
def ReadsBack (host : Host World) (value : Json) : Prop :=
  ∀ text, host.jsonDumps {} value = .ok text → host.jsonLoads text = .ok value

/-- Objects are written in braces. -/
def BracesObjects (host : Host World) : Prop :=
  ∀ members text, host.jsonDumps {} (.object members) = .ok text →
    text.head? = some 0x7B

theorem exists_of_dumpBytes
    {value : Json} {bytes : Bytes} (dumped : host.dumpBytes value = .ok bytes) :
    ∃ text, host.jsonDumps {} value = .ok text ∧
      Text.encodeUtf8 text = some bytes := by
  unfold dumpBytes at dumped
  cases written : host.jsonDumps {} value with
  | error error =>
      rw [written] at dumped
      cases dumped
  | ok text =>
      rw [written] at dumped
      change host.encode text = _ at dumped
      unfold encode at dumped
      cases encoded : Text.encodeUtf8 text with
      | none =>
          rw [encoded] at dumped
          cases dumped
      | some other =>
          rw [encoded] at dumped
          cases dumped
          exact ⟨text, rfl, encoded⟩

theorem loadBytes_of_dumpBytes
    {value : Json} (readsBack : host.ReadsBack value) {bytes : Bytes}
    (dumped : host.dumpBytes value = .ok bytes) :
    host.loadBytes bytes = .ok value := by
  obtain ⟨text, written, encoded⟩ := exists_of_dumpBytes dumped
  have decoded : host.decode bytes = .ok text := by
    rw [decode, Text.decodeUtf8_encodeUtf8 encoded]
  rw [loadBytes, decoded]
  exact readsBack text written

/-- The bytes of an object start with those of a brace. -/
theorem head?_of_dumpBytes
    (braces : host.BracesObjects) {members : List (Text × Json)} {bytes : Bytes}
    (dumped : host.dumpBytes (.object members) = .ok bytes) :
    ∃ rest, bytes = 0x7B :: rest := by
  obtain ⟨text, written, encoded⟩ := exists_of_dumpBytes dumped
  obtain ⟨_, rfl⟩ := Text.encodeUtf8_eq_some_iff.mp encoded
  obtain ⟨rest, rfl⟩ :=
    List.head?_eq_some_iff.mp (braces members text written)
  exact ⟨rest.flatMap Text.encodePoint, rfl⟩

end Host

namespace AgentClient

/-- A brace announces more metadata than a payload can have. -/
theorem maxPayloadLen_lt_brace (second third fourth : UInt8) :
    maxPayloadLen < ofBigEndian [0x7B, second, third, fourth] := by
  have announced : ofBigEndian [0x7B, second, third, fourth] =
      ((0x7B * 256 + second.toNat) * 256 + third.toNat) * 256 +
        fourth.toNat := by
    simp [ofBigEndian]
  have limit : maxPayloadLen = 1048576 := rfl
  rw [announced, limit]
  omega

/-- Metadata and data in mixed mode, as they were encoded. -/
theorem of_mixedModeEncode
    {metadata : Json} {content payloadData : Bytes}
    (encoded : mixedModeEncode host metadata content = .ok payloadData) :
    ∃ metaBytes, host.dumpBytes metadata = .ok metaBytes ∧
      metaBytes.length < 256 ^ 4 ∧
      payloadData = toBigEndian 4 metaBytes.length ++ metaBytes ++ content := by
  cases dumped : host.dumpBytes metadata with
  | error error =>
      rw [mixedModeEncode, dumped] at encoded
      cases encoded
  | ok metaBytes =>
      rcases Nat.lt_or_ge metaBytes.length (256 ^ 4) with short | long
      · have whole := mixedModeEncode_of_dumpBytes dumped short content
        exact ⟨metaBytes, rfl, short,
          Except.ok.inj (encoded.symm.trans whole)⟩
      · have outOfRange : ¬ ((0 : Int) ≤ metaBytes.length ∧
            (metaBytes.length : Int) < 256 ^ 4) := by
          rintro ⟨_, fits⟩
          exact absurd (by exact_mod_cast fits) (not_lt.mpr long)
        have refused : BinaryRecord.pack metaLenFormat
            (metaBytes.length, ()) = none := by
          rw [BinaryRecord.pack, if_neg outOfRange]
        have passed : ∀ rest : Bytes → Except PyError Bytes,
            (Except.ok metaBytes >>= rest) = rest metaBytes := fun _ => rfl
        rw [mixedModeEncode, dumped, passed, refused] at encoded
        cases encoded

/-- A payload that ends before its metadata is refused. -/
theorem mixedModeDecode_of_lt
    {data : Bytes} (long : metaLenSize ≤ data.length)
    (incomplete : data.length < metaLenSize + ofBigEndian (data.take 4)) :
    ∃ message, mixedModeDecode host data = valueError message := by
  have size_eq : metaLenSize = 4 := rfl
  rw [size_eq] at long incomplete
  refine ⟨"Payload incomplete. Expected at least " ++
    Text.ofInt (4 + ofBigEndian (data.take 4)) ++ " bytes, got " ++
      Text.ofInt data.length, ?_⟩
  unfold mixedModeDecode
  simp only [size_eq]
  rw [if_neg (by omega), if_pos incomplete]
  rfl

/-- A payload of an object alone is not in mixed mode. -/
theorem decodeMixed_of_dumpBytes
    (braces : host.BracesObjects) {members : List (Text × Json)}
    {payloadData : Bytes}
    (dumped : host.dumpBytes (.object members) = .ok payloadData)
    (fits : (payloadData.length : Int) ≤ maxPayloadLen) :
    decodeMixed host payloadData = none := by
  obtain ⟨rest, rfl⟩ := Host.head?_of_dumpBytes braces dumped
  unfold decodeMixed
  split
  · rfl
  · next long =>
      rcases rest with _ | ⟨second, _ | ⟨third, _ | ⟨fourth, rest⟩⟩⟩
      · simp at long
      · simp at long
      · simp at long
      · have announced := maxPayloadLen_lt_brace second third fourth
        have incomplete : (0x7B :: second :: third :: fourth :: rest).length <
            metaLenSize + ofBigEndian
              ((0x7B :: second :: third :: fourth :: rest).take 4) := by
          change _ < 4 + ofBigEndian [0x7B, second, third, fourth]
          omega
        obtain ⟨message, refused⟩ : ∃ message, mixedModeDecode host _ = _ :=
          mixedModeDecode_of_lt (not_lt.mp long) incomplete
        rw [refused]
        rfl

/-- What the client reads from the payload of a response. -/
theorem decodePayload_of_serialize
    (braces : host.BracesObjects) {statusCode : Int} {data : Json}
    {errorMessage : Option Text} {binaryData : Option Bytes}
    (readsBack : host.ReadsBack
      (ResponseBuilder.statusDict statusCode errorMessage data))
    {payloadBytes : Bytes}
    (serialized : ResponseBuilder.serialize host statusCode data errorMessage
      binaryData = .ok payloadBytes)
    (fits : (payloadBytes.length : Int) ≤ maxPayloadLen) :
    decodePayload host payloadBytes =
      .ok ⟨.int statusCode,
        ResponseBuilder.statusDict statusCode errorMessage data,
        binaryData⟩ := by
  unfold ResponseBuilder.serialize at serialized
  cases binaryData with
  | none =>
      dsimp only at serialized
      rw [decodePayload, decodeMixed_of_dumpBytes braces serialized fits]
      change decodeJson host payloadBytes = _
      rw [decodeJson, Host.loadBytes_of_dumpBytes readsBack serialized]
      rfl
  | some binary =>
      dsimp only at serialized
      obtain ⟨metaBytes, dumped, short, rfl⟩ := of_mixedModeEncode serialized
      have decoded := mixedModeDecode_of_loadBytes
        (Host.loadBytes_of_dumpBytes readsBack dumped) short binary
      have long : ¬ (toBigEndian 4 metaBytes.length ++ metaBytes ++
          binary).length < 4 := by
        simp only [List.length_append, length_toBigEndian]
        omega
      rw [decodePayload, decodeMixed, if_neg long, decoded]
      rfl

/-- The client reads from a response what it was built from. -/
theorem decodeResponse_buildStatusResponse
    (braces : host.BracesObjects) {opcode requestId statusCode : Int}
    {data : Json} {errorMessage : Option Text} {binaryData : Option Bytes}
    (readsBack : host.ReadsBack
      (ResponseBuilder.statusDict statusCode errorMessage data))
    {payloadBytes message : Bytes}
    (serialized : ResponseBuilder.serialize host statusCode data errorMessage
      binaryData = .ok payloadBytes)
    (built : ResponseBuilder.buildStatusResponse host opcode requestId
      statusCode data errorMessage binaryData = .ok message) :
    decodeResponse host message =
      .ok ⟨.int statusCode,
        ResponseBuilder.statusDict statusCode errorMessage data,
        binaryData⟩ := by
  rw [ResponseBuilder.buildStatusResponse, serialized] at built
  have encoded : encodeMessage opcode 0 requestId payloadBytes = .ok message :=
    built
  obtain ⟨framed, payload_eq⟩ := frame?_of_encodeMessage encoded
  obtain ⟨decoded, -⟩ := decodeHeader_of_frame? framed
  have fits := (of_frame? framed).2.2
  have payloadSize : ((payloadBytes.length : Nat) : Int).toNat =
      payloadBytes.length := rfl
  rw [decodeResponse, decoded]
  dsimp only [bind, Except.bind]
  rw [if_neg (not_lt.mpr fits), payload_eq, payloadSize, List.take_length]
  exact decodePayload_of_serialize braces readsBack serialized fits

end AgentClient

/-! ## A sample response -/

namespace Sample

open MemoryHost

/-- The data of a response with a file. -/
def fileData : Json := .object [("filename", .string "a.txt"), ("size", .int 1)]

/-- A host that reads the response. -/
def responseHost : Host Files :=
  memoryHost
    [((ResponseBuilder.statusDict 200 none fileData).write false,
      ResponseBuilder.statusDict 200 none fileData)]
    []

theorem memoryHost_bracesObjects
    (texts : List (Text × Json)) (digests : List (Bytes × Text)) :
    (memoryHost texts digests).BracesObjects := by
  intro members text dumped
  have written : text = (Json.object members).write false :=
    (Except.ok.inj dumped).symm
  rw [written, Json.write, List.append_assoc, List.head?_append]
  rfl

end Sample

/-- A file of one byte is read back. -/
theorem AgentClient.decodeResponse_buildStatusResponse_file :
    ∃ message, ResponseBuilder.buildStatusResponse Sample.responseHost opGet 7
        200 Sample.fileData none (some [0x7B]) = .ok message ∧
      AgentClient.decodeResponse Sample.responseHost message =
        .ok ⟨.int 200, ResponseBuilder.statusDict 200 none Sample.fileData,
          some [0x7B]⟩ := by
  have readsBack : Sample.responseHost.ReadsBack
      (ResponseBuilder.statusDict 200 none Sample.fileData) := by
    intro text dumped
    cases dumped
    rfl
  have built : ResponseBuilder.buildStatusResponse Sample.responseHost opGet 7
      200 Sample.fileData none (some [0x7B]) = .ok _ := rfl
  exact ⟨_, built, AgentClient.decodeResponse_buildStatusResponse
    (Sample.memoryHost_bracesObjects _ _) readsBack rfl built⟩

end RudpAgentStack

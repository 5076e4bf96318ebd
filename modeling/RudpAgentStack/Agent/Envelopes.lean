import RudpAgentStack.Agent.Server

/-!
# Envelopes and their frames

A message that was encoded is framed, under the opcode and the request id it
was encoded with, and a message whose fields are in range can be encoded when
its payload is not too long.  Metadata and data in mixed mode are read back as
they were written.
-/

namespace RudpAgentStack

open Foundation

variable {World : Type} {host : Host World}

/-! ## Messages -/

/-- Opcode and request id fit their fields. -/
structure Encodable (opcode requestId : Int) : Prop where
  opcode : 0 ≤ opcode ∧ opcode < 256 ^ 1
  requestId : 0 ≤ requestId ∧ requestId < 256 ^ 4

theorem eq_ok_of_checkHeader
    {version payloadLen : Int}
    (checked : checkHeader version payloadLen = .ok ()) :
    version = protocolVersion ∧ payloadLen ≤ maxPayloadLen := by
  unfold checkHeader at checked
  split at checked
  · cases checked
  · next sameVersion =>
      split at checked
      · cases checked
      · next fits => exact ⟨not_not.mp sameVersion, not_lt.mp fits⟩

theorem checkHeader_of_le
    {payloadLen : Int} (fits : payloadLen ≤ maxPayloadLen) :
    checkHeader protocolVersion payloadLen = .ok () := by
  rw [checkHeader, if_neg (not_not.mpr rfl), if_neg (not_lt.mpr fits)]

/-- A header that was encoded is decoded as it was. -/
theorem decodeHeader_of_encodeHeader
    {version opcode flags requestId payloadLen : Int} {bytes : Bytes}
    (encoded : encodeHeader version opcode flags requestId payloadLen =
      .ok bytes) :
    decodeHeader bytes =
        .ok { version, opcode, flags, reserved := 0, requestId, payloadLen } ∧
      bytes.length = headerSize := by
  unfold encodeHeader at encoded
  cases checked : checkHeader version payloadLen with
  | error error =>
    rw [checked] at encoded
    cases encoded
  | ok _ =>
    simp only [checked, bind, Except.bind] at encoded
    split at encoded
    · next packed =>
        cases encoded
        refine ⟨?_, BinaryRecord.length_of_pack packed⟩
        have unpacked := (BinaryRecord.unpack_eq_some_iff _ _ _).mpr packed
        simp only [decodeHeader, unpacked, checked]
        rfl
    · cases encoded

/-- An encoded message is the frame of its payload. -/
theorem frame?_of_encodeMessage
    {opcode flags requestId : Int} {payload message : Bytes}
    (encoded : encodeMessage opcode flags requestId payload = .ok message) :
    frame? message =
        some
          { version := protocolVersion
            opcode
            flags
            reserved := 0
            requestId
            payloadLen := payload.length } ∧
      message.drop headerSize = payload := by
  unfold encodeMessage at encoded
  cases encodedHeader : encodeHeader protocolVersion opcode flags requestId
      payload.length with
  | error error =>
    rw [encodedHeader] at encoded
    cases encoded
  | ok header =>
    rw [encodedHeader] at encoded
    cases encoded
    obtain ⟨decoded, length_eq⟩ := decodeHeader_of_encodeHeader encodedHeader
    have taken : (header ++ payload).take headerSize = header := by
      rw [← length_eq, List.take_left]
    have dropped : (header ++ payload).drop headerSize = payload := by
      rw [← length_eq, List.drop_left]
    exact ⟨by simp [frame?, taken, dropped, decoded], dropped⟩

/-- A message in range is encoded if its payload is not too long. -/
theorem encodeMessage_of_length
    {opcode requestId : Int} {payload : Bytes}
    (encodable : Encodable opcode requestId)
    (fits : (payload.length : Int) ≤ maxPayloadLen) :
    ∃ message, encodeMessage opcode 0 requestId payload = .ok message := by
  have short : (payload.length : Int) < 256 ^ 4 := fits.trans_lt (by decide)
  have inRange : BinaryRecord.InRange headerFormat
      (protocolVersion, opcode, 0, 0, requestId, payload.length, ()) :=
    ⟨by decide, encodable.opcode, by decide, by decide, encodable.requestId,
      ⟨Int.natCast_nonneg _, short⟩, trivial⟩
  obtain ⟨header, packed⟩ := (BinaryRecord.exists_pack_iff _ _).mpr inRange
  refine ⟨header ++ payload, ?_⟩
  simp only [encodeMessage, encodeHeader, checkHeader_of_le fits, packed]
  rfl

/-- A message whose payload is too long is not encoded. -/
theorem encodeMessage_of_tooLong
    {opcode requestId : Int} {payload : Bytes}
    (tooLong : maxPayloadLen < payload.length) :
    ∃ error, encodeMessage opcode 0 requestId payload = .error error := by
  cases encoded : encodeMessage opcode 0 requestId payload with
  | error error => exact ⟨error, rfl⟩
  | ok message =>
    exfalso
    unfold encodeMessage encodeHeader at encoded
    cases checked : checkHeader protocolVersion payload.length with
    | error error =>
      rw [checked] at encoded
      cases encoded
    | ok _ =>
      exact absurd (eq_ok_of_checkHeader checked).2 (not_le.mpr tooLong)

/-- The header of a frame is the one that decodes. -/
theorem decodeHeader_of_frame?
    {data : Bytes} {header : AppHeader} (framed : frame? data = some header) :
    decodeHeader (data.take headerSize) = .ok header ∧
      ((data.drop headerSize).length : Int) = header.payloadLen := by
  unfold frame? at framed
  cases decoded : decodeHeader (data.take headerSize) with
  | error error => simp [decoded] at framed
  | ok other =>
    simp only [decoded, Option.ite_none_right_eq_some, Option.some.injEq]
      at framed
    obtain ⟨length_eq, rfl⟩ := framed
    exact ⟨rfl, length_eq⟩

/-- What a frame says about its data. -/
theorem of_frame?
    {data : Bytes} {header : AppHeader} (framed : frame? data = some header) :
    Encodable header.opcode header.requestId ∧
      header.payloadLen = (data.drop headerSize).length ∧
      header.payloadLen ≤ maxPayloadLen := by
  obtain ⟨decoded, length_eq⟩ := decodeHeader_of_frame? framed
  unfold decodeHeader at decoded
  split at decoded
  · cases decoded
  · next version opcode flags reserved requestId payloadLen unpacked =>
      have inRange := (BinaryRecord.exists_pack_iff _ _).mp
        ⟨_, (BinaryRecord.unpack_eq_some_iff _ _ _).mp unpacked⟩
      obtain ⟨_, opcodeRange, _, _, requestIdRange, _, _⟩ := inRange
      cases checked : checkHeader version payloadLen with
      | error error =>
        rw [checked] at decoded
        cases decoded
      | ok _ =>
        rw [checked] at decoded
        cases decoded
        exact ⟨⟨opcodeRange, requestIdRange⟩, length_eq.symm,
          (eq_ok_of_checkHeader checked).2⟩

/-- A frame has a whole header. -/
theorem headerSize_le_of_frame?
    {data : Bytes} {header : AppHeader} (framed : frame? data = some header) :
    headerSize ≤ data.length := by
  have decoded := (decodeHeader_of_frame? framed).1
  unfold decodeHeader at decoded
  split at decoded
  · cases decoded
  · next unpacked =>
      have taken : (data.take headerSize).length = headerSize :=
        (BinaryRecord.exists_unpack_iff _ _).mp ⟨_, unpacked⟩
      rw [List.length_take] at taken
      exact min_eq_left_iff.mp taken

/-! ## Mixed mode -/

/-- Metadata that fits its length field is encoded with the data after it. -/
theorem mixedModeEncode_of_dumpBytes
    {metadata : Json} {metaBytes : Bytes}
    (dumped : host.dumpBytes metadata = .ok metaBytes)
    (fits : metaBytes.length < 256 ^ 4) (content : Bytes) :
    mixedModeEncode host metadata content =
      .ok (toBigEndian 4 metaBytes.length ++ metaBytes ++ content) := by
  have inRange : (0 : Int) ≤ metaBytes.length ∧
      (metaBytes.length : Int) < 256 ^ 4 :=
    ⟨Int.natCast_nonneg _, by exact_mod_cast fits⟩
  have packed : BinaryRecord.pack metaLenFormat (metaBytes.length, ()) =
      some (toBigEndian 4 metaBytes.length) := by
    rw [BinaryRecord.pack, if_pos inRange, BinaryRecord.pack]
    simp
  have passed : ∀ rest : Bytes → Except PyError Bytes,
      (Except.ok metaBytes >>= rest) = rest metaBytes := fun _ => rfl
  rw [mixedModeEncode, dumped, passed, packed]
  rfl

/-- What was encoded in mixed mode is decoded as its metadata reads. -/
theorem mixedModeDecode_of_loadBytes
    {metadata : Json} {metaBytes : Bytes}
    (loaded : host.loadBytes metaBytes = .ok metadata)
    (fits : metaBytes.length < 256 ^ 4) (content : Bytes) :
    mixedModeDecode host
        (toBigEndian 4 metaBytes.length ++ metaBytes ++ content) =
      .ok (metadata, content) := by
  have size_eq : metaLenSize = 4 := rfl
  have announced : ofBigEndian
      ((toBigEndian 4 metaBytes.length ++ metaBytes ++ content).take 4) =
      metaBytes.length := by
    rw [List.append_assoc, List.take_left' (length_toBigEndian _ _),
      ofBigEndian_toBigEndian fits]
  have dropped : (toBigEndian 4 metaBytes.length ++ metaBytes ++
      content).drop 4 = metaBytes ++ content := by
    rw [List.append_assoc, List.drop_left' (length_toBigEndian _ _)]
  have rest : (toBigEndian 4 metaBytes.length ++ metaBytes ++
      content).drop (4 + metaBytes.length) = content := by
    rw [← List.drop_drop, dropped, List.drop_left]
  have long : 4 + metaBytes.length ≤
      (toBigEndian 4 metaBytes.length ++ metaBytes ++ content).length := by
    simp
  unfold mixedModeDecode
  simp only [size_eq, announced, dropped, rest, List.take_left, loaded]
  rw [if_neg (by omega), if_neg (by omega)]
  rfl

/-! ## The text of a response -/

/-- The members of a response, as they are written. -/
theorem write_responseDict (status : Int) (error data : Json) :
    (Json.object [("status", .int status), ("error", error),
        ("data", data)]).write false =
      Text.ofString "\x7b\"status\": " ++ Text.ofInt status ++
        Text.ofString ", \"error\": " ++ error.write false ++
        Text.ofString ", \"data\": " ++ data.write false ++
        Text.ofString "\x7d" := by
  have statusKey : Json.writeString "status" =
      Text.ofString "\"status\"" := by decide
  have errorKey : Json.writeString "error" = Text.ofString "\"error\"" := by
    decide
  have dataKey : Json.writeString "data" = Text.ofString "\"data\"" := by
    decide
  simp only [Json.write, Json.writeMembers, Bool.false_eq_true, if_false,
    List.map_cons, List.map_nil, Text.join, statusKey, errorKey, dataKey,
    List.intercalate_cons_cons, List.intercalate_singleton, List.append_assoc]
  rfl

end RudpAgentStack

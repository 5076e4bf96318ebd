import RudpAgentStack.Agent.AtMostOnce
import RudpAgentStack.Agent.ErrorTexts

/-!
# A host whose disk fails

A host on which every operation on files fails.  Its texts are of moderate
length.
-/

namespace RudpAgentStack

open Foundation

namespace FailingHost

/-- The failure of an operation. -/
def failure : PyError := ⟨.osError, "[Errno 5] Input/output error"⟩

/-- Text of a `UnicodeDecodeError`. -/
def decodeErrorMessage : Text := "'utf-8' codec can't decode bytes"

/-- Text of a `UnicodeEncodeError`. -/
def encodeErrorMessage : Text := "'utf-8' codec can't encode characters"

/-- `json.dumps` on one line.  The object of a response without an error is
written if it fits a byte string. -/
def dumps (style : JsonStyle) (value : Json) : Except PyError Text :=
  let text := value.write style.sortKeys
  match value with
  | .object [_, (_, .null), _] =>
      if (text.flatMap Text.encodePoint).length < 2 ^ 63 then .ok text
      else .error ⟨.osError, "out of memory"⟩
  | _ => .ok text

end FailingHost

open FailingHost

/-- A host whose disk fails, given the JSON texts it can read. -/
def failingHost (texts : List (Text × Json)) : Host Unit where
  jsonLoads := fun text =>
    match texts.lookup text with
    | some value => .ok value
    | none =>
        .error ⟨.jsonDecodeError, "Expecting value: line 1 column 1 (char 0)"⟩
  jsonDumps := dumps
  decodeErrorMessage := fun _ => decodeErrorMessage
  encodeErrorMessage := fun _ => encodeErrorMessage
  repr := Json.write false
  streamRepr := fun _ => "<generator object>"
  formatMember := fun name _ => name
  sha256 := fun _ => []
  uuid4 := throw failure
  pathExists := fun _ _ => false
  getsize := fun _ => throw failure
  listdir := fun _ => throw failure
  stat := fun _ => throw failure
  makedirs := fun _ => throw failure
  readFile := fun _ => throw failure
  createEmpty := fun _ => throw failure
  appendFile := fun _ _ => throw failure
  openUpdate := fun _ => throw failure
  writeAt := fun _ _ _ => throw failure
  createTemporary := fun _ => throw failure
  writeTemporary := fun _ _ => throw failure
  flushTemporary := fun _ => throw failure
  syncTemporary := fun _ => throw failure
  closeTemporary := fun _ => throw failure
  replace := fun _ _ => throw failure
  remove := fun _ => throw failure

namespace FailingHost

theorem failure_modestly {World α : Type} (returned : α → Prop) :
    Modestly (throw failure : Action World α) returned := by
  refine Keeps.of_throw fun shown => ?_
  rcases shown with missing | isValueError
  · cases missing
  · cases isValueError

theorem length_of_dumpBytes
    {texts : List (Text × Json)} {data : Json} {bytes : Bytes}
    (dumped : (failingHost texts).dumpBytes
      (ResponseBuilder.payloadDict .ok none data) = .ok bytes) :
    bytes.length < 2 ^ 63 := by
  generalize value_eq : ResponseBuilder.payloadDict .ok none data = value
    at dumped
  have dumps_eq : dumps {} value =
      if ((value.write false).flatMap Text.encodePoint).length < 2 ^ 63 then
        .ok (value.write false)
      else .error ⟨.osError, "out of memory"⟩ := by
    rw [← value_eq]
    rfl
  change (dumps {} value >>= (failingHost texts).encode) = .ok bytes at dumped
  rw [dumps_eq] at dumped
  split at dumped
  · next fits =>
      change (failingHost texts).encode (value.write false) = .ok bytes
        at dumped
      unfold Host.encode at dumped
      split at dumped
      · next encoded =>
          cases dumped
          obtain ⟨_, rfl⟩ := Text.encodeUtf8_eq_some_iff.mp encoded
          exact fits
      · cases dumped
  · cases dumped

theorem modestHost (texts : List (Text × Json)) :
    ModestHost (failingHost texts) where
  decodeErrorMessage := fun _ =>
    show decodeErrorMessage.length ≤ 4096 by decide
  encodeErrorMessage := fun _ =>
    show encodeErrorMessage.length ≤ 4096 by decide
  formatMember := fun tool =>
    show tool.names.1.length ≤ 4096 by cases tool <;> decide
  jsonLoads := by
    intro text error refused
    simp only [failingHost] at refused
    split at refused
    · cases refused
    · cases refused
      decide
  jsonDumps := by
    intro style value error refused
    change dumps style value = .error error at refused
    unfold dumps at refused
    dsimp only at refused
    split at refused
    · split at refused
      · cases refused
      · cases refused
        decide
    · cases refused
  errorDict := fun _ _ => rfl
  responseDict := length_of_dumpBytes
  uuid4 := failure_modestly _
  getsize := fun _ => failure_modestly _
  listdir := fun _ => failure_modestly _
  stat := fun _ => failure_modestly _
  makedirs := fun _ => failure_modestly _
  readFile := fun _ => failure_modestly _
  createEmpty := fun _ => failure_modestly _
  appendFile := fun _ _ => failure_modestly _
  openUpdate := fun _ => failure_modestly _
  writeAt := fun _ _ _ => failure_modestly _
  createTemporary := fun _ => failure_modestly _
  writeTemporary := fun _ _ => failure_modestly _
  flushTemporary := fun _ => failure_modestly _
  syncTemporary := fun _ => failure_modestly _
  closeTemporary := fun _ => failure_modestly _
  replace := fun _ _ => failure_modestly _
  remove := fun _ => failure_modestly _

end FailingHost

/-! ## A chunk for a session with a long id -/

namespace Sample

/-- The metadata of an empty chunk. -/
def chunkMetadata (uploadId : Text) : Json :=
  .object
    [("upload_id", .string uploadId), ("offset", .int 0),
      ("chunk_len", .int 0)]

/-- A session id of so many characters. -/
def longSessionId (count : Nat) : Text := List.replicate count 0x78

/-- A host that reads the metadata of a chunk with that id. -/
def failingHost (count : Nat) : Host Unit :=
  RudpAgentStack.failingHost
    [((chunkMetadata (longSessionId count)).write false,
      chunkMetadata (longSessionId count))]

theorem failingHost_modest (count : Nat) : ModestHost (failingHost count) :=
  FailingHost.modestHost _

/-- A request to apply an empty chunk to the session with that id. -/
def longChunkRequest (count : Nat) : Bytes :=
  message opPutChunk 1
    (mixedModeEncode (failingHost count) (chunkMetadata (longSessionId count))
      [])

theorem write_chunkMetadata (uploadId : Text) :
    (chunkMetadata uploadId).write false =
      Text.ofString "\x7b\"upload_id\": " ++ Json.writeString uploadId ++
        Text.ofString ", \"offset\": 0, \"chunk_len\": 0\x7d" := by
  have uploadIdKey : Json.writeString "upload_id" =
      Text.ofString "\"upload_id\"" := by decide
  have offsetKey : Json.writeString "offset" = Text.ofString "\"offset\"" := by
    decide
  have chunkLenKey : Json.writeString "chunk_len" =
      Text.ofString "\"chunk_len\"" := by decide
  simp only [chunkMetadata, Json.write, Json.writeMembers,
    Bool.false_eq_true, if_false, List.map_cons, List.map_nil, Text.join,
    uploadIdKey, offsetKey, chunkLenKey, List.intercalate_cons_cons,
    List.intercalate_singleton, List.append_assoc]
  rfl

theorem length_writeString_longSessionId (count : Nat) :
    (Json.writeString (longSessionId count)).length = count + 2 := by
  have escaped : ((longSessionId count).flatMap Json.escapePoint).length =
      count := by
    unfold longSessionId
    induction count with
    | zero => rfl
    | succ count inductionHypothesis =>
      have single : (Json.escapePoint 0x78).length = 1 := by decide
      rw [List.replicate_succ, List.flatMap_cons, List.length_append,
        inductionHypothesis, single, Nat.add_comm]
  simp only [Json.writeString, List.length_append, List.length_singleton,
    escaped]
  omega

/-- The request is well framed, and asks to apply the chunk. -/
theorem longChunkRequest_framed
    {count : Nat} (positive : 0 < count) (short : count + 50 ≤ 1048576) :
    ∃ header, frame? (longChunkRequest count) = some header ∧
      header.opcode = opPutChunk ∧ header.requestId = 1 ∧
      PutChunkRequest (failingHost count)
        ((longChunkRequest count).drop headerSize)
        (.string (longSessionId count)) (.int 0) (.int 0) [] := by
  have ascii : Text.Ascii
      ((chunkMetadata (longSessionId count)).write false) := by
    apply Json.write_object_ascii
    simp
  have textLength : ((chunkMetadata (longSessionId count)).write
      false).length = count + 46 := by
    have start : (Text.ofString "\x7b\"upload_id\": ").length = 14 := rfl
    have finish : (Text.ofString
        ", \"offset\": 0, \"chunk_len\": 0\x7d").length = 30 := rfl
    rw [write_chunkMetadata, List.length_append, List.length_append,
      length_writeString_longSessionId, start, finish]
    omega
  obtain ⟨metaBytes, encoded, length_eq⟩ := Text.encodeUtf8_of_ascii ascii
  rw [textLength] at length_eq
  have dumped : (failingHost count).dumpBytes
      (chunkMetadata (longSessionId count)) = .ok metaBytes := by
    change (failingHost count).encode _ = _
    rw [Host.encode, encoded]
  have loaded : (failingHost count).loadBytes metaBytes =
      .ok (chunkMetadata (longSessionId count)) := by
    rw [Host.loadBytes, Host.decode, Text.decodeUtf8_encodeUtf8 encoded]
    change (failingHost count).jsonLoads _ = _
    simp [failingHost, RudpAgentStack.failingHost]
  have fits : metaBytes.length < 256 ^ 4 := by
    rw [length_eq]
    omega
  have payload_eq := mixedModeEncode_of_dumpBytes dumped fits []
  have payloadLength :
      ((toBigEndian 4 metaBytes.length ++ metaBytes ++ []).length : Int) ≤
        maxPayloadLen := by
    have limit : maxPayloadLen = 1048576 := rfl
    rw [List.append_nil, List.length_append, length_toBigEndian, length_eq,
      limit]
    omega
  obtain ⟨data, message_eq⟩ := encodeMessage_of_length
    (⟨by decide, by decide⟩ : Encodable opPutChunk 1) payloadLength
  have request_eq : longChunkRequest count = data := by
    simp only [longChunkRequest, message, payload_eq, bind, Except.bind,
      message_eq]
  obtain ⟨framed, dropped⟩ := frame?_of_encodeMessage message_eq
  rw [request_eq, dropped]
  refine ⟨_, framed, rfl, rfl, ⟨_, mixedModeDecode_of_loadBytes loaded fits [],
    rfl, rfl, rfl⟩, ?_, by simp, by simp⟩
  have nonempty : longSessionId count ≠ [] := by
    rw [longSessionId, ne_eq, List.replicate_eq_nil_iff]
    omega
  simpa [Json.truthy] using nonempty

/-- The call with this request. -/
def longChunkCall (count : Nat) : Call :=
  ⟨"10.0.0.1:5000", longChunkRequest count, instant 0⟩

end Sample

end RudpAgentStack

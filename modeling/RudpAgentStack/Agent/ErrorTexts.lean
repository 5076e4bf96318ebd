import RudpAgentStack.Agent.Envelopes
import RudpAgentStack.Agent.TaskConduct
import RudpAgentStack.Foundation.JsonText

/-!
# Texts of errors

The response to an exception has the text of the exception in it.  The texts of
the interpreter and of the operating system are of moderate length, so are the
texts of the agent that do not repeat what the client sent, and the response to
any of them fits an envelope.
-/

namespace RudpAgentStack

open Foundation

variable {World : Type} {host : Host World} {guard : PolicyGuard}

/-! ## The response to an exception -/

/-- The text of the exception is shown to the client. -/
def PyError.Shown (error : PyError) : Prop :=
  error.kind = .fileNotFoundError ∨ error.kind.isValueError = true

/-- The exception shows no more than so many characters. -/
def PyError.Modest (bound : Nat) (error : PyError) : Prop :=
  error.Shown → error.message.length ≤ bound

theorem PyError.Modest.of_le
    {bound other : Nat} {error : PyError} (modest : error.Modest bound)
    (larger : bound ≤ other) : error.Modest other :=
  fun shown => (modest shown).trans larger

namespace Dispatcher

/-- The JSON object of the response to an exception. -/
def errorDict (error : PyError) : Json :=
  ResponseBuilder.payloadDict (mapError error).1 (some (mapError error).2) .null

/-- The payload of the response to an exception, as text. -/
def errorText (error : PyError) : Text := (errorDict error).write false

theorem mapError_of_shown {error : PyError} (shown : error.Shown) :
    (mapError error).2 = error.message := by
  unfold mapError
  rcases shown with missing | isValueError
  · rw [if_pos missing]
  · rw [isValueError, if_pos rfl]
    dsimp only
    split_ifs <;> rfl

theorem mapError_of_not_shown {error : PyError} (hidden : ¬ error.Shown) :
    (mapError error).2 = "Internal Server Error" := by
  rw [PyError.Shown, not_or] at hidden
  rw [mapError, if_neg hidden.1, if_neg hidden.2]

theorem length_mapError_le
    {bound : Nat} {error : PyError} (modest : error.Modest bound)
    (room : 21 ≤ bound) : (mapError error).2.length ≤ bound := by
  by_cases shown : error.Shown
  · rw [mapError_of_shown shown]
    exact modest shown
  · rw [mapError_of_not_shown shown]
    exact room

end Dispatcher

/-- The object of a response is written around the text of the error. -/
theorem write_payloadDict (code : ErrorCode) (message : Text) :
    (ResponseBuilder.payloadDict code (some message) .null).write false =
      Text.ofString "\x7b\"status\": " ++ Text.ofInt code.value ++
        Text.ofString ", \"error\": " ++ Json.writeString message ++
        Text.ofString ", \"data\": null\x7d" := by
  rw [ResponseBuilder.payloadDict, write_responseDict]
  simp only [Json.write, List.append_assoc]
  rfl

theorem payloadDict_ascii (code : ErrorCode) (message : Text) :
    Text.Ascii
      ((ResponseBuilder.payloadDict code (some message) .null).write
        false) := by
  apply Json.write_object_ascii
  simp

/-- A response is longer than the text of its error, by at most twelve
characters for one of them. -/
theorem length_write_payloadDict (code : ErrorCode) (message : Text) :
    message.length + 42 ≤
        ((ResponseBuilder.payloadDict code (some message) .null).write
          false).length ∧
      ((ResponseBuilder.payloadDict code (some message) .null).write
        false).length ≤ 12 * message.length + 42 := by
  have number : (Text.ofInt code.value).length = 3 := by
    cases code <;> decide
  have start : (Text.ofString "\x7b\"status\": ").length = 11 := by decide
  have middle : (Text.ofString ", \"error\": ").length = 11 := by decide
  have finish : (Text.ofString ", \"data\": null\x7d").length = 15 := by decide
  have written := Json.length_writeString message
  rw [write_payloadDict]
  simp only [List.length_append, number, start, middle, finish]
  omega

theorem Dispatcher.length_errorText {error : PyError} (shown : error.Shown) :
    error.message.length + 42 ≤ (errorText error).length := by
  rw [errorText, errorDict, mapError_of_shown shown]
  exact (length_write_payloadDict _ _).1

/-! ## Hosts with texts of moderate length -/

/-- An operation returns what is described, and shows no long texts. -/
abbrev Modestly {α : Type} (action : Action World α) (returned : α → Prop) :
    Prop :=
  Keeps (fun _ => True) action returned (·.Modest 65536)

/-- The texts of the interpreter and of the operating system are of moderate
length.  The operations may fail in any way: no exception that clients see is
raised for a path that is too long, and only an `OSError` repeats such a path.
A path with a size has at most 32767 characters. -/
structure ModestHost (host : Host World) : Prop where
  decodeErrorMessage : ∀ bytes, (host.decodeErrorMessage bytes).length ≤ 4096
  encodeErrorMessage : ∀ text, (host.encodeErrorMessage text).length ≤ 4096
  formatMember : ∀ tool : ToolName,
    (host.formatMember tool.names.1 tool.names.2).length ≤ 4096
  jsonLoads : ∀ {text error}, host.jsonLoads text = .error error →
    error.message.length ≤ 4096
  jsonDumps : ∀ {style value error}, host.jsonDumps style value = .error error →
    error.message.length ≤ 4096
  /-- An object with a number and a string can be written. -/
  errorDict : ∀ code message,
    host.jsonDumps {}
        (ResponseBuilder.payloadDict code (some message) .null) =
      .ok ((ResponseBuilder.payloadDict code (some message) .null).write false)
  /-- A byte string has a length of 63 bits. -/
  responseDict : ∀ {data bytes},
    host.dumpBytes (ResponseBuilder.payloadDict .ok none data) = .ok bytes →
    bytes.length < 2 ^ 63
  uuid4 : Modestly host.uuid4 fun _ => True
  getsize : ∀ path, Modestly (host.getsize path) fun size =>
    (0 ≤ size ∧ size < 2 ^ 63) ∧ path.length ≤ 32767
  listdir : ∀ path, Modestly (host.listdir path) fun _ => True
  stat : ∀ path, Modestly (host.stat path) fun _ => True
  makedirs : ∀ path, Modestly (host.makedirs path) fun _ => True
  readFile : ∀ path, Modestly (host.readFile path) (·.length < 2 ^ 63)
  createEmpty : ∀ path, Modestly (host.createEmpty path) fun _ => True
  appendFile : ∀ path data, Modestly (host.appendFile path data) fun _ => True
  openUpdate : ∀ path, Modestly (host.openUpdate path) fun _ => True
  writeAt : ∀ path position data,
    Modestly (host.writeAt path position data) fun _ => True
  createTemporary : ∀ directory,
    Modestly (host.createTemporary directory) fun _ => True
  writeTemporary : ∀ name data,
    Modestly (host.writeTemporary name data) fun _ => True
  flushTemporary : ∀ name, Modestly (host.flushTemporary name) fun _ => True
  syncTemporary : ∀ name, Modestly (host.syncTemporary name) fun _ => True
  closeTemporary : ∀ name, Modestly (host.closeTemporary name) fun _ => True
  replace : ∀ source target, Modestly (host.replace source target) fun _ => True
  remove : ∀ path, Modestly (host.remove path) fun _ => True

namespace ModestHost

/-- The conduct of such a host. -/
def answering (modest : ModestHost host) (guard : PolicyGuard) :
    Conduct host guard where
  invariant := fun _ => True
  raised := (·.Modest 65536)
  size := fun path size => (0 ≤ size ∧ size < 2 ^ 63) ∧ path.length ≤ 32767
  content := (·.length < 2 ^ 63)
  writable := fun _ => True
  temporary := fun _ => True
  uuid4 := modest.uuid4
  getsize := modest.getsize
  listdir := modest.listdir _
  stat := modest.stat
  makedirs := fun _ => modest.makedirs _
  readFile := fun _ => modest.readFile _
  createEmpty := fun _ => modest.createEmpty _
  appendFile := fun data _ => modest.appendFile _ data
  openUpdate := fun _ => modest.openUpdate _
  writeAt := fun position data _ => modest.writeAt _ position data
  createTemporary := fun _ _ => modest.createTemporary _
  writeTemporary := fun data _ => modest.writeTemporary _ data
  flushTemporary := fun _ => modest.flushTemporary _
  syncTemporary := fun _ => modest.syncTemporary _
  closeTemporary := fun _ => modest.closeTemporary _
  replace := fun _ _ => modest.replace _ _
  remove := fun _ => modest.remove _

/-- The object of an error is written with a byte for each character. -/
theorem dumpBytes_errorDict
    (modest : ModestHost host) (code : ErrorCode) (message : Text) :
    ∃ bytes,
      host.dumpBytes
          (ResponseBuilder.payloadDict code (some message) .null) =
        .ok bytes ∧
      bytes.length =
        ((ResponseBuilder.payloadDict code (some message) .null).write
          false).length := by
  obtain ⟨bytes, encoded, length_eq⟩ :=
    Text.encodeUtf8_of_ascii (payloadDict_ascii code message)
  refine ⟨bytes, ?_, length_eq⟩
  rw [Host.dumpBytes, modest.errorDict]
  change host.encode _ = _
  rw [Host.encode, encoded]

/-- What is answered when a response cannot be serialised is short. -/
theorem length_of_fallback
    (modest : ModestHost host) {serialized : Bytes}
    (dumped : host.dumpBytes ResponseBuilder.fallbackDict = .ok serialized) :
    serialized.length < 2 ^ 63 := by
  obtain ⟨bytes, dumped', length_eq⟩ := modest.dumpBytes_errorDict
    .internalServerError "Response serialization failed"
  have written := (length_write_payloadDict .internalServerError
    "Response serialization failed").2
  obtain rfl := Except.ok.inj (dumped.symm.trans dumped')
  rw [length_eq]
  exact written.trans_lt (by decide)

theorem taskWritesAllowed
    (modest : ModestHost host) (header : AppHeader) (payload : Bytes) :
    TaskWritesAllowed (modest.answering guard) header payload :=
  ⟨fun _ _ _ _ _ => trivial, fun _ _ _ _ _ _ _ => trivial⟩

end ModestHost

/-! ## Failures show texts of moderate length -/

theorem length_ofString (literal : String) :
    (Text.ofString literal).length = literal.length := by
  rw [Text.ofString, List.length_map, String.length_toList]

/-- Numbers of 65 bits have at most twenty digits. -/
theorem length_ofInt_le {number : Int} (natural : 0 ≤ number)
    (bound : number < 2 ^ 65) : (Text.ofInt number).length ≤ 20 := by
  obtain ⟨value, rfl⟩ := Int.eq_ofNat_of_zero_le natural
  refine Text.length_ofInt_le (by decide) ?_
  have small : value < 2 ^ 65 := by exact_mod_cast bound
  exact small.trans (by decide)

theorem Plain.modest {error : PyError} (isPlain : Plain error) :
    error.Modest 64 := by
  cases isPlain with
  | internal notMissing noValueError =>
    rintro (missing | isValueError)
    · exact absurd missing notMissing
    · rw [noValueError] at isValueError
      cases isValueError
  | fixed text short =>
    intro _
    rwa [length_ofString]

theorem Unreadable.modest
    (modest : ModestHost host) {error : PyError}
    (unreadable : Unreadable host error) : error.Modest 4128 := by
  cases unreadable with
  | plain isPlain => exact isPlain.modest.of_le (by decide)
  | decoding bytes =>
    exact fun _ => (modest.decodeErrorMessage bytes).trans (by decide)
  | parsing refused =>
    exact fun _ => (modest.jsonLoads refused).trans (by decide)
  | metadata refused =>
    intro _
    have short := modest.jsonLoads refused
    have fixed : ("Invalid JSON metadata: " : String).length = 23 := rfl
    simp only [List.length_append, length_ofString, fixed]
    omega
  | incomplete required actual announced missing =>
    intro _
    have size_eq : metaLenSize = 4 := rfl
    have first : (Text.ofInt required).length ≤ 20 :=
      length_ofInt_le (by omega) (by omega)
    have second : (Text.ofInt actual).length ≤ 20 :=
      length_ofInt_le (by omega) (by omega)
    have start :
        ("Payload incomplete. Expected at least " : String).length = 38 := rfl
    have middle : (" bytes, got " : String).length = 12 := rfl
    simp only [List.length_append, length_ofString, start, middle]
    omega

theorem Malformed.modest
    (modest : ModestHost host) {error : PyError}
    (malformed : Malformed host error) : error.Modest 4160 := by
  cases malformed with
  | unreadable isUnreadable =>
    exact (isUnreadable.modest modest).of_le (by decide)
  | introduced introduction short isValueError isUnreadable =>
    intro _
    have bounded := isUnreadable.modest modest (.inr isValueError)
    rw [List.length_append, length_ofString]
    omega

/-- A failure shows a text of moderate length. -/
theorem Failure.modest
    (modest : ModestHost host) {payload : Bytes} {error : PyError}
    (failure : Failure (modest.answering guard) payload error)
    (sent : (payload.length : Int) ≤ maxPayloadLen) :
    error.Modest 70000 := by
  have largest : (Text.ofInt maxFileSize).length = 7 := by decide
  have most : (Text.ofInt maxPayloadLen).length = 7 := by decide
  cases failure with
  | operation raised => exact raised.of_le (by decide)
  | introduced introduction short isValueError raised =>
    intro _
    have bounded := raised (.inr isValueError)
    rw [List.length_append, length_ofString]
    omega
  | malformed isMalformed => exact (isMalformed.modest modest).of_le (by decide)
  | encoding text =>
    exact fun _ => (modest.encodeErrorMessage text).trans (by decide)
  | dumping refused => exact fun _ => (modest.jsonDumps refused).trans (by decide)
  | fileTooLarge measured =>
    intro _
    obtain ⟨⟨natural, small⟩, _⟩ := measured
    have shown := length_ofInt_le natural (small.trans (by decide))
    have start : ("File too large: " : String).length = 16 := rfl
    have middle : (" > " : String).length = 3 := rfl
    simp only [List.length_append, length_ofString, start, middle, largest]
    omega
  | @appendTooLarge path size added measured isPart =>
    intro _
    obtain ⟨⟨natural, small⟩, _⟩ := measured
    have limit : maxPayloadLen = 1048576 := rfl
    have shown : (Text.ofInt (size + added)).length ≤ 20 :=
      length_ofInt_le (by omega) (by omega)
    have start :
        ("Append would exceed max file size: " : String).length = 35 := rfl
    have middle : (" > " : String).length = 3 := rfl
    simp only [List.length_append, length_ofString, start, middle, largest]
    omega
  | readTooLarge measured =>
    intro _
    obtain ⟨_, short⟩ := measured
    have start : ("File " : String).length = 5 := rfl
    have finish :
        (" too large for READ_FILE. Use Streaming." : String).length = 40 := rfl
    simp only [List.length_append, length_ofString, start, finish]
    omega
  | missingInput tool short =>
    intro _
    have named := modest.formatMember tool
    have start : ("Step " : String).length = 5 := rfl
    have middle : (" requires " : String).length = 10 := rfl
    have finish : (" which is missing from context." : String).length = 31 := rfl
    simp only [List.length_append, length_ofString, start, middle, finish]
    omega
  | @responseTooLong value serialized content length isResponse dumped read
      bounded =>
    intro _
    have size_eq : metaLenSize = 4 := rfl
    have dumpedBounded : serialized.length < 2 ^ 63 := by
      rcases isResponse with ⟨data, rfl⟩ | rfl
      · exact modest.responseDict dumped
      · exact modest.length_of_fallback dumped
    have readBounded : content.length < 2 ^ 63 := by
      rcases read with rfl | read
      · decide
      · exact read
    have shown : (Text.ofInt length).length ≤ 20 :=
      length_ofInt_le (by omega) (by omega)
    have start : ("Payload length " : String).length = 15 := rfl
    have middle : (" exceeds max " : String).length = 13 := rfl
    simp only [List.length_append, length_ofString, start, middle, most]
    omega

end RudpAgentStack

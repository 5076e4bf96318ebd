import RudpAgentStack.Agent.MemoryHost
import RudpAgentStack.Agent.TaskChecks
import RudpAgentStack.Foundation.Phrases

/-!
# Status codes and failed checks

The dispatcher chooses the status of an error by looking for phrases in the
text of the exception.  The status is that of the failed check unless the
check shows a text of the client with such a phrase in it, raises an exception
the dispatcher does not expect, or words its own text in another way.
-/

namespace RudpAgentStack

open Foundation

/-- The status that is documented for a check. -/
def Check.status : Check → ErrorCode
  | .leavesSandbox => .forbidden
  | .sizeLimit => .payloadTooLarge
  | .noSuchFile => .notFound
  | .rejected => .badRequest
  | .operatingSystem => .internalServerError

/-! ## Phrases -/

/-- What the dispatcher takes for a path outside the sandbox. -/
def policyPhrases : List Text := ["traversal", "not allowed"]

/-- What the dispatcher takes for a size limit. -/
def sizePhrases : List Text := ["too large", "exceeds"]

/-- Some of the phrases is in the text, in letters of any case. -/
def Mentions (phrases : List Text) (text : Text) : Prop :=
  ∃ phrase ∈ phrases, phrase <:+: Text.lower text

instance (phrases : List Text) (text : Text) :
    Decidable (Mentions phrases text) :=
  inferInstanceAs (Decidable (∃ phrase ∈ phrases, _))

/-- No phrase occurs in either text, reaches from the first one into what
follows it, or from what precedes it into the second one. -/
def Framing (phrases : List Text) (left right : Text) : Prop :=
  ∀ phrase ∈ phrases,
    (NoneBegins phrase (Text.lower left) ∧ ¬ phrase <:+: Text.lower left) ∧
      NoneEnds phrase (Text.lower right) ∧ ¬ phrase <:+: Text.lower right

instance (phrases : List Text) (left right : Text) :
    Decidable (Framing phrases left right) :=
  inferInstanceAs (Decidable (∀ phrase ∈ phrases, _))

theorem lower_append (first second : Text) :
    Text.lower (first ++ second) = Text.lower first ++ Text.lower second :=
  List.map_append

/-- A framed text mentions what it mentions without its frame. -/
theorem Framing.mentions_iff
    {phrases : List Text} {left right : Text}
    (framing : Framing phrases left right) (text : Text) :
    Mentions phrases (left ++ text ++ right) ↔ Mentions phrases text := by
  unfold Mentions
  refine exists_congr fun phrase => and_congr_right fun member => ?_
  obtain ⟨⟨noneBegins, notLeft⟩, noneEnds, notRight⟩ := framing phrase member
  rw [lower_append, lower_append, noneEnds.infix_append_iff notRight,
    noneBegins.infix_append_iff notLeft]

/-- Letters are no parts of numbers. -/
theorem not_mem_lower_ofInt
    {letter : CodePoint} (isLetter : 0x39 < letter.val) (number : Int) :
    letter ∉ Text.lower (Text.ofInt number) := by
  intro member
  obtain ⟨point, ofNumber, lowered⟩ := List.mem_map.mp member
  have bounded := Text.le_of_mem_ofInt ofNumber
  rw [if_neg (by omega)] at lowered
  subst lowered
  omega

/-- Each of the phrases has a letter that occurs in neither text. -/
def Lacking (phrases : List Text) (before behind : Text) : Prop :=
  ∀ phrase ∈ phrases, ∃ letter ∈ phrase, 0x39 < letter.val ∧
    letter ∉ Text.lower before ∧ letter ∉ Text.lower behind

instance (phrases : List Text) (before behind : Text) :
    Decidable (Lacking phrases before behind) :=
  -- only the letters of a phrase are tried, not all code points
  decidable_of_iff
    ((phrases.all fun phrase => phrase.any fun letter =>
      decide (0x39 < letter.val) && !(Text.lower before).elem letter &&
        !(Text.lower behind).elem letter) = true)
    (by simp [Lacking, and_assoc])

theorem Lacking.not_mentions
    {phrases : List Text} {before behind : Text}
    (lacking : Lacking phrases before behind) (number : Int) :
    ¬ Mentions phrases (before ++ Text.ofInt number ++ behind) := by
  rintro ⟨phrase, member, occurs⟩
  obtain ⟨letter, inPhrase, isLetter, notBefore, notBehind⟩ :=
    lacking phrase member
  refine not_infix_of_not_mem inPhrase ?_ occurs
  rw [lower_append, lower_append, List.mem_append, List.mem_append]
  have notNumber := not_mem_lower_ofInt isLetter number
  tauto

/-- A frame that shows a number behind the text. -/
theorem Framing.of_number
    {phrases : List Text} {left before behind : Text}
    (apart : ∀ phrase ∈ phrases,
      (NoneBegins phrase (Text.lower left) ∧ ¬ phrase <:+: Text.lower left) ∧
        ∀ length ∈ List.range phrase.length,
          ¬ phrase.drop length <+: Text.lower before ∧
            ¬ Text.lower before <+: phrase.drop length)
    (lacking : Lacking phrases before behind) (number : Int) :
    Framing phrases left (before ++ Text.ofInt number ++ behind) := by
  intro phrase member
  obtain ⟨onTheLeft, start⟩ := apart phrase member
  refine ⟨onTheLeft, ?_, fun occurs =>
    lacking.not_mentions number ⟨phrase, member, occurs⟩⟩
  rw [lower_append, lower_append, List.append_assoc]
  exact NoneEnds.of_start start _

/-! ## Statuses -/

/-- The status of the response to an exception. -/
def PyError.status (error : PyError) : ErrorCode :=
  (Dispatcher.mapError error).1

namespace PyError

theorem mentions_pair_iff (first second text : Text) :
    Mentions [first, second] text ↔
      (Text.contains (Text.lower text) first ||
        Text.contains (Text.lower text) second) = true := by
  simp [Mentions, Text.contains]

theorem status_eq (error : PyError) :
    error.status =
      if error.kind = .fileNotFoundError then .notFound
      else if error.kind.isValueError = true then
        if Mentions policyPhrases error.message then .forbidden
        else if Mentions sizePhrases error.message then .payloadTooLarge
        else .badRequest
      else .internalServerError := by
  rw [status, Dispatcher.mapError, policyPhrases, sizePhrases]
  simp only [mentions_pair_iff]
  split_ifs <;> rfl

variable {error : PyError} (isValueError : error.kind.isValueError = true)
include isValueError

theorem status_of_isValueError :
    error.status =
      if Mentions policyPhrases error.message then .forbidden
      else if Mentions sizePhrases error.message then .payloadTooLarge
      else .badRequest := by
  have present : error.kind ≠ .fileNotFoundError := by
    intro missing
    rw [missing] at isValueError
    cases isValueError
  rw [status_eq, if_neg present, if_pos isValueError]

theorem status_eq_forbidden_iff :
    error.status = .forbidden ↔ Mentions policyPhrases error.message := by
  rw [status_of_isValueError isValueError]
  split_ifs <;> simp_all

theorem status_eq_payloadTooLarge_iff :
    error.status = .payloadTooLarge ↔
      ¬ Mentions policyPhrases error.message ∧
        Mentions sizePhrases error.message := by
  rw [status_of_isValueError isValueError]
  split_ifs <;> simp_all

theorem status_eq_badRequest_iff :
    error.status = .badRequest ↔
      ¬ Mentions (policyPhrases ++ sizePhrases) error.message := by
  have either : Mentions (policyPhrases ++ sizePhrases) error.message ↔
      Mentions policyPhrases error.message ∨
        Mentions sizePhrases error.message := by
    unfold Mentions
    simp only [List.mem_append, or_and_right, exists_or]
  rw [status_of_isValueError isValueError, either]
  split_ifs <;> simp_all

end PyError

/-! ## Reasons -/

namespace Reason

/-- The status of the response to a request that fails for the reason. -/
def status (reason : Reason) : ErrorCode := reason.error.status

/-- The status of the reason is that of its check.  The check for the size of
an appended file words its text in another way, one policy of tasks does, and
the dispatcher takes every `FileNotFoundError` for one of the named file. -/
def Reflected : Reason → Prop
  | .unknownOpcode _ | .leavesSandbox | .fileTooLarge _ | .responseTooLong _ =>
      True
  | .appendTooLarge _ | .outputTooLong => False
  | .uploadTooLarge shown | .readTooLarge shown =>
      ¬ Mentions policyPhrases shown
  | .alreadyExists shown | .chunkMismatch shown _ | .unknownSession shown
  | .overlappingChunk shown _ | .outOfOrderChunk shown _ =>
      ¬ Mentions (policyPhrases ++ sizePhrases) shown
  | .exception onNamedFile error =>
      if error.kind = .fileNotFoundError then onNamedFile = true
      else if error.kind.isValueError = true then
        ¬ Mentions (policyPhrases ++ sizePhrases) error.message
      else error.kind.isOsError = true
  | .invalidMetadata reason => reason.Reflected

/-- An exception of the interpreter or of the operating system. -/
theorem status_exception_iff (onNamedFile : Bool) (error : PyError) :
    (exception onNamedFile error).status =
        (exception onNamedFile error).check.status ↔
      (exception onNamedFile error).Reflected := by
  by_cases missing : error.kind = .fileNotFoundError
  · have found : error.status = .notFound := by
      rw [PyError.status_eq, if_pos missing]
    change error.status = _ ↔ _
    rw [found, check, Reflected, if_pos missing, missing]
    cases onNamedFile <;> decide
  by_cases isValueError : error.kind.isValueError = true
  · have notOs : ¬ error.kind.isOsError = true := by
      cases kind : error.kind <;>
        simp_all [ErrorKind.isValueError, ErrorKind.isOsError]
    change error.status = _ ↔ _
    rw [check, if_neg (fun both => missing both.1), if_neg notOs, Reflected,
      if_neg missing, if_pos isValueError]
    exact PyError.status_eq_badRequest_iff isValueError
  · have internal : error.status = .internalServerError := by
      rw [PyError.status_eq, if_neg missing, if_neg isValueError]
    change error.status = _ ↔ _
    rw [internal, check, if_neg (fun both => missing both.1), Reflected,
      if_neg missing, if_neg isValueError]
    cases error.kind.isOsError <;> decide

/-- The introduction of PUT_CHUNK does not change the status. -/
theorem status_invalidMetadata (reason : Reason) :
    (invalidMetadata reason).status = reason.status := by
  have framing : ∀ phrases ∈ [policyPhrases, sizePhrases],
      Framing phrases "Invalid metadata format: " [] := by decide
  have same : ∀ phrases ∈ [policyPhrases, sizePhrases], ∀ text : Text,
      Mentions phrases ("Invalid metadata format: " ++ text) ↔
        Mentions phrases text := by
    intro phrases member text
    have framed := (framing phrases member).mentions_iff text
    rwa [List.append_nil] at framed
  change (RudpAgentStack.rescued ErrorKind.isValueError _ reason.error).status =
    reason.error.status
  rw [RudpAgentStack.rescued]
  split
  · next isValueError =>
      rw [PyError.status_of_isValueError isValueError,
        PyError.status_of_isValueError rfl]
      simp only [same policyPhrases (by decide), same sizePhrases (by decide)]
  · rfl

/-- A refusal that shows a text of the client. -/
theorem status_shown_iff
    {left right : Text}
    (framing : Framing (policyPhrases ++ sizePhrases) left right)
    (shown : Text) :
    (PyError.mk .valueError (left ++ shown ++ right)).status = .badRequest ↔
      ¬ Mentions (policyPhrases ++ sizePhrases) shown := by
  rw [PyError.status_eq_badRequest_iff rfl, framing.mentions_iff]

/-- A size limit with a text of the client. -/
theorem status_tooLarge_iff
    {left right : Text} (framing : Framing policyPhrases left right)
    (sized : ∃ phrase ∈ sizePhrases, phrase <:+: Text.lower right)
    (shown : Text) :
    (PyError.mk .valueError (left ++ shown ++ right)).status =
        .payloadTooLarge ↔
      ¬ Mentions policyPhrases shown := by
  rw [PyError.status_eq_payloadTooLarge_iff rfl, framing.mentions_iff]
  apply and_iff_left
  obtain ⟨phrase, member, occurs⟩ := sized
  refine ⟨phrase, member, ?_⟩
  rw [lower_append]
  exact List.infix_append_of_infix_right occurs

/-- A size limit with nothing but numbers. -/
theorem status_tooLarge_number
    {before behind : Text} (lacking : Lacking policyPhrases before behind)
    (sized : ∃ phrase ∈ sizePhrases,
      phrase <:+: Text.lower before ∨ phrase <:+: Text.lower behind)
    (number : Int) :
    (PyError.mk .valueError (before ++ Text.ofInt number ++ behind)).status =
      .payloadTooLarge := by
  rw [PyError.status_eq_payloadTooLarge_iff rfl]
  refine ⟨lacking.not_mentions number, ?_⟩
  obtain ⟨phrase, member, occurs⟩ := sized
  refine ⟨phrase, member, ?_⟩
  rw [lower_append, lower_append]
  rcases occurs with early | late
  · exact List.infix_append_of_infix_left (List.infix_append_of_infix_left early)
  · exact List.infix_append_of_infix_right late

theorem status_fileTooLarge (size : Int) :
    (fileTooLarge size).status = .payloadTooLarge := by
  rw [status, error, List.append_assoc]
  exact status_tooLarge_number (by decide) (by decide) size

theorem status_responseTooLong (length : Nat) :
    (responseTooLong length).status = .payloadTooLarge := by
  rw [status, error, List.append_assoc]
  exact status_tooLarge_number (by decide) (by decide) length

theorem status_uploadTooLarge_iff (totalSize : Text) :
    (uploadTooLarge totalSize).status = .payloadTooLarge ↔
      ¬ Mentions policyPhrases totalSize := by
  rw [status, error, List.append_assoc]
  exact status_tooLarge_iff (by decide) (by decide) totalSize

theorem status_readTooLarge_iff (path : Text) :
    (readTooLarge path).status = .payloadTooLarge ↔
      ¬ Mentions policyPhrases path :=
  status_tooLarge_iff (by decide) (by decide) path

theorem status_alreadyExists_iff (filename : Text) :
    (alreadyExists filename).status = .badRequest ↔
      ¬ Mentions (policyPhrases ++ sizePhrases) filename :=
  status_shown_iff (by decide) filename

theorem status_unknownSession_iff (uploadId : Text) :
    (unknownSession uploadId).status = .badRequest ↔
      ¬ Mentions (policyPhrases ++ sizePhrases) uploadId :=
  status_shown_iff (by decide) uploadId

theorem status_chunkMismatch_iff (declared : Text) (actual : Nat) :
    (chunkMismatch declared actual).status = .badRequest ↔
      ¬ Mentions (policyPhrases ++ sizePhrases) declared := by
  have framing := @Framing.of_number (policyPhrases ++ sizePhrases)
    "Chunk length mismatch: Declared " ", Actual " [] (by decide) (by decide)
    actual
  rw [List.append_nil] at framing
  rw [status, error, List.append_assoc]
  exact status_shown_iff framing declared

theorem status_overlappingChunk_iff (offset : Text) (expected : Int) :
    (overlappingChunk offset expected).status = .badRequest ↔
      ¬ Mentions (policyPhrases ++ sizePhrases) offset := by
  have framing := @Framing.of_number (policyPhrases ++ sizePhrases)
    "Overlapping chunk at " " (expected " ")" (by decide) (by decide) expected
  rw [List.append_assoc] at framing
  rw [status, error, List.append_assoc, List.append_assoc]
  exact status_shown_iff framing offset

theorem status_outOfOrderChunk_iff (offset : Text) (expected : Int) :
    (outOfOrderChunk offset expected).status = .badRequest ↔
      ¬ Mentions (policyPhrases ++ sizePhrases) offset := by
  have framing := @Framing.of_number (policyPhrases ++ sizePhrases)
    "Out-of-order chunk: Got " ", expected " [] (by decide) (by decide)
    expected
  rw [List.append_nil] at framing
  rw [status, error, List.append_assoc]
  exact status_shown_iff framing offset

theorem status_unknownOpcode (opcode : Int) :
    (unknownOpcode opcode).status = .badRequest := by
  have lacking : Lacking (policyPhrases ++ sizePhrases) "Unknown Opcode: " [] :=
    by decide
  have silent := lacking.not_mentions opcode
  rw [List.append_nil] at silent
  exact (PyError.status_eq_badRequest_iff rfl).mpr silent

theorem status_leavesSandbox : leavesSandbox.status = .forbidden :=
  (PyError.status_eq_forbidden_iff rfl).mpr (by decide)

/-- The text about an appended file has "exceed" in it, but not "exceeds". -/
theorem status_appendTooLarge_ne (size : Int) :
    (appendTooLarge size).status ≠ .payloadTooLarge := by
  intro tooLarge
  obtain ⟨-, phrase, member, occurs⟩ :=
    (PyError.status_eq_payloadTooLarge_iff rfl).mp tooLarge
  have apart : ∀ phrase ∈ sizePhrases,
      NoneBegins phrase (Text.lower "Append would exceed max file size: ") ∧
        ¬ phrase <:+: Text.lower "Append would exceed max file size: " := by
    decide
  have lacking : Lacking sizePhrases [] (" > " ++ Text.ofInt maxFileSize) := by
    decide
  obtain ⟨noneBegins, absent⟩ := apart phrase member
  rw [error, List.append_assoc, List.append_assoc, lower_append,
    noneBegins.infix_append_iff absent] at occurs
  exact lacking.not_mentions size ⟨phrase, member, occurs⟩

/-- The text about an inline output has "exceeded" in it, but not
"exceeds". -/
theorem status_outputTooLong_ne : outputTooLong.status ≠ .payloadTooLarge := by
  intro tooLarge
  have mentions := ((PyError.status_eq_payloadTooLarge_iff rfl).mp tooLarge).2
  exact absurd mentions (by decide)

/-- The status is that of the failed check, exactly where it is reflected. -/
theorem status_eq_iff (reason : Reason) :
    reason.status = reason.check.status ↔ reason.Reflected := by
  induction reason with
  | unknownOpcode opcode =>
      exact iff_of_true (status_unknownOpcode opcode) trivial
  | leavesSandbox => exact iff_of_true status_leavesSandbox trivial
  | uploadTooLarge totalSize => exact status_uploadTooLarge_iff totalSize
  | fileTooLarge size => exact iff_of_true (status_fileTooLarge size) trivial
  | appendTooLarge size => exact iff_of_false (status_appendTooLarge_ne size) id
  | readTooLarge path => exact status_readTooLarge_iff path
  | responseTooLong length =>
      exact iff_of_true (status_responseTooLong length) trivial
  | outputTooLong => exact iff_of_false status_outputTooLong_ne id
  | alreadyExists filename => exact status_alreadyExists_iff filename
  | chunkMismatch declared actual =>
      exact status_chunkMismatch_iff declared actual
  | unknownSession uploadId => exact status_unknownSession_iff uploadId
  | overlappingChunk offset expected =>
      exact status_overlappingChunk_iff offset expected
  | outOfOrderChunk offset expected =>
      exact status_outOfOrderChunk_iff offset expected
  | exception onNamedFile error =>
      exact status_exception_iff onNamedFile error
  | invalidMetadata reason inductionHypothesis =>
      rw [status_invalidMetadata]
      exact inductionHypothesis

/-- Of two reflected reasons with the same check the statuses are the same,
whatever they show. -/
theorem status_eq_of_check_eq
    {first second : Reason} (same : first.check = second.check)
    (firstReflected : first.Reflected) (secondReflected : second.Reflected) :
    first.status = second.status := by
  rw [first.status_eq_iff.mpr firstReflected,
    second.status_eq_iff.mpr secondReflected, same]

end Reason

/-! ## Sample uploads of existing files -/

namespace Sample

open MemoryHost

/-- The request to upload a file that must not exist. -/
def newFileData (filename : Text) : Json :=
  .object [("filename", .string filename), ("total_size", .int 1)]

def newFilePayload (filename : Text) : Bytes :=
  ((newFileData filename).write false).flatMap Text.encodePoint

def newFileHeader : AppHeader := ⟨protocolVersion, opPutMeta, 0, 0, 7, 50⟩

/-- A host that reads the requests for two files. -/
def newFileHost : Host Files :=
  memoryHost
    [((newFileData "notes.txt").write false, newFileData "notes.txt"),
      ((newFileData "traversal.txt").write false, newFileData "traversal.txt")]
    []

/-- A server with both files. -/
def bothFiles : AgentState Files :=
  AgentServer.new (files.set "/sandbox/traversal.txt" [0x7A])

end Sample

/-! ## Responses -/

namespace Dispatcher

variable {World : Type} {host : Host World} {guard : PolicyGuard}
  {header : AppHeader} {payload : Bytes} {clientAddress : Option (Text × Int)}
  {now : Readings} {state after : AgentState World} {reason : Reason}

/-- A request that passes all checks is answered with what its handler
returns. -/
theorem dispatch_run_passed
    {envelope : Bytes}
    (passed : (Checked.dispatch host guard header payload clientAddress
      now).run state = (.ok envelope, after)) :
    (dispatch host guard header payload clientAddress now).run state =
      (.ok envelope, after) := by
  cases routed : handlers.lookup header.opcode with
  | none =>
      rw [Checked.dispatch_run_unknown routed] at passed
      cases passed
  | some handler =>
      rw [Checked.erased_dispatch routed, Action.run_tryCatch, Checked.erased,
        adapt_run, passed]
      rfl

/-- A request that fails a check is answered with the status of the reason. -/
theorem dispatch_run_failed
    (failed : (Checked.dispatch host guard header payload clientAddress
      now).run state = (.error reason, after)) :
    ∃ message,
      (dispatch host guard header payload clientAddress now).run state =
        (ResponseBuilder.buildErrorResponse host header.opcode
          header.requestId reason.status message, after) := by
  cases routed : handlers.lookup header.opcode with
  | none =>
      rw [Checked.dispatch_run_unknown routed] at failed
      cases failed
      refine ⟨"Unknown Opcode: " ++ Text.ofInt header.opcode, ?_⟩
      rw [Reason.status_unknownOpcode]
      unfold dispatch
      rw [routed]
      rfl
  | some handler =>
      refine ⟨(mapError reason.error).2, ?_⟩
      rw [Checked.erased_dispatch routed, Action.run_tryCatch, Checked.erased,
        adapt_run, failed]
      rfl

end Dispatcher

end RudpAgentStack

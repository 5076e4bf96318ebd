import RudpAgentStack.Agent.BufferedUploads
import RudpAgentStack.Agent.FileRequests

/-!
# The effect of one upload request

What a request does to files and sessions when chunks must come in order, as
the server demands.  A request starts an upload, applies a chunk to one, or
keeps the sessions as they are; and it changes no file but the one it names.
-/

namespace RudpAgentStack

open Foundation UploadSessionManager

variable {World : Type} {host : Host World} {guard : PolicyGuard}

/-! ## What is reported and named -/

/-- The session and the status that a result reports. -/
def HandlerResult.reported? : HandlerResult → Option (Text × Text)
  | .data (.object entries) _ =>
      match Json.get entries "upload_id", Json.get entries "status" with
      | .string uploadId, .string status => some (uploadId, status)
      | _, _ => none
  | _ => none

namespace FileRequest

/-- The session and the status that the answer to a request reports. -/
def reported?
    (host : Host World) (guard : PolicyGuard) (workspace : Workspace World)
    (request : FileRequest) : Option (Text × Text) :=
  match ((request.handle host guard .strict).run workspace).1 with
  | .ok result => result.reported?
  | .error _ => none

/-- The chunk that a request applies to the session of an id. -/
def appliedChunk?
    (host : Host World) (guard : PolicyGuard) (uploadId : Text)
    (workspace : Workspace World) (request : FileRequest) : Option Bytes :=
  match request, request.reported? host guard workspace with
  | .putChunk payload, some (key, status) =>
      if key = uploadId ∧
          (status = "Chunk Applied" ∨ status = "Upload Complete") then
        (mixedModeDecode host payload).toOption.map Prod.snd
      else none
  | _, _ => none

theorem appliedChunk?_eq_none
    {uploadId : Text} {workspace : Workspace World} {request : FileRequest}
    (unapplied : ∀ status,
      request.reported? host guard workspace = some (uploadId, status) →
        ¬ (status = "Chunk Applied" ∨ status = "Upload Complete")) :
    request.appliedChunk? host guard uploadId workspace = none := by
  unfold appliedChunk?
  split
  · next payload key status reported =>
      rw [if_neg]
      rintro ⟨rfl, applied⟩
      exact unapplied status reported applied
  · rfl

theorem appliedChunk?_of_reported
    {payload chunkData : Bytes} {uploadId status : Text}
    {key offset chunkLen : Json} {workspace : Workspace World}
    (asks : PutChunkRequest host payload key offset chunkLen chunkData)
    (applied : status = "Chunk Applied" ∨ status = "Upload Complete")
    (reported : (FileRequest.putChunk payload).reported? host guard workspace =
      some (uploadId, status)) :
    (FileRequest.putChunk payload).appliedChunk? host guard uploadId workspace =
      some chunkData := by
  obtain ⟨entries, decoded, _⟩ := asks.read
  unfold appliedChunk?
  rw [reported]
  dsimp only
  rw [if_pos ⟨rfl, applied⟩, decoded]
  rfl

/-- The request is about the file of a path. -/
def Targets
    (host : Host World) (guard : PolicyGuard) (workspace : Workspace World)
    (path : Text) : FileRequest → Prop
  | .putMeta payload => ∃ filename totalSize size overwrite,
      PutMetaRequest host guard payload filename path totalSize size overwrite
  | .putChunk payload => ∃ uploadId offset chunkLen chunkData session,
      PutChunkRequest host payload (.string uploadId) offset chunkLen
        chunkData ∧
      workspace.sessions.get? uploadId = some session ∧
      guard.validatePath (.string session.filename) = .ok path
  | .append payload => ∃ filename binaryData,
      AppendRequest host guard payload filename path binaryData

end FileRequest

/-! ## Rules -/

/-- A rescued computation ends as before, with other exceptions. -/
theorem ends_rescue
    {State α : Type} {caught : ErrorKind → Bool} {replacement : Text → Text}
    {action : Action State α} {state : State} {returned : α → State → Prop}
    {left : State → Prop}
    (ends : Ends action state returned (fun _ after => left after)) :
    Ends (rescue caught replacement action) state returned
      (fun _ after => left after) := by
  unfold Ends at ends ⊢
  rw [rescue_run]
  generalize action.run state = result at ends ⊢
  obtain ⟨error | value, after⟩ := result <;> exact ends

section Effects

variable (files : FileSystem host)

/-! ## Starting an upload -/

/-- A started upload has an empty file and a session of its own. -/
theorem startUpload_ends
    (filename : Json) (absPath : Text) (totalSize : Json) (size : FloatValue)
    (overwrite : Bool) (before : Workspace World) :
    Ends (startUpload host filename absPath totalSize size overwrite) before
      (fun result after => ∃ uploadId,
        result.reported? = some (uploadId, Text.ofString "ready") ∧
        files.content after.world =
          Function.update (files.content before.world) absPath (some []) ∧
        after.sessions = before.sessions.set uploadId
          { uploadId, filename := host.str filename, totalSize })
      (fun _ after => after.sessions = before.sessions ∧
        ∀ other, other ≠ absPath →
          files.content after.world other =
            files.content before.world other) := by
  have looks : ∀ raised, Ends (onWorld (host.exists? absPath)) before
      (fun _ after => after = before) raised := fun _ => rfl
  unfold startUpload
  split
  · exact ⟨rfl, fun _ _ => rfl⟩
  refine (looks _).bind ?_
  rintro present _ rfl
  split
  · exact ⟨rfl, fun _ _ => rfl⟩
  rw [Ends.bind_iff, ends_onWorld_iff]
  refine ((files.makedirs _).ends _).mono (fun _ made sameMade => ?_)
    fun _ made sameMade => ⟨rfl, fun other _ => congrFun sameMade other⟩
  rw [Ends.bind_iff, ends_onWorld_iff]
  refine (files.createEmpty absPath made).mono (fun _ created emptied => ?_)
    fun _ created others => ⟨rfl, fun other different => ?_⟩
  · dsimp only at emptied ⊢
    rw [sameMade] at emptied
    unfold createSession
    rw [Ends.bind_iff, Ends.bind_iff, ends_onWorld_iff]
    refine (files.uuid4.ends created).mono (fun uploadId named sameNamed => ?_)
      fun _ named sameNamed => ⟨rfl, fun other different => ?_⟩
    · exact ⟨uploadId, rfl, sameNamed.trans emptied, rfl⟩
    · dsimp only
      rw [sameNamed, emptied, Function.update_of_ne different]
  · dsimp only
    rw [others other different, sameMade]

/-! ## Applying a chunk -/

/-- The writer writes at an integer to the file of its name, and to no other
file when it raises. -/
theorem fileWriter_ends
    (filename : Text) {offset : Json} (data : Bytes) (world : World)
    (natural : ∀ position, offset.integer? = some position → 0 ≤ position) :
    Ends (fileWriter host guard filename offset data) world
      (fun _ after => ∃ path position,
        guard.validatePath (.string filename) = .ok path ∧
        offset.integer? = some position ∧
        files.content after = Function.update (files.content world) path
          (some (overwrite ((files.content world path).getD [])
            position.toNat data)))
      (fun _ after => ∀ other,
        guard.validatePath (.string filename) ≠ .ok other →
          files.content after other = files.content world other) := by
  unfold fileWriter
  refine Ends.bind_lift (fun path valid => ?_) fun _ _ _ _ => rfl
  have differs {other : Text}
      (elsewhere : guard.validatePath (.string filename) ≠ .ok other) :
      other ≠ path := by
    rintro rfl
    exact elsewhere valid
  cases isInteger : offset.integer? with
  | some position =>
    obtain ⟨place, rfl⟩ := Int.eq_ofNat_of_zero_le (natural position isInteger)
    exact (files.writeAt path place data world).mono
      (fun _ _ changed => ⟨path, place, valid, rfl, changed⟩)
      fun _ _ others other elsewhere => others other (differs elsewhere)
  | none =>
    dsimp only
    rw [Ends.bind_iff]
    exact ((files.openUpdate path).ends world).mono
      (fun _ _ same other _ => congrFun same other)
      fun _ _ same other _ => congrFun same other

/-- The session after a chunk was applied to it. -/
def UploadSession.advanced (session : UploadSession) (data : Bytes) :
    UploadSession :=
  { session with
    nextExpectedOffset := session.nextExpectedOffset + data.length }

/-- A chunk was written at the next offset of a session, which went on or was
complete. -/
structure ChunkApplied
    (guard : PolicyGuard) (key : Text) (session : UploadSession)
    (data : Bytes) (before after : Workspace World) (status : Text) : Prop where
  content : ∃ path, guard.validatePath (.string session.filename) = .ok path ∧
    files.content after.world =
      Function.update (files.content before.world) path
        (some (overwrite ((files.content before.world path).getD [])
          session.nextExpectedOffset.toNat data))
  status : status = "Chunk Applied" ∨ status = "Upload Complete"
  sessions : after.sessions =
      before.sessions.set key (session.advanced data) ∨
    after.sessions =
      (before.sessions.set key (session.advanced data)).del key

/-- A session is known by its own id and expects no negative offset. -/
structure UploadSession.Sound (session : UploadSession) (key : Text) :
    Prop where
  named : session.uploadId = key
  natural : 0 ≤ session.nextExpectedOffset

section Apply

variable
  {key : Text} {session : UploadSession} {before : Workspace World}
  (known : before.sessions.get? key = some session)
  (sound : session.Sound key)

include known sound in
/-- The next chunk is written to the file of the session. -/
theorem applyNext_ends
    {offset : Json} (data : Bytes)
    (next : ∀ position, offset.integer? = some position →
      position = session.nextExpectedOffset) :
    Ends (applyNext .strict session offset data (fileWriter host guard)) before
      (fun answer after =>
        ChunkApplied files guard key session data before after answer.2)
      (fun _ after => after.sessions = before.sessions ∧
        ∀ other, guard.validatePath (.string session.filename) ≠ .ok other →
          files.content after.world other =
            files.content before.world other) := by
  unfold applyNext writeChunk
  rw [Ends.bind_iff, Ends.bind_iff, ends_onWorld_iff]
  have natural : ∀ position, offset.integer? = some position → 0 ≤ position :=
    fun position isInteger => next position isInteger ▸ sound.natural
  refine (fileWriter_ends files session.filename data before.world
    natural).mono (fun _ world wrote => ?_) fun _ _ others => ⟨rfl, others⟩
  obtain ⟨path, position, valid, isInteger, changed⟩ := wrote
  rw [next position isInteger] at changed
  rw [sound.named,
    Ends.of_run_ok (updateSession_run_known _ (by exact known))]
  dsimp only
  rw [if_neg (by decide)]
  unfold finishChunk
  simp only [Ends.bind_iff, Ends.get_iff, Dict.get?_set_self]
  split
  · rw [Ends.bind_iff, Ends.modify_iff]
    exact ⟨⟨path, valid, changed⟩, .inr rfl, .inr rfl⟩
  · exact ⟨⟨path, valid, changed⟩, .inl rfl, .inl rfl⟩

include known sound in
/-- A chunk for a known session is applied, or changes nothing. -/
theorem applyStrict_ends (offset : Json) (data : Bytes) :
    Ends
      (applyChunk host .strict (.string key) offset data
        (fileWriter host guard)) before
      (fun answer after =>
        (answer.2 = "Duplicate ignored" ∧ after = before) ∨
          ChunkApplied files guard key session data before after answer.2)
      (fun _ after => after.sessions = before.sessions ∧
        ∀ other, guard.validatePath (.string session.filename) ≠ .ok other →
          files.content after.world other =
            files.content before.world other) := by
  unfold Ends
  rw [applyChunk_run_known known]
  cases number : offset.number? with
  | none => exact ⟨rfl, fun _ _ => rfl⟩
  | some position =>
  dsimp only
  cases position.lt (.finite session.nextExpectedOffset) with
  | true =>
    rw [if_pos rfl]
    cases (position.addInt data.length).le
        (.finite session.nextExpectedOffset) with
    | true => exact .inl ⟨rfl, rfl⟩
    | false => exact ⟨rfl, fun _ _ => rfl⟩
  | false =>
  rw [if_neg Bool.false_ne_true]
  cases isNext : position.eq (.finite session.nextExpectedOffset) with
  | true =>
    rw [if_pos rfl]
    refine (applyNext_ends files known sound data fun place isInteger =>
      ?_).mono (fun _ _ applied => .inr applied) fun _ _ refused => refused
    have same := number.symm.trans (Json.number?_of_integer? isInteger)
    rw [FloatValue.eq_finite_of_eq isNext] at same
    simpa using same.symm
  | false => exact ⟨rfl, fun _ _ => rfl⟩

end Apply

/-! ## Appending -/

/-- Appending changes no file but the one it is for. -/
theorem appendRequested_ends
    (absPath filename : Text) (binaryData : Bytes) (world : World) :
    Ends (appendRequested host absPath filename binaryData) world
      (fun result after => result.reported? = none ∧
        ∀ other, other ≠ absPath →
          files.content after other = files.content world other)
      (fun _ after => ∀ other, other ≠ absPath →
        files.content after other = files.content world other) := by
  have requires : Ends (requireFile host absPath filename) world
      (fun _ after => after = world)
      (fun _ after => ∀ other, other ≠ absPath →
        files.content after other = files.content world other) := by
    unfold requireFile
    rw [Ends.bind_iff, Ends.of_run_ok (host.exists?_run absPath world)]
    split
    · exact rfl
    · exact fun _ _ => rfl
  have measured (between : World) := (files.getsize absPath).ends between
  unfold appendRequested
  refine requires.bind ?_
  rintro _ start rfl
  rw [Ends.bind_iff]
  refine (measured start).mono (fun size between same => ?_)
    fun _ _ same other _ => congrFun same other
  dsimp only
  split
  · exact fun other _ => congrFun same other
  rw [Ends.bind_iff]
  refine (files.appendFile absPath binaryData between).mono
    (fun _ appended grown => ?_)
    fun _ _ others other different =>
      (others other different).trans (congrFun same other)
  have elsewhere : ∀ other, other ≠ absPath →
      files.content appended other = files.content start other :=
    fun other different => by
      rw [grown, Function.update_of_ne different, same]
  rw [Ends.bind_iff]
  exact (measured appended).mono
    (fun _ _ kept => ⟨rfl, fun other different =>
      (congrFun kept other).trans (elsewhere other different)⟩)
    fun _ _ kept other different =>
      (congrFun kept other).trans (elsewhere other different)

/-! ## Requests -/

/-- What a request does: nothing to the sessions, a new one, or a chunk. -/
inductive RequestEffect
    (guard : PolicyGuard) (before after : Workspace World) :
    FileRequest → Option (Text × Text) → Prop
  | kept {request : FileRequest} {report : Option (Text × Text)}
      (unapplied : ∀ key status, report = some (key, status) →
        status = "Duplicate ignored")
      (sessions : after.sessions = before.sessions)
      (others : ∀ path, ¬ request.Targets host guard before path →
        files.content after.world path = files.content before.world path) :
      RequestEffect guard before after request report
  | started {payload : Bytes} {filename totalSize : Json} {path key : Text}
      {size : FloatValue} {overwrite : Bool}
      (asks : PutMetaRequest host guard payload filename path totalSize size
        overwrite)
      (content : files.content after.world =
        Function.update (files.content before.world) path (some []))
      (sessions : after.sessions = before.sessions.set key
        { uploadId := key, filename := host.str filename, totalSize }) :
      RequestEffect guard before after (.putMeta payload)
        (some (key, Text.ofString "ready"))
  | applied {payload chunkData : Bytes} {key status : Text}
      {offset chunkLen : Json} {session : UploadSession}
      (asks : PutChunkRequest host payload (.string key) offset chunkLen
        chunkData)
      (known : before.sessions.get? key = some session)
      (chunk : ChunkApplied files guard key session chunkData before after
        status) :
      RequestEffect guard before after (.putChunk payload)
        (some (key, status))

/-- Every session is sound. -/
def SessionsSound (sessions : Dict Text UploadSession) : Prop :=
  ∀ key session, sessions.get? key = some session → session.Sound key

/-- A request that is refused while it is read changes nothing. -/
theorem RequestEffect.of_unchanged
    {before : Workspace World} {request : FileRequest} :
    RequestEffect files guard before before request none :=
  .kept nofun rfl fun _ _ => rfl

/-- A request leaves the files it is not about as they are. -/
theorem RequestEffect.unchanged
    {before after : Workspace World} {request : FileRequest}
    {report : Option (Text × Text)}
    (effect : RequestEffect files guard before after request report)
    {path : Text} (notTarget : ¬ request.Targets host guard before path) :
    files.content after.world path = files.content before.world path := by
  cases effect with
  | kept _ _ others => exact others path notTarget
  | started asks content _ =>
    rw [content]
    refine Function.update_of_ne ?_ _ _
    rintro rfl
    exact notTarget ⟨_, _, _, _, asks⟩
  | applied asks known chunk =>
    obtain ⟨target, valid, written⟩ := chunk.content
    rw [written]
    refine Function.update_of_ne ?_ _ _
    rintro rfl
    exact notTarget ⟨_, _, _, _, _, asks, known, valid⟩

theorem handlePutMeta_effect (payload : Bytes) (before : Workspace World) :
    Ends (handlePutMeta host guard payload) before
      (fun result after => RequestEffect files guard before after
        (.putMeta payload) result.reported?)
      (fun _ after => RequestEffect files guard before after
        (.putMeta payload) none) := by
  rcases handlePutMeta_cases host guard payload with
    ⟨filename, absPath, totalSize, size, overwrite, asks⟩ |
      ⟨error, _, refused⟩
  · rw [handlePutMeta_of_request asks]
    refine ends_rescue ((startUpload_ends files filename absPath totalSize size
      overwrite before).mono ?_ ?_)
    · rintro result after ⟨key, reported, content, sessions⟩
      rw [reported]
      exact .started asks content sessions
    · rintro _ after ⟨sessions, others⟩
      refine .kept nofun sessions fun path notTarget => others path ?_
      rintro rfl
      exact notTarget ⟨filename, totalSize, size, overwrite, asks⟩
  · rw [refused]
    exact .of_unchanged files

theorem handlePutChunk_effect
    (payload : Bytes) {before : Workspace World}
    (sound : SessionsSound before.sessions) :
    Ends (handlePutChunk host guard .strict payload) before
      (fun result after => RequestEffect files guard before after
        (.putChunk payload) result.reported?)
      (fun _ after => RequestEffect files guard before after
        (.putChunk payload) none) := by
  rcases handlePutChunk_cases host guard .strict payload with
    ⟨uploadId, offset, chunkLen, chunkData, asks⟩ | ⟨error, _, refused⟩
  case inr =>
    rw [refused]
    exact .of_unchanged files
  rw [handlePutChunk_of_request asks]
  refine ends_rescue ?_
  unfold applyRequested
  split
  · exact .of_unchanged files
  have unknown : ∀ error, (getSession host uploadId).run before =
      (.error error, before) →
      Ends (applyChunk host .strict uploadId offset chunkData
        (fileWriter host guard)) before
        (fun _ _ => False) (fun _ after => RequestEffect files guard before
          after (.putChunk payload) none) := by
    intro error raised
    rw [Ends.of_run_error (applyChunk_run_refused raised)]
    exact .of_unchanged files
  rw [Ends.bind_iff]
  rcases getSession_cases host uploadId before with
    ⟨key, session, rfl, known⟩ | unhashable | ⟨noArray, noObject, missing⟩
  · refine (applyStrict_ends files known (sound key session known) offset
      chunkData).mono ?_ ?_
    · rintro ⟨isComplete, message⟩ after (⟨rfl, rfl⟩ | applied)
      · refine .kept ?_ rfl fun _ _ => rfl
        rintro _ _ ⟨⟩
        rfl
      · exact .applied asks known applied
    · rintro _ after ⟨sessions, others⟩
      refine .kept nofun sessions fun path notTarget =>
        others path fun valid => notTarget ?_
      exact ⟨key, offset, chunkLen, chunkData, session, asks, known, valid⟩
  · exact (unknown _ unhashable).mono (fun _ _ => False.elim)
      fun _ _ effect => effect
  · exact (unknown _ (getSession_run_unknown noArray noObject missing)).mono
      (fun _ _ => False.elim) fun _ _ effect => effect

theorem handleAppend_effect (payload : Bytes) (before : Workspace World) :
    Ends (onWorld (handleAppend host guard payload)) before
      (fun result after => RequestEffect files guard before after
        (.append payload) result.reported?)
      (fun _ after => RequestEffect files guard before after
        (.append payload) none) := by
  rw [ends_onWorld_iff]
  rcases handleAppend_cases host guard payload with
    ⟨filename, absPath, binaryData, asks⟩ | ⟨error, _, refused⟩
  · rw [handleAppend_of_request asks]
    have elsewhere {path : Text}
        (notTarget : ¬ (FileRequest.append payload).Targets host guard before
          path) : path ≠ absPath := by
      rintro rfl
      exact notTarget ⟨filename, binaryData, asks⟩
    refine ends_rescue ((appendRequested_ends files absPath filename
      binaryData before.world).mono ?_ ?_)
    · rintro result after ⟨unreported, others⟩
      rw [unreported]
      exact .kept nofun rfl fun path notTarget =>
        others path (elsewhere notTarget)
    · exact fun _ after others => .kept nofun rfl fun path notTarget =>
        others path (elsewhere notTarget)
  · rw [refused]
    exact .of_unchanged files

/-- Step lemma: what a request does, by what it reports. -/
theorem FileRequest.perform_effect
    {before : Workspace World} (sound : SessionsSound before.sessions)
    (request : FileRequest) :
    RequestEffect files guard before
      (request.perform host guard .strict before) request
      (request.reported? host guard before) := by
  have ends : Ends (request.handle host guard .strict) before
      (fun result after => RequestEffect files guard before after request
        result.reported?)
      (fun _ after => RequestEffect files guard before after request none) := by
    cases request with
    | putMeta payload => exact handlePutMeta_effect files payload before
    | putChunk payload => exact handlePutChunk_effect files payload sound
    | append payload => exact handleAppend_effect files payload before
  unfold Ends at ends
  unfold perform reported?
  generalize (request.handle host guard .strict).run before = result at ends ⊢
  obtain ⟨error | result, after⟩ := result <;> exact ends

end Effects

end RudpAgentStack

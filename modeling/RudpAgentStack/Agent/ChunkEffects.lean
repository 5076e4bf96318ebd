import RudpAgentStack.Agent.StrictUploads
import RudpAgentStack.Foundation.Logging

/-!
# What a call does to its session

The calls of `apply_chunk` for the session of an upload, with a record of what
they write.  A call writes its own chunk if that is the next one, and then the
chunks that waited for it.  A write that raises ends the call.
-/

namespace RudpAgentStack

open Foundation UploadSessionManager

variable {World : Type}

/-! ## Calls with a record -/

/-- A call of the function that writes to the file. -/
structure WriterCall where
  filename : Text
  offset : Json
  data : Bytes
  succeeded : Bool

/-- A world with a record of the calls of writers. -/
abbrev Recorded (World : Type) : Type := Logged World WriterCall

/-- A writer whose calls are recorded. -/
def recorded (writer : FileWriter World) : FileWriter (Recorded World) :=
  fun filename offset data =>
    loggingResult (fun result => ⟨filename, offset, data, result.isOk⟩)
      (writer filename offset data)

/-- The same host, with a record that it leaves alone. -/
def Host.beside (host : Host World) (Event : Type) :
    Host (Logged World Event) where
  jsonLoads := host.jsonLoads
  jsonDumps := host.jsonDumps
  decodeErrorMessage := host.decodeErrorMessage
  encodeErrorMessage := host.encodeErrorMessage
  repr := host.repr
  streamRepr := host.streamRepr
  formatMember := host.formatMember
  sha256 := host.sha256
  uuid4 := logging [] host.uuid4
  pathExists := fun path logged => host.pathExists path logged.state
  getsize := fun path => logging [] (host.getsize path)
  listdir := fun path => logging [] (host.listdir path)
  stat := fun path => logging [] (host.stat path)
  makedirs := fun path => logging [] (host.makedirs path)
  readFile := fun path => logging [] (host.readFile path)
  createEmpty := fun path => logging [] (host.createEmpty path)
  appendFile := fun path data => logging [] (host.appendFile path data)
  openUpdate := fun path => logging [] (host.openUpdate path)
  writeAt := fun path position data =>
    logging [] (host.writeAt path position data)
  createTemporary := fun directory =>
    logging [] (host.createTemporary directory)
  writeTemporary := fun name data => logging [] (host.writeTemporary name data)
  flushTemporary := fun name => logging [] (host.flushTemporary name)
  syncTemporary := fun name => logging [] (host.syncTemporary name)
  closeTemporary := fun name => logging [] (host.closeTemporary name)
  replace := fun source target => logging [] (host.replace source target)
  remove := fun path => logging [] (host.remove path)

/-- A writer that never raises. -/
def Unfailing (writer : FileWriter World) : Prop :=
  ∀ filename offset data world,
    ((writer filename offset data).run world).1 = .ok ()

/-- The arguments of a call of `apply_chunk`. -/
structure ChunkCall (World : Type) where
  offset : Int
  data : Bytes
  writer : FileWriter World

namespace ChunkCall

/-- The call, for a session. -/
def apply
    (host : Host World) (mode : UploadMode) (uploadId : Text)
    (call : ChunkCall World) :
    Action (Workspace (Recorded World)) (Bool × Text) :=
  applyChunk (host.beside WriterCall) mode (.string uploadId)
    (.int call.offset) call.data (recorded call.writer)

/-- The result of writing the chunk of the call to a file. -/
def written
    (call : ChunkCall World) (filename : Text) (world : World) :
    Except PyError Unit :=
  ((call.writer filename (.int call.offset) call.data).run world).1

end ChunkCall

/-! ## Sessions -/

namespace UploadSession

/-- The chunk at the next offset, if it is in the buffer. -/
def waiting (session : UploadSession) : Option Bytes :=
  session.bufferedChunks.get? (.finite session.nextExpectedOffset)

/-- The session without the chunk at the next offset. -/
def popped (session : UploadSession) : UploadSession :=
  { session with
    bufferedChunks :=
      session.bufferedChunks.del (.finite session.nextExpectedOffset) }

/-- The session with a chunk in its buffer. -/
def keeping
    (session : UploadSession) (offset : Int) (data : Bytes) : UploadSession :=
  { session with
    bufferedChunks := session.bufferedChunks.set (.finite offset) data }

/-- The call that writes data at the next offset. -/
def writing
    (session : UploadSession) (data : Bytes) (succeeded : Bool) : WriterCall :=
  ⟨session.filename, .int session.nextExpectedOffset, data, succeeded⟩

/-- All bytes are written. -/
def complete (session : UploadSession) : Bool :=
  session.totalSize.equalsInt session.nextExpectedOffset

/-- The answer of a call that leaves the session. -/
def answer (session : UploadSession) : Bool × Text :=
  if session.complete then (true, "Upload Complete")
  else (false, "Chunk Applied")

/-- The session, unless it is complete. -/
def unlessComplete (session : UploadSession) : Option UploadSession :=
  if session.complete then none else some session

end UploadSession

/-! ## Effects -/

/-- The loop over the buffer, from a session: the writes, the result and the
session that is left.  A strict session has no such loop. -/
inductive Drains (mode : UploadMode) :
    UploadSession → List WriterCall → Except PyError Unit → UploadSession → Prop
  | stops {session : UploadSession}
      (nothing : mode = .strict ∨ session.waiting = none) :
      Drains mode session [] (.ok ()) session
  | fails {session : UploadSession} {data : Bytes} (error : PyError)
      (bufferable : mode = .bufferable) (next : session.waiting = some data) :
      Drains mode session [session.popped.writing data false] (.error error)
        session.popped
  | writes {session final : UploadSession} {data : Bytes}
      {calls : List WriterCall} {result : Except PyError Unit}
      (bufferable : mode = .bufferable) (next : session.waiting = some data)
      (rest : Drains mode (session.popped.advanced data) calls result final) :
      Drains mode session (session.popped.writing data true :: calls) result
        final

/-- A call for a session, given how its own chunk would be written: the writes,
the result and the session that is left. -/
inductive ChunkEffect
    (mode : UploadMode) (session : UploadSession) (offset : Int)
    (data : Bytes) (written : Except PyError Unit) :
    List WriterCall → Except PyError (Bool × Text) → Option UploadSession → Prop
  | duplicate (before : offset < session.nextExpectedOffset)
      (within : offset + data.length ≤ session.nextExpectedOffset) :
      ChunkEffect mode session offset data written []
        (.ok (session.complete, "Duplicate ignored")) (some session)
  | overlapping (message : Text) (before : offset < session.nextExpectedOffset)
      (beyond : session.nextExpectedOffset < offset + data.length) :
      ChunkEffect mode session offset data written []
        (.error ⟨.valueError, message⟩) (some session)
  | outOfOrder (message : Text) (strict : mode = .strict)
      (later : session.nextExpectedOffset < offset) :
      ChunkEffect mode session offset data written []
        (.error ⟨.valueError, message⟩) (some session)
  | kept (bufferable : mode = .bufferable)
      (later : session.nextExpectedOffset < offset) :
      ChunkEffect mode session offset data written []
        (.ok (session.keeping offset data).answer)
        (session.keeping offset data).unlessComplete
  | refused {error : PyError} (next : offset = session.nextExpectedOffset)
      (raises : written = .error error) :
      ChunkEffect mode session offset data written
        [session.writing data false] (.error error) (some session)
  | applied {final : UploadSession} {calls : List WriterCall}
      (next : offset = session.nextExpectedOffset) (returns : written = .ok ())
      (drains : Drains mode (session.advanced data) calls (.ok ()) final) :
      ChunkEffect mode session offset data written
        (session.writing data true :: calls) (.ok final.answer)
        final.unlessComplete
  | interrupted {final : UploadSession} {calls : List WriterCall}
      {error : PyError} (next : offset = session.nextExpectedOffset)
      (returns : written = .ok ())
      (drains : Drains mode (session.advanced data) calls (.error error)
        final) :
      ChunkEffect mode session offset data written
        (session.writing data true :: calls) (.error error) (some final)

/-- Some writes were made, and another session is left under an id. -/
structure Leaves
    (uploadId : Text) (before after : Workspace (Recorded World))
    (calls : List WriterCall) (left : Option UploadSession) : Prop where
  log : after.world.log = before.world.log ++ calls
  unwritten : calls = [] → after.world = before.world
  sessions : after.sessions = before.sessions.assign uploadId left

namespace Leaves

variable
  {uploadId : Text} {before between after : Workspace (Recorded World)}
  {session : UploadSession} {left : Option UploadSession}

/-- A call that leaves everything as it was. -/
theorem unchanged
    (known : before.sessions.get? uploadId = some session) :
    Leaves uploadId before before [] (some session) where
  log := (List.append_nil _).symm
  unwritten := fun _ => rfl
  sessions := (Dict.set_of_get? known).symm

/-- The session is replaced. -/
theorem replaced (session : UploadSession) :
    Leaves uploadId before
      { before with sessions := before.sessions.set uploadId session } []
      (some session) where
  log := (List.append_nil _).symm
  unwritten := fun _ => rfl
  sessions := rfl

/-- The session is removed. -/
theorem removed :
    Leaves uploadId before
      { before with sessions := before.sessions.del uploadId } [] none where
  log := (List.append_nil _).symm
  unwritten := fun _ => rfl
  sessions := rfl

theorem known
    {calls : List WriterCall}
    (leaves : Leaves uploadId before after calls left) :
    after.sessions.get? uploadId = left := by
  rw [leaves.sessions, Dict.get?_assign_self]

theorem trans
    {first second : List WriterCall}
    (leaves : Leaves uploadId before between first (some session))
    (leaves' : Leaves uploadId between after second left) :
    Leaves uploadId before after (first ++ second) left where
  log := by rw [leaves'.log, leaves.log, List.append_assoc]
  unwritten := by
    intro nothing
    obtain ⟨nothingFirst, nothingSecond⟩ := List.append_eq_nil_iff.mp nothing
    rw [leaves'.unwritten nothingSecond, leaves.unwritten nothingFirst]
  sessions := by
    rw [leaves'.sessions, leaves.sessions]
    apply Dict.assign_set

end Leaves

/-! ## Writing a chunk -/

section Writing

variable
  {uploadId : Text} {session stale : UploadSession}
  {before : Workspace (Recorded World)}

/-- The function that writes a chunk at the next offset of a session, also when
it was called with an earlier state of the session. -/
theorem writeChunk_run
    (writer : FileWriter World)
    (known : before.sessions.get? uploadId = some session)
    (named : stale.uploadId = uploadId)
    (sameFile : stale.filename = session.filename) (data : Bytes) :
    (∃ after, (writeChunk stale (.int session.nextExpectedOffset) data
        (recorded writer)).run before = (.ok (), after) ∧
      ((writer session.filename (.int session.nextExpectedOffset) data).run
        before.world.state).1 = .ok () ∧
      Leaves uploadId before after [session.writing data true]
        (some (session.advanced data))) ∨
    (∃ error after, (writeChunk stale (.int session.nextExpectedOffset) data
        (recorded writer)).run before = (.error error, after) ∧
      ((writer session.filename (.int session.nextExpectedOffset) data).run
        before.world.state).1 = .error error ∧
      Leaves uploadId before after [session.writing data false]
        (some session)) := by
  unfold writeChunk recorded
  rw [Action.run_bind, onWorld_run, loggingResult_run, sameFile, named]
  generalize (writer session.filename (.int session.nextExpectedOffset)
    data).run before.world.state = result
  obtain ⟨error | ⟨⟩, world⟩ := result
  · refine .inr ⟨error, _, rfl, rfl, rfl, nofun, ?_⟩
    exact (Dict.set_of_get? known).symm
  · dsimp only
    rw [updateSession_run_known _ (by exact known)]
    exact .inl ⟨_, rfl, rfl, rfl, nofun, rfl⟩

/-- One turn of the loop over the buffer. -/
theorem processBuffer_run
    {State : Type} {workspace : Workspace State} {writer : FileWriter State}
    (known : workspace.sessions.get? uploadId = some session) (fuel : Nat) :
    (processBuffer uploadId writer (fuel + 1)).run workspace =
      match session.waiting with
      | none => (.ok (), workspace)
      | some data =>
          (writeChunk session (.int session.popped.nextExpectedOffset) data
              writer >>=
            fun _ => processBuffer uploadId writer fuel).run
            { workspace with
              sessions := workspace.sessions.set uploadId session.popped } := by
  rw [processBuffer, Action.run_bind, get_run]
  dsimp only
  rw [known]
  dsimp only
  rw [UploadSession.waiting]
  cases session.bufferedChunks.get? (.finite session.nextExpectedOffset) with
  | none => rfl
  | some data =>
      dsimp only
      rw [Action.run_bind, updateSession_run_known _ known]
      rfl

/-- What the loop over the buffer does. -/
theorem processBuffer_drains
    (writer : FileWriter World)
    (known : before.sessions.get? uploadId = some session)
    (named : session.uploadId = uploadId) {fuel : Nat}
    (enough : session.bufferedChunks.size ≤ fuel) :
    ∃ calls result final after,
      (processBuffer uploadId (recorded writer) fuel).run before =
        (result, after) ∧
      Drains .bufferable session calls result final ∧
      Leaves uploadId before after calls (some final) ∧
      (Unfailing writer → ∀ write ∈ calls, write.succeeded = true) := by
  induction fuel generalizing session before with
  | zero =>
      have nothing : session.waiting = none := by
        rw [UploadSession.waiting, Dict.get?_eq_none_iff]
        apply (Dict.size_eq_zero_iff _).mp
        exact Nat.le_zero.mp enough
      exact ⟨[], _, _, _, rfl, .stops (.inr nothing), .unchanged known, nofun⟩
  | succ fuel inductionHypothesis =>
      rw [processBuffer_run known]
      cases waits : session.waiting with
      | none =>
          exact ⟨[], _, _, _, rfl, .stops (.inr waits), .unchanged known, nofun⟩
      | some data =>
          dsimp only
          rw [Action.run_bind]
          have popped : Leaves uploadId before _ [] _ :=
            .replaced session.popped
          rcases writeChunk_run writer popped.known named rfl data
            with ⟨between, ran, _, leaves⟩ | ⟨error, between, ran, raises, leaves⟩
          · obtain ⟨calls, result, final, after, rest, drains, left, succeed⟩ :=
              inductionHypothesis leaves.known named (by
                have less := Dict.size_del_lt (Dict.mem_of_get? waits)
                change (session.bufferedChunks.del _).size ≤ fuel
                omega)
            refine ⟨session.popped.writing data true :: calls, result, final,
              after, ?_, .writes rfl waits drains,
              (popped.trans leaves).trans left, ?_⟩
            · rw [ran]
              exact rest
            · intro unfailing write member
              rcases List.mem_cons.mp member with rfl | member
              · rfl
              · exact succeed unfailing write member
          · refine ⟨_, .error error, session.popped, between, ?_,
              .fails error rfl waits, popped.trans leaves, ?_⟩
            · rw [ran]
            · intro unfailing
              rw [unfailing] at raises
              cases raises

end Writing

/-! ## Applying a chunk -/

section Applying

variable
  {host : Host World} {mode : UploadMode} {uploadId : Text}
  {session : UploadSession} {before : Workspace (Recorded World)}

/-- A complete session is removed. -/
theorem finishChunk_leaves
    (known : before.sessions.get? uploadId = some session) :
    ∃ after, (finishChunk uploadId).run before = (.ok session.answer, after) ∧
      Leaves uploadId before after [] session.unlessComplete := by
  unfold finishChunk UploadSession.answer UploadSession.unlessComplete
    UploadSession.complete
  rw [Action.run_bind, get_run]
  dsimp only
  rw [known]
  dsimp only
  cases session.totalSize.equalsInt session.nextExpectedOffset with
  | true => exact ⟨_, rfl, .removed⟩
  | false => exact ⟨_, rfl, .unchanged known⟩

theorem lt_intCast (left right : Int) :
    (FloatValue.finite left).lt (.finite right) = decide (left < right) := by
  simp [FloatValue.lt]

theorem eq_intCast (left right : Int) :
    (FloatValue.finite left).eq (.finite right) = decide (left = right) := by
  simp [FloatValue.eq]

theorem addInt_le_intCast (left right : Int) (length : Nat) :
    ((FloatValue.finite left).addInt length).le (.finite right) =
      decide (left + length ≤ right) := by
  have sum : (FloatValue.finite (left : ℚ)).addInt length =
      .finite ((left + length : Int) : ℚ) := by
    rw [FloatValue.addInt, Int.cast_add]
  rw [sum, FloatValue.le, lt_intCast, eq_intCast, ← Bool.decide_or]
  exact decide_eq_decide.mpr le_iff_lt_or_eq.symm

/-- What a call does, by its offset. -/
theorem ChunkCall.apply_run
    (call : ChunkCall World)
    (known : before.sessions.get? uploadId = some session) :
    (call.apply host mode uploadId).run before =
      if call.offset < session.nextExpectedOffset then
        if call.offset + call.data.length ≤ session.nextExpectedOffset then
          (.ok (session.complete, "Duplicate ignored"), before)
        else
          (.error ⟨.valueError, "Overlapping chunk at " ++
            Text.ofInt call.offset ++ " (expected " ++
            Text.ofInt session.nextExpectedOffset ++ ")"⟩, before)
      else if call.offset = session.nextExpectedOffset then
        (applyNext mode session (.int call.offset) call.data
          (recorded call.writer)).run before
      else if mode = .strict then
        (.error ⟨.valueError, "Out-of-order chunk: Got " ++
          Text.ofInt call.offset ++ ", expected " ++
          Text.ofInt session.nextExpectedOffset⟩, before)
      else
        (bufferChunk session (.finite call.offset) call.data).run before := by
  unfold apply
  rw [applyChunk_run_known known]
  simp only [Json.number?, lt_intCast, eq_intCast, addInt_le_intCast,
    decide_eq_true_eq]
  rfl

/-- A chunk that is kept for later. -/
theorem bufferChunk_leaves
    (known : before.sessions.get? uploadId = some session)
    (named : session.uploadId = uploadId) (offset : Int) (data : Bytes) :
    ∃ after, (bufferChunk session (.finite offset) data).run before =
        (.ok (session.keeping offset data).answer, after) ∧
      Leaves uploadId before after []
        (session.keeping offset data).unlessComplete := by
  have keeps : Leaves uploadId before _ [] _ :=
    .replaced (session.keeping offset data)
  obtain ⟨after, finished, leaves⟩ := finishChunk_leaves keeps.known
  refine ⟨after, ?_, keeps.trans leaves⟩
  unfold bufferChunk
  rw [Action.run_bind, named, updateSession_run_known _ known]
  exact finished

/-- The loop over the buffer, in either mode, and what comes after it. -/
theorem drains_of_mode
    (mode : UploadMode) (writer : FileWriter World)
    (rest : Action (Workspace (Recorded World)) (Bool × Text))
    (known : before.sessions.get? uploadId = some session)
    (named : session.uploadId = uploadId) {fuel : Nat}
    (enough : session.bufferedChunks.size ≤ fuel) :
    ∃ calls result final after,
      (if mode = .bufferable then
          processBuffer uploadId (recorded writer) fuel >>= fun _ => rest
        else rest).run before =
        (match result with
          | .ok _ => rest.run after
          | .error error => (.error error, after)) ∧
      Drains mode session calls result final ∧
      Leaves uploadId before after calls (some final) ∧
      (Unfailing writer → ∀ write ∈ calls, write.succeeded = true) := by
  cases mode with
  | strict =>
      exact ⟨[], .ok (), session, before, rfl, .stops (.inl rfl),
        .unchanged known, nofun⟩
  | bufferable =>
      obtain ⟨calls, result, final, after, ran, effect⟩ :=
        processBuffer_drains writer known named enough
      refine ⟨calls, result, final, after, ?_, effect⟩
      rw [if_pos rfl, Action.run_bind, ran]
      cases result <;> rfl

/-- The next chunk is written, and the loop over the buffer follows. -/
theorem applyNext_leaves
    (call : ChunkCall World)
    (known : before.sessions.get? uploadId = some session)
    (named : session.uploadId = uploadId)
    (next : call.offset = session.nextExpectedOffset) :
    ∃ calls result left after,
      (applyNext mode session (.int call.offset) call.data
        (recorded call.writer)).run before = (result, after) ∧
      ChunkEffect mode session call.offset call.data
        (call.written session.filename before.world.state) calls result left ∧
      Leaves uploadId before after calls left ∧
      (Unfailing call.writer → ∀ write ∈ calls, write.succeeded = true) := by
  unfold applyNext ChunkCall.written
  rw [Action.run_bind, next]
  rcases writeChunk_run call.writer known named rfl call.data with
    ⟨between, ran, returns, leaves⟩ | ⟨error, after, ran, raises, leaves⟩
  · rw [ran]
    dsimp only
    obtain ⟨calls, result, final, after, drained, drains, left, succeed⟩ :=
      drains_of_mode mode call.writer (finishChunk uploadId) leaves.known named
        le_rfl
    have allSucceed : Unfailing call.writer →
        ∀ write ∈ session.writing call.data true :: calls,
          write.succeeded = true := by
      intro unfailing write member
      rcases List.mem_cons.mp member with rfl | member
      · rfl
      · exact succeed unfailing write member
    rw [named]
    change ∃ writes answer left later,
      (if mode = .bufferable then
        processBuffer uploadId (recorded call.writer)
          (session.advanced call.data).bufferedChunks.size >>=
            fun _ => finishChunk uploadId
        else finishChunk uploadId).run between = (answer, later) ∧ _
    rw [drained]
    cases result with
    | error error =>
        exact ⟨_, _, _, after, rfl, .interrupted rfl returns drains,
          leaves.trans left, allSucceed⟩
    | ok _ =>
        obtain ⟨later, finished, leavesLast⟩ := finishChunk_leaves left.known
        refine ⟨_, _, _, later, finished, .applied rfl returns drains, ?_,
          allSucceed⟩
        have writes := (leaves.trans left).trans leavesLast
        rwa [List.append_nil] at writes
  · rw [ran]
    refine ⟨_, _, _, after, rfl, .refused rfl raises, leaves, ?_⟩
    intro unfailing
    rw [unfailing] at raises
    cases raises

/-- What a call for a session does. -/
theorem ChunkCall.apply_effect
    (host : Host World) (mode : UploadMode) (call : ChunkCall World)
    (known : before.sessions.get? uploadId = some session)
    (named : session.uploadId = uploadId) :
    ∃ calls result left after,
      (call.apply host mode uploadId).run before = (result, after) ∧
      ChunkEffect mode session call.offset call.data
        (call.written session.filename before.world.state) calls result left ∧
      Leaves uploadId before after calls left ∧
      (Unfailing call.writer → ∀ write ∈ calls, write.succeeded = true) := by
  rw [call.apply_run known]
  split
  · next early =>
      split
      · next within =>
          exact ⟨[], _, _, _, rfl, .duplicate early within, .unchanged known,
            nofun⟩
      · next beyond =>
          exact ⟨[], _, _, _, rfl, .overlapping _ early (by omega),
            .unchanged known, nofun⟩
  · next notEarly =>
      split
      · next next => exact applyNext_leaves call known named next
      · next notNext =>
          have later : session.nextExpectedOffset < call.offset := by omega
          cases mode with
          | strict =>
              exact ⟨[], _, _, _, rfl, .outOfOrder _ rfl later,
                .unchanged known, nofun⟩
          | bufferable =>
              rw [if_neg (by decide)]
              obtain ⟨after, ran, leaves⟩ :=
                bufferChunk_leaves known named call.offset call.data
              exact ⟨[], _, _, after, ran, .kept rfl later, leaves, nofun⟩

/-- A call for a session that is not there. -/
theorem ChunkCall.apply_unknown
    (call : ChunkCall World) (unknown : before.sessions.get? uploadId = none) :
    (call.apply host mode uploadId).run before =
      (.error ⟨.valueError, Text.ofString "Session " ++ uploadId ++
        " not found"⟩, before) := by
  apply applyChunk_run_refused
  refine getSession_run_unknown (by rintro _ ⟨⟩) (by rintro _ ⟨⟩) ?_
  rintro _ ⟨⟩
  exact unknown

end Applying

end RudpAgentStack

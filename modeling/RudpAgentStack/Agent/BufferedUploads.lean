import RudpAgentStack.Agent.ChunkFlow
import RudpAgentStack.Agent.MemoryHost
import RudpAgentStack.Foundation.Offsets

/-!
# Chunks in any order

The chunks of a partition of a file may come in any order and any number of
times.  A session that keeps early chunks writes what a strict session writes
for the chunks in order, and is complete with the last one that was missing.
-/

namespace RudpAgentStack

open Foundation UploadSessionManager

variable {World : Type}

/-- Writing to a file that is there does not raise and changes its content. -/
def WritesFile
    (content : World → Option Bytes) (writer : FileWriter World)
    (filename : Text) : Prop :=
  ∀ (offset : Nat) data world before, content world = some before →
    ∃ after, (writer filename (.int offset) data).run world = (.ok (), after) ∧
      content after = some (overwrite before offset data)

/-- Writing at the end of a file. -/
theorem overwrite_length (content data : Bytes) :
    overwrite content content.length data = content ++ data := by
  unfold overwrite
  split
  · next nothing => simp [nothing]
  · simp

/-- The writer of the server writes to the file of its path, if writing to a
file that is there does not raise. -/
theorem fileWriter_writesFile
    {host : Host World} (files : FileSystem host) {guard : PolicyGuard}
    {filename path : Text}
    (allowed : guard.validatePath (.string filename) = .ok path)
    (returns : ∀ (offset : Nat) data world before,
      files.content world path = some before →
        ((host.writeAt path offset data).run world).1 = .ok ()) :
    WritesFile (fun world => files.content world path)
      (fileWriter host guard) filename := by
  intro offset data world before present
  have ran : (fileWriter host guard filename (.int offset) data).run world =
      (host.writeAt path offset data).run world := by
    unfold fileWriter
    rw [Action.run_bind, Action.run_liftM, allowed]
    rfl
  have changed := files.writeAt path offset data world
  have ok := returns offset data world before present
  unfold Ends at changed
  rw [ran]
  generalize (host.writeAt path offset data).run world = result at changed ok
  obtain ⟨error | value, after⟩ := result
  · cases ok
  · refine ⟨after, rfl, ?_⟩
    dsimp only at changed present ⊢
    rw [changed, Function.update_self, present]
    rfl

/-- An upload of the chunks of a file. -/
structure ChunkedUpload (World : Type) where
  host : Host World
  uploadId : Text
  filename : Text
  writer : FileWriter World
  chunks : List Bytes

namespace ChunkedUpload

variable (upload : ChunkedUpload World)

/-- Apply one of the chunks. -/
def sendChunk (mode : UploadMode) (index : Nat) :
    Action (Workspace World) (Bool × Text) :=
  applyChunk upload.host mode (.string upload.uploadId)
    (.int (offsetOf upload.chunks index)) (upload.chunks.getD index [])
    upload.writer

/-- Apply chunks one after the other, whatever the results are. -/
def sendChunks (mode : UploadMode) :
    List Nat → Workspace World →
      List (Except PyError (Bool × Text)) × Workspace World
  | [], workspace => ([], workspace)
  | index :: indices, workspace =>
      let (result, workspace) := (upload.sendChunk mode index).run workspace
      let (results, workspace) := sendChunks mode indices workspace
      (result :: results, workspace)

theorem sendChunks_append_singleton
    (mode : UploadMode) (indices : List Nat) (last : Nat)
    (workspace : Workspace World) :
    upload.sendChunks mode (indices ++ [last]) workspace =
      ((upload.sendChunks mode indices workspace).1 ++
          [((upload.sendChunk mode last).run
            (upload.sendChunks mode indices workspace).2).1],
        ((upload.sendChunk mode last).run
          (upload.sendChunks mode indices workspace).2).2) := by
  induction indices generalizing workspace with
  | nil => rfl
  | cons index indices inductionHypothesis =>
      change (_ :: (upload.sendChunks mode (indices ++ [last]) _).1,
        (upload.sendChunks mode (indices ++ [last]) _).2) = _
      rw [inductionHypothesis]
      rfl

/-- The world after the first chunks were written in order. -/
def written : Nat → World → World
  | 0, world => world
  | count + 1, world =>
      ((upload.writer upload.filename (.int (offsetOf upload.chunks count))
        (upload.chunks.getD count [])).run (written count world)).2

/-- Chunks written in order to an empty file are its content. -/
theorem content_written
    {upload : ChunkedUpload World} {content : World → Option Bytes}
    (writes : WritesFile content upload.writer upload.filename)
    {start : World} (empty : content start = some []) {count : Nat}
    (bound : count ≤ upload.chunks.length) :
    content (upload.written count start) =
      some (upload.chunks.take count).flatten := by
  induction count with
  | zero => exact empty
  | succ count inductionHypothesis =>
      obtain ⟨after, ran, content_eq⟩ :=
        writes (offsetOf upload.chunks count) (upload.chunks.getD count [])
          (upload.written count start) _ (inductionHypothesis (by omega))
      rw [written, ran, content_eq, take_succ_flatten bound]
      exact congrArg some (overwrite_length _ _)

/-- The session has some chunks written and keeps some of the others. -/
structure Filled
    (start : World) (count : Nat) (kept : Nat → Prop)
    (workspace : Workspace World) (session : UploadSession) : Prop where
  known : workspace.sessions.get? upload.uploadId = some session
  uploadId : session.uploadId = upload.uploadId
  filename : session.filename = upload.filename
  totalSize : session.totalSize = .int upload.chunks.flatten.length
  next : session.nextExpectedOffset = offsetOf upload.chunks count
  world : workspace.world = upload.written count start
  within : count ≤ upload.chunks.length
  ahead : ∀ index, kept index → count ≤ index ∧ index < upload.chunks.length
  buffered : ∀ position data,
    session.bufferedChunks.get? position = some data ↔
      ∃ index, kept index ∧
        position = .finite (offsetOf upload.chunks index : Int) ∧
        data = upload.chunks.getD index []

variable
  {upload : ChunkedUpload World} {start : World} {count : Nat}
  {kept : Nat → Prop} {workspace : Workspace World} {session : UploadSession}

namespace Filled

theorem congr
    (filled : upload.Filled start count kept workspace session)
    {other : Nat → Prop} (same : ∀ index, kept index ↔ other index) :
    upload.Filled start count other workspace session := by
  obtain rfl : kept = other := funext fun index => propext (same index)
  exact filled

/-- A created session has nothing written and keeps nothing. -/
theorem created
    (known : workspace.sessions.get? upload.uploadId =
      some
        { uploadId := upload.uploadId
          filename := upload.filename
          totalSize := .int upload.chunks.flatten.length }) :
    upload.Filled workspace.world 0 (fun _ => False) workspace
      { uploadId := upload.uploadId
        filename := upload.filename
        totalSize := .int upload.chunks.flatten.length } where
  known := known
  uploadId := rfl
  filename := rfl
  totalSize := rfl
  next := rfl
  world := rfl
  within := Nat.zero_le _
  ahead := fun _ isKept => isKept.elim
  buffered := by simp

/-- Writing the next chunk. -/
theorem writeChunk_run
    {content : World → Option Bytes}
    (writes : WritesFile content upload.writer upload.filename)
    (empty : content start = some [])
    (filled : upload.Filled start count kept workspace session)
    (bound : count < upload.chunks.length) (notKept : ¬ kept count)
    {stale : UploadSession} (named : stale.uploadId = upload.uploadId)
    (filename : stale.filename = upload.filename) :
    ∃ after later, (writeChunk stale (.int session.nextExpectedOffset)
        (upload.chunks.getD count []) upload.writer).run workspace =
          (.ok (), after) ∧
      upload.Filled start (count + 1) kept after later ∧
      later.bufferedChunks = session.bufferedChunks := by
  have content_eq := content_written writes empty filled.within
  rw [← filled.world] at content_eq
  obtain ⟨world, ran, _⟩ := writes (offsetOf upload.chunks count)
    (upload.chunks.getD count []) _ _ content_eq
  unfold writeChunk
  rw [Action.run_bind, onWorld_run, filename, filled.next, ran, named]
  dsimp only
  rw [updateSession_run_known _ (by exact filled.known)]
  refine ⟨_, _, rfl, ⟨Dict.get?_set_self _ _ _, filled.uploadId,
    filled.filename, filled.totalSize, ?_, ?_, bound, ?_, filled.buffered⟩, rfl⟩
  · rw [offsetOf_succ bound, filled.next, Nat.cast_add]
  · rw [written, ← filled.world, ran]
  · intro index isKept
    obtain ⟨above, below⟩ := filled.ahead index isKept
    have different : index ≠ count := fun same => notKept (same ▸ isKept)
    omega

/-- A kept chunk leaves the buffer. -/
theorem del
    (nonempty : ∀ chunk ∈ upload.chunks, chunk ≠ [])
    (filled : upload.Filled start count kept workspace session)
    (bound : count < upload.chunks.length) :
    upload.Filled start count (fun index => kept index ∧ index ≠ count)
      { workspace with
        sessions := workspace.sessions.set upload.uploadId
          { session with
            bufferedChunks := session.bufferedChunks.del
              (.finite session.nextExpectedOffset) } }
      { session with
        bufferedChunks := session.bufferedChunks.del
          (.finite session.nextExpectedOffset) } := by
  refine ⟨Dict.get?_set_self _ _ _, filled.uploadId, filled.filename,
    filled.totalSize, filled.next, filled.world, filled.within,
    fun index isKept => filled.ahead index isKept.1, ?_⟩
  intro position data
  rw [Dict.get?_del, filled.next]
  have place (index : Nat) (below : index < upload.chunks.length) :
      (FloatValue.finite (offsetOf upload.chunks index : Int) =
        .finite (offsetOf upload.chunks count : Int)) ↔ index = count := by
    rw [FloatValue.finite.injEq, Int.cast_inj, Nat.cast_inj]
    exact ⟨offsetOf_inj nonempty below.le bound.le, fun same => same ▸ rfl⟩
  split
  · next same =>
      subst same
      constructor
      · nofun
      · rintro ⟨index, ⟨isKept, different⟩, same, -⟩
        exact absurd ((place index (filled.ahead index isKept).2).mp same.symm)
          different
  · next different =>
      rw [filled.buffered]
      constructor
      · rintro ⟨index, isKept, rfl, same⟩
        refine ⟨index, ⟨isKept, fun equal => different ?_⟩, rfl, same⟩
        rw [equal]
      · rintro ⟨index, ⟨isKept, -⟩, found⟩
        exact ⟨index, isKept, found⟩

/-- A chunk that comes early is kept. -/
theorem bufferChunk_run
    (nonempty : ∀ chunk ∈ upload.chunks, chunk ≠ [])
    (filled : upload.Filled start count kept workspace session)
    {index : Nat} (above : count ≤ index) (below : index < upload.chunks.length) :
    ∃ after later, (updateSession session.uploadId fun current =>
        { current with
          bufferedChunks := current.bufferedChunks.set
            (.finite (offsetOf upload.chunks index : Int))
            (upload.chunks.getD index []) }).run workspace = (.ok (), after) ∧
      upload.Filled start count (fun other => kept other ∨ other = index)
        after later := by
  rw [filled.uploadId, updateSession_run_known _ filled.known]
  refine ⟨_, _, rfl, Dict.get?_set_self _ _ _, filled.uploadId,
    filled.filename, filled.totalSize, filled.next, filled.world,
    filled.within, ?_, ?_⟩
  · rintro other (isKept | rfl)
    · exact filled.ahead other isKept
    · exact ⟨above, below⟩
  · intro position data
    rw [Dict.get?_set]
    split
    · next same =>
        subst same
        constructor
        · rintro ⟨⟩
          exact ⟨index, .inr rfl, rfl, rfl⟩
        · rintro ⟨other, isKept, same, rfl⟩
          rw [FloatValue.finite.injEq, Int.cast_inj, Nat.cast_inj] at same
          have otherBelow : other < upload.chunks.length := by
            rcases isKept with before | rfl
            · exact (filled.ahead other before).2
            · exact below
          rw [offsetOf_inj nonempty below.le otherBelow.le same]
    · next different =>
        rw [filled.buffered]
        constructor
        · rintro ⟨other, isKept, found⟩
          exact ⟨other, .inl isKept, found⟩
        · rintro ⟨other, isKept | rfl, rfl, found⟩
          · exact ⟨other, isKept, rfl, found⟩
          · exact absurd rfl different

/-- The session is complete if all chunks are written. -/
theorem finishChunk_run
    (nonempty : ∀ chunk ∈ upload.chunks, chunk ≠ [])
    (filled : upload.Filled start count kept workspace session) :
    (finishChunk upload.uploadId).run workspace =
      if count = upload.chunks.length then
        (.ok (true, "Upload Complete"), { workspace with
          sessions := workspace.sessions.del upload.uploadId })
      else (.ok (false, "Chunk Applied"), workspace) := by
  have complete : session.totalSize.equalsInt session.nextExpectedOffset =
      decide (count = upload.chunks.length) := by
    rw [filled.totalSize, filled.next]
    simp only [Json.equalsInt, Json.number?, FloatValue.eq,
      FloatValue.finite.injEq, Int.cast_inj, Nat.cast_inj,
      ← offsetOf_length, decide_eq_decide]
    exact ⟨fun same => (offsetOf_inj nonempty le_rfl filled.within same).symm,
      fun same => same ▸ rfl⟩
  unfold finishChunk
  rw [Action.run_bind, get_run]
  dsimp only
  rw [filled.known]
  dsimp only
  rw [complete]
  by_cases all : count = upload.chunks.length
  · rw [if_pos all]
    simp only [all, decide_true, if_true]
    rfl
  · rw [if_neg all]
    simp only [all, decide_false, Bool.false_eq_true, if_false]
    rfl

/-- The next chunk is in the buffer if it is kept. -/
theorem get?_next
    (filled : upload.Filled start count kept workspace session)
    (isKept : kept count) :
    session.bufferedChunks.get? (.finite session.nextExpectedOffset) =
      some (upload.chunks.getD count []) := by
  rw [filled.buffered, filled.next]
  exact ⟨count, isKept, rfl, rfl⟩

/-- The next chunk is not in the buffer if it is not kept. -/
theorem get?_next_eq_none
    (nonempty : ∀ chunk ∈ upload.chunks, chunk ≠ [])
    (filled : upload.Filled start count kept workspace session)
    (isMissing : ¬ kept count) :
    session.bufferedChunks.get? (.finite session.nextExpectedOffset) =
      none := by
  rw [Option.eq_none_iff_forall_ne_some]
  intro data present
  rw [filled.buffered, filled.next] at present
  obtain ⟨index, keptIndex, same, -⟩ := present
  rw [FloatValue.finite.injEq, Int.cast_inj, Nat.cast_inj] at same
  rw [offsetOf_inj nonempty filled.within
    (filled.ahead index keptIndex).2.le same] at isMissing
  exact isMissing keptIndex

/-- Chunks are kept only from the next one on. -/
theorem kept_from_count
    (filled : upload.Filled start count kept workspace session) :
    upload.Filled start count (fun index => kept index ∧ count ≤ index)
      workspace session := by
  refine filled.congr fun index => ⟨fun isKept => ?_, And.left⟩
  exact ⟨isKept, (filled.ahead index isKept).1⟩

/-- The loop over the buffer writes kept chunks up to the first one that is
missing. -/
theorem processBuffer_run
    {content : World → Option Bytes}
    (writes : WritesFile content upload.writer upload.filename)
    (empty : content start = some [])
    (nonempty : ∀ chunk ∈ upload.chunks, chunk ≠ [])
    (filled : upload.Filled start count kept workspace session)
    {fuel : Nat} (enough : session.bufferedChunks.size ≤ fuel) :
    ∃ reached after later,
      (processBuffer upload.uploadId upload.writer fuel).run workspace =
        (.ok (), after) ∧
      upload.Filled start reached
        (fun index => kept index ∧ reached ≤ index) after later ∧
      count ≤ reached ∧
      (∀ index, count ≤ index → index < reached → kept index) ∧
      ¬ kept reached := by
  induction fuel generalizing count kept workspace session with
  | zero =>
      have empty := (Dict.size_eq_zero_iff _).mp (Nat.le_zero.mp enough)
      refine ⟨count, workspace, session, rfl, filled.kept_from_count, le_rfl,
        fun index above below => by omega, fun isKept => ?_⟩
      exact empty _ (Dict.mem_of_get? (filled.get?_next isKept))
  | succ fuel inductionHypothesis =>
      unfold processBuffer
      rw [Action.run_bind, get_run]
      dsimp only
      rw [filled.known]
      dsimp only
      by_cases isKept : kept count
      · have bound := (filled.ahead count isKept).2
        have found := filled.get?_next isKept
        rw [found]
        dsimp only
        rw [Action.run_bind, updateSession_run_known _ filled.known]
        dsimp only
        rw [Action.run_bind]
        have less := Dict.size_del_lt (Dict.mem_of_get? found)
        obtain ⟨after, later, wrote, advanced, same⟩ :=
          (filled.del nonempty bound).writeChunk_run writes empty bound
            (by simp) filled.uploadId filled.filename
        rw [wrote]
        dsimp only
        have smaller : later.bufferedChunks.size ≤ fuel := by
          rw [same]
          exact Nat.le_of_lt_succ (less.trans_le enough)
        obtain ⟨reached, last, lastSession, drained, final, further, passed,
          stopped⟩ := inductionHypothesis advanced smaller
        refine ⟨reached, last, lastSession, drained,
          final.congr fun index => ?_, by omega, fun index above below => ?_,
          fun keptReached => stopped ⟨keptReached, by omega⟩⟩
        · exact ⟨fun ⟨⟨keptIndex, _⟩, above⟩ => ⟨keptIndex, above⟩,
            fun ⟨keptIndex, above⟩ => ⟨⟨keptIndex, by omega⟩, above⟩⟩
        · rcases eq_or_ne index count with rfl | different
          · exact isKept
          · exact (passed index (by omega) below).1
      · rw [filled.get?_next_eq_none nonempty isKept]
        exact ⟨count, workspace, session, rfl, filled.kept_from_count, le_rfl,
          fun index above below => by omega, isKept⟩

/-- The next chunk of the session. -/
theorem sendChunk_run_next
    (mode : UploadMode)
    (filled : upload.Filled start count kept workspace session) :
    (upload.sendChunk mode count).run workspace =
      (applyNext mode session (.int session.nextExpectedOffset)
        (upload.chunks.getD count []) upload.writer).run workspace := by
  unfold sendChunk
  rw [applyChunk_run_known filled.known, filled.next]
  simp [Json.number?, FloatValue.lt, FloatValue.eq]

/-- A chunk that is written already. -/
theorem sendChunk_run_before
    (mode : UploadMode)
    (filled : upload.Filled start count kept workspace session)
    (nonempty : ∀ chunk ∈ upload.chunks, chunk ≠ [])
    (incomplete : count < upload.chunks.length)
    {index : Nat} (before : index < count) :
    (upload.sendChunk mode index).run workspace =
      (.ok (false, "Duplicate ignored"), workspace) := by
  have early : (FloatValue.finite (offsetOf upload.chunks index : Int)).lt
      (.finite (offsetOf upload.chunks count : Int)) = true := by
    apply decide_eq_true
    exact_mod_cast offsetOf_lt nonempty before filled.within
  have covered : ((offsetOf upload.chunks index : Int) : ℚ) +
      ((upload.chunks.getD index []).length : Int) ≤
        ((offsetOf upload.chunks count : Int) : ℚ) := by
    exact_mod_cast offsetOf_add_length_le before filled.within
  have ends : ((FloatValue.finite (offsetOf upload.chunks index : Int)).addInt
      (upload.chunks.getD index []).length).le
        (.finite (offsetOf upload.chunks count : Int)) = true := by
    simpa [FloatValue.addInt, FloatValue.le, FloatValue.lt, FloatValue.eq]
      using covered.lt_or_eq
  have waits : (Json.int upload.chunks.flatten.length).equalsInt
      (offsetOf upload.chunks count) = false := by
    apply decide_eq_false
    rw [FloatValue.finite.injEq, Int.cast_inj, Nat.cast_inj, ← offsetOf_length]
    exact (offsetOf_lt nonempty incomplete le_rfl).ne'
  unfold sendChunk
  rw [applyChunk_run_known filled.known, filled.next, filled.totalSize]
  dsimp only [Json.number?]
  rw [if_pos early, if_pos ends, waits]

/-- A chunk that comes before its turn. -/
theorem sendChunk_run_after
    (filled : upload.Filled start count kept workspace session)
    (nonempty : ∀ chunk ∈ upload.chunks, chunk ≠ [])
    {index : Nat} (after : count < index)
    (bound : index < upload.chunks.length) :
    (upload.sendChunk .bufferable index).run workspace =
      (bufferChunk session (.finite (offsetOf upload.chunks index : Int))
        (upload.chunks.getD index [])).run workspace := by
  have late := offsetOf_lt nonempty after bound.le
  have notEarly : (FloatValue.finite (offsetOf upload.chunks index : Int)).lt
      (.finite (offsetOf upload.chunks count : Int)) = false := by
    apply decide_eq_false
    exact_mod_cast late.le.not_gt
  have notNext : (FloatValue.finite (offsetOf upload.chunks index : Int)).eq
      (.finite (offsetOf upload.chunks count : Int)) = false := by
    apply decide_eq_false
    rw [FloatValue.finite.injEq, Int.cast_inj, Nat.cast_inj]
    exact late.ne'
  unfold sendChunk
  rw [applyChunk_run_known filled.known, filled.next]
  dsimp only [Json.number?]
  rw [notEarly, notNext]
  rfl

end Filled

/-! ## Buffering sessions -/

/-- The upload is not complete: the first chunk that is missing comes next, and
those after it that were sent are kept. -/
def Underway
    (upload : ChunkedUpload World) (start : World) (sent : List Nat)
    (workspace : Workspace World) : Prop :=
  ∃ count session,
    upload.Filled start count (fun index => index ∈ sent ∧ count ≤ index)
      workspace session ∧
    count < upload.chunks.length ∧ count ∉ sent ∧ ∀ index < count, index ∈ sent

section Buffering

variable
  {content : World → Option Bytes}
  (writes : WritesFile content upload.writer upload.filename)
  (empty : content start = some [])
  (nonempty : ∀ chunk ∈ upload.chunks, chunk ≠ [])

/-- What sending one chunk does to an upload under way. -/
structure Sent
    (upload : ChunkedUpload World) (start : World) (sent : List Nat)
    (answer : Bool × Text) (after : Workspace World) : Prop where
  world : ∃ count ≤ upload.chunks.length,
    after.world = upload.written count start
  underway : answer.1 = false → upload.Underway start sent after
  complete : answer.1 = true →
    (∀ index < upload.chunks.length, index ∈ sent) ∧
      after.world = upload.written upload.chunks.length start

theorem Underway.sent
    {sent : List Nat} {after : Workspace World} {message : Text}
    (underway : upload.Underway start sent after) :
    upload.Sent start sent (false, message) after := by
  refine ⟨?_, fun _ => underway, nofun⟩
  obtain ⟨count, session, filled, _⟩ := underway
  exact ⟨count, filled.within, filled.world⟩

include writes empty nonempty in
/-- The chunk that comes next is written, with those kept behind it. -/
theorem applyNext_sent
    {sent : List Nat}
    (filled : upload.Filled start count
      (fun index => index ∈ sent ∧ count ≤ index) workspace session)
    (bound : count < upload.chunks.length) (missing : count ∉ sent)
    (covered : ∀ index < count, index ∈ sent) :
    ∃ answer after, (applyNext .bufferable session
        (.int session.nextExpectedOffset) (upload.chunks.getD count [])
          upload.writer).run workspace = (.ok answer, after) ∧
      upload.Sent start (sent ++ [count]) answer after := by
  obtain ⟨wrote, later, ran, advanced, same⟩ := filled.writeChunk_run writes
    empty bound (fun isKept => missing isKept.1) filled.uploadId filled.filename
  obtain ⟨reached, drained, last, drainedRun, final, further, passed,
    stopped⟩ := advanced.processBuffer_run writes empty nonempty
      (congrArg Dict.size same).le
  have finished := final.finishChunk_run nonempty
  have passedSent (index : Nat) (below : index < reached) :
      index ∈ sent ++ [count] := by
    rcases Nat.lt_trichotomy index count with before | rfl | after
    · exact List.mem_append_left _ (covered index before)
    · simp
    · exact List.mem_append_left _ (passed index after below).1
  unfold applyNext
  rw [Action.run_bind, ran]
  dsimp only
  rw [if_pos rfl, Action.run_bind, filled.uploadId, drainedRun]
  dsimp only
  rw [finished]
  split
  · next all =>
      refine ⟨_, _, rfl, ⟨reached, final.within, final.world⟩, nofun,
        fun _ => ⟨fun index below => passedSent index (all ▸ below), ?_⟩⟩
      rw [← all]
      exact final.world
  · next incomplete =>
      refine ⟨_, _, rfl, Underway.sent ⟨reached, last,
        final.congr fun index => ?_, lt_of_le_of_ne final.within incomplete,
        fun member => ?_, passedSent⟩⟩
      · rw [List.mem_append, List.mem_singleton]
        constructor
        · exact fun ⟨⟨member, _⟩, above⟩ => ⟨.inl member, above⟩
        · rintro ⟨member | rfl, above⟩
          · exact ⟨⟨member, by omega⟩, above⟩
          · omega
      · rcases List.mem_append.mp member with before | single
        · exact stopped ⟨before, by omega⟩
        · rw [List.mem_singleton] at single
          omega

include writes empty nonempty in
/-- Step lemma: a chunk is a duplicate, the next one, or kept. -/
theorem sendChunk_sent
    {sent : List Nat} (underway : upload.Underway start sent workspace)
    {index : Nat} (bound : index < upload.chunks.length) :
    ∃ answer after, (upload.sendChunk .bufferable index).run workspace =
        (.ok answer, after) ∧
      upload.Sent start (sent ++ [index]) answer after := by
  obtain ⟨count, session, filled, incomplete, missing, covered⟩ := underway
  rcases Nat.lt_trichotomy index count with before | rfl | later
  · rw [filled.sendChunk_run_before .bufferable nonempty incomplete before]
    refine ⟨_, _, rfl, Underway.sent ⟨count, session,
      filled.congr fun other => ?_, incomplete, ?_,
      fun other below => List.mem_append_left _ (covered other below)⟩⟩
    · rw [List.mem_append, List.mem_singleton]
      constructor
      · exact fun ⟨member, above⟩ => ⟨.inl member, above⟩
      · rintro ⟨member | rfl, above⟩
        · exact ⟨member, above⟩
        · omega
    · rw [List.mem_append, List.mem_singleton, not_or]
      exact ⟨missing, before.ne'⟩
  · rw [filled.sendChunk_run_next]
    exact applyNext_sent writes empty nonempty filled bound missing covered
  · obtain ⟨after, kept, buffered, keeps⟩ :=
      filled.bufferChunk_run nonempty later.le bound
    rw [filled.sendChunk_run_after nonempty later bound, bufferChunk,
      Action.run_bind, buffered]
    dsimp only
    rw [filled.uploadId, keeps.finishChunk_run nonempty,
      if_neg incomplete.ne]
    refine ⟨_, _, rfl, Underway.sent ⟨count, kept,
      keeps.congr fun other => ?_, incomplete, ?_,
      fun other below => List.mem_append_left _ (covered other below)⟩⟩
    · rw [List.mem_append, List.mem_singleton]
      constructor
      · rintro (⟨member, above⟩ | rfl)
        · exact ⟨.inl member, above⟩
        · exact ⟨.inr rfl, later.le⟩
      · rintro ⟨member | rfl, above⟩
        · exact .inl ⟨member, above⟩
        · exact .inr rfl
    · rw [List.mem_append, List.mem_singleton, not_or]
      exact ⟨missing, later.ne⟩

end Buffering

/-! ## Runs -/

section Runs

variable
  {content : World → Option Bytes}
  (writes : WritesFile content upload.writer upload.filename)
  (empty : content workspace.world = some [])
  (nonempty : ∀ chunk ∈ upload.chunks, chunk ≠ [])
  (known : workspace.sessions.get? upload.uploadId =
    some
      { uploadId := upload.uploadId
        filename := upload.filename
        totalSize := .int upload.chunks.flatten.length })

include writes empty nonempty known in
/-- Run lemma: as long as no call reports completion, none raises and the
upload is under way. -/
theorem sendChunks_underway
    (some_chunk : 0 < upload.chunks.length) {sent : List Nat}
    (drawn : ∀ index ∈ sent, index < upload.chunks.length)
    (noneComplete : ∀ result ∈ (upload.sendChunks .bufferable sent workspace).1,
      ∀ message, result ≠ .ok (true, message)) :
    (∃ answers, (upload.sendChunks .bufferable sent workspace).1 =
      List.map .ok answers) ∧
    upload.Underway workspace.world sent
      (upload.sendChunks .bufferable sent workspace).2 := by
  induction sent using List.reverseRecOn with
  | nil =>
      refine ⟨⟨[], rfl⟩, 0, _, (Filled.created known).congr ?_, some_chunk,
        nofun, nofun⟩
      simp
  | append_singleton sent index inductionHypothesis =>
      rw [List.forall_mem_append, List.forall_mem_singleton] at drawn
      rw [sendChunks_append_singleton] at noneComplete ⊢
      rw [List.forall_mem_append, List.forall_mem_singleton] at noneComplete
      obtain ⟨⟨answers, answered⟩, underway⟩ :=
        inductionHypothesis drawn.1 noneComplete.1
      obtain ⟨answer, after, ran, step⟩ :=
        sendChunk_sent writes empty nonempty underway drawn.2
      rw [ran] at noneComplete ⊢
      refine ⟨⟨answers ++ [answer], ?_⟩, step.underway ?_⟩
      · rw [answered, List.map_append, List.map_singleton]
      · obtain ⟨done, message⟩ := answer
        cases done with
        | false => rfl
        | true => exact absurd rfl (noneComplete.2 message)

include writes empty nonempty known in
/-- A strict session writes the chunks it gets in order. -/
theorem sendChunks_strict
    {count : Nat} (bound : count ≤ upload.chunks.length) :
    (upload.sendChunks .strict (List.range count) workspace).2.world =
        upload.written count workspace.world ∧
      (count < upload.chunks.length → ∃ session,
        upload.Filled workspace.world count (fun _ => False)
          (upload.sendChunks .strict (List.range count) workspace).2
          session) := by
  induction count with
  | zero => exact ⟨rfl, fun _ => ⟨_, Filled.created known⟩⟩
  | succ count inductionHypothesis =>
      obtain ⟨session, filled⟩ := (inductionHypothesis (by omega)).2 bound
      obtain ⟨after, later, wrote, advanced, _⟩ := filled.writeChunk_run writes
        empty bound not_false filled.uploadId filled.filename
      rw [List.range_succ, sendChunks_append_singleton,
        filled.sendChunk_run_next, applyNext, Action.run_bind, wrote]
      dsimp only
      rw [if_neg (by decide), filled.uploadId]
      change ((finishChunk upload.uploadId).run after).2.world = _ ∧
        (_ → ∃ session, upload.Filled workspace.world (count + 1)
          (fun _ => False) ((finishChunk upload.uploadId).run after).2 session)
      rw [advanced.finishChunk_run nonempty]
      split
      · next all => exact ⟨advanced.world, fun less => absurd all less.ne⟩
      · exact ⟨advanced.world, fun _ => ⟨later, advanced⟩⟩

end Runs

/-- Chunks sent in any order, any of them more than once, to a session that
keeps early ones: up to the first call that reports completion no call raises,
what is written is what a strict session writes for the first chunks in order,
and the call that reports it is the one that brings the last missing chunk,
after which the file is complete. -/
theorem bufferable_refines_strict
    {content : World → Option Bytes}
    (writes : WritesFile content upload.writer upload.filename)
    (nonempty : ∀ chunk ∈ upload.chunks, chunk ≠ [])
    (known : workspace.sessions.get? upload.uploadId =
      some
        { uploadId := upload.uploadId
          filename := upload.filename
          totalSize := .int upload.chunks.flatten.length })
    (empty : content workspace.world = some []) {sent : List Nat} {last : Nat}
    (drawn : ∀ index ∈ sent ++ [last], index < upload.chunks.length)
    (noneComplete : ∀ result ∈ (upload.sendChunks .bufferable sent workspace).1,
      ∀ message, result ≠ .ok (true, message)) :
    ∃ answers answer after,
      upload.sendChunks .bufferable (sent ++ [last]) workspace =
        (List.map .ok (answers ++ [answer]), after) ∧
      (∃ count ≤ upload.chunks.length, after.world =
        (upload.sendChunks .strict (List.range count) workspace).2.world) ∧
      (answer.1 = true ↔
        ∀ index < upload.chunks.length, index ∈ sent ++ [last]) ∧
      (answer.1 = true → content after.world = some upload.chunks.flatten) := by
  rw [List.forall_mem_append, List.forall_mem_singleton] at drawn
  obtain ⟨⟨answers, answered⟩, underway⟩ := sendChunks_underway writes empty
    nonempty known (by omega) drawn.1 noneComplete
  obtain ⟨answer, after, ran, step⟩ :=
    sendChunk_sent writes empty nonempty underway drawn.2
  refine ⟨answers, answer, after, ?_, ?_, ⟨fun done => (step.complete done).1,
    fun all => ?_⟩, fun done => ?_⟩
  · rw [sendChunks_append_singleton, ran, answered, List.map_append,
      List.map_singleton]
  · obtain ⟨count, within, world_eq⟩ := step.world
    exact ⟨count, within, world_eq.trans
      (sendChunks_strict writes empty nonempty known within).1.symm⟩
  · by_contra incomplete
    obtain ⟨count, _, _, bound, missing, _⟩ :=
      step.underway (by simpa using incomplete)
    exact missing (all count bound)
  · rw [(step.complete done).2, content_written writes empty le_rfl,
      List.take_length]

end ChunkedUpload

/-! ## A sample upload -/

namespace Sample

open MemoryHost

/-- Two chunks of a file. -/
def chunkedUpload : ChunkedUpload Files where
  host := memoryHost [] []
  uploadId := "u"
  filename := "a.txt"
  writer := fileWriter (memoryHost [] []) policyGuard
  chunks := [[0x61], [0x62, 0x63]]

/-- The file and the session after the upload was created. -/
def createdUpload : Workspace Files where
  world := Dict.empty.set "/sandbox/a.txt" []
  sessions := Dict.empty.set "u"
    { uploadId := "u", filename := "a.txt", totalSize := .int 3 }

theorem chunkedUpload_writes :
    WritesFile (fun files : Files => files.get? "/sandbox/a.txt")
      chunkedUpload.writer chunkedUpload.filename := by
  refine fileWriter_writesFile (memoryFiles [] []) (by decide) ?_
  intro offset data files before present
  have read : (MemoryHost.readFile "/sandbox/a.txt").run files =
      (.ok before, files) := (memoryFiles [] []).readFile_run present
  change ((MemoryHost.readFile "/sandbox/a.txt" >>= fun content =>
    setFile "/sandbox/a.txt" (overwrite content (offset : Int).toNat data) :
      Action Files Unit).run files).1 = _
  rw [Action.run_bind, read]
  rfl

/-- The chunks come in reverse order. -/
theorem bufferable_refines_strict_reversed :
    ∃ answers answer after,
      chunkedUpload.sendChunks .bufferable ([1] ++ [0]) createdUpload =
        (List.map .ok (answers ++ [answer]), after) ∧
      (∃ count ≤ 2, after.world =
        (chunkedUpload.sendChunks .strict (List.range count)
          createdUpload).2.world) ∧
      (answer.1 = true ↔ ∀ index < 2, index ∈ [1] ++ [0]) ∧
      (answer.1 = true →
        after.world.get? "/sandbox/a.txt" = some [0x61, 0x62, 0x63]) := by
  refine ChunkedUpload.bufferable_refines_strict chunkedUpload_writes
    (by decide) rfl rfl (by decide) ?_
  have answered : (chunkedUpload.sendChunks .bufferable [1] createdUpload).1 =
      [.ok (false, "Chunk Applied")] := rfl
  rw [answered]
  simp

end Sample

end RudpAgentStack

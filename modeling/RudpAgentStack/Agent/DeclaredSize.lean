import RudpAgentStack.Agent.ChunkFlow
import RudpAgentStack.Agent.FileRequests
import RudpAgentStack.Agent.WriteRecord
import Mathlib.Algebra.Order.Ring.Rat

/-!
# Declared sizes of uploads

The size of an upload is checked when the upload is started, and nothing checks
the chunks against it.  While every chunk that is written, or kept to be
written later, ends within the declared size, all writes of an upload stay
within that size, and no file grows beyond the largest size allowed.
-/

namespace RudpAgentStack

open Foundation

variable {World : Type} {host : Host World} {guard : PolicyGuard}

/-! ## Sessions within their declared size -/

/-- What was written ends within the declared size, which is allowed, and so
does what is kept for an offset within it. -/
structure UploadSession.Bounded (session : UploadSession) (total : ℚ) :
    Prop where
  declared : session.totalSize.number? = some (.finite total)
  natural : 0 ≤ session.nextExpectedOffset
  within : (session.nextExpectedOffset : ℚ) ≤ total
  allowed : total ≤ maxFileSize
  buffered : ∀ (position : Int) chunk,
    session.bufferedChunks.get? (.finite position) = some chunk →
    (position : ℚ) ≤ total → (position : ℚ) + chunk.length ≤ total

theorem UploadSession.Bounded.eq
    {session : UploadSession} {total other : ℚ} (bounded : session.Bounded total)
    (declared : session.totalSize.number? = some (.finite other)) :
    total = other := by
  have same := bounded.declared.symm.trans declared
  cases same
  rfl

/-- Every session is known by its id, and within its declared size. -/
def SessionsBounded (sessions : Dict Text UploadSession) : Prop :=
  ∀ key session, sessions.get? key = some session →
    session.uploadId = key ∧ ∃ total, session.Bounded total

/-- While a chunk is applied to a session, writes stay within its declared size,
and files within the largest size allowed. -/
structure Applying
    (record : WriteRecord host) (before : World) (key : Text) (total : ℚ)
    (workspace : Workspace World) : Prop where
  sessions : SessionsBounded workspace.sessions
  declared : ∀ session, workspace.sessions.get? key = some session →
    session.totalSize.number? = some (.finite total)
  written : ∃ added,
    record.writes workspace.world = record.writes before ++ added ∧
      ∀ write ∈ added, 0 ≤ write.position ∧
        (write.position : ℚ) + write.length ≤ total
  lengths : ∀ path, (record.length workspace.world path : Int) ≤
    max (record.length before path : Int) maxFileSize

namespace Applying

variable
  {record : WriteRecord host} {before : World} {key : Text} {total : ℚ}
  {workspace : Workspace World}

/-- Another world, in which nothing more was written. -/
theorem of_writesNothing
    (applying : Applying record before key total workspace) {α : Type}
    {action : Action World α}
    (nothing : WritesNothing record.writes record.length action) :
    Applying record before key total
      { workspace with world := (action.run workspace.world).2 } := by
  obtain ⟨writes_eq, lengths⟩ := nothing workspace.world
  obtain ⟨added, written_eq, within⟩ := applying.written
  refine ⟨applying.sessions, applying.declared,
    ⟨added, writes_eq.trans written_eq, within⟩, fun path => ?_⟩
  have shorter : (record.length (action.run workspace.world).2 path : Int) ≤
      record.length workspace.world path := by exact_mod_cast lengths path
  exact shorter.trans (applying.lengths path)

/-- Another session in the place of the one the chunk is for. -/
theorem set_session
    (applying : Applying record before key total workspace)
    {session : UploadSession} (named : session.uploadId = key)
    (bounded : session.Bounded total) :
    Applying record before key total
      { workspace with sessions := workspace.sessions.set key session } := by
  refine ⟨?_, ?_, applying.written, applying.lengths⟩
  · intro other found present
    rw [Dict.get?_set] at present
    split at present
    · next same =>
        cases present
        exact ⟨named.trans same.symm, total, bounded⟩
    · exact applying.sessions other found present
  · intro found present
    rw [Dict.get?_set_self] at present
    cases present
    exact bounded.declared

theorem del_session
    (applying : Applying record before key total workspace) :
    Applying record before key total
      { workspace with sessions := workspace.sessions.del key } := by
  refine ⟨?_, ?_, applying.written, applying.lengths⟩
  · intro other found present
    rw [Dict.get?_del] at present
    split at present
    · cases present
    · exact applying.sessions other found present
  · intro found present
    rw [Dict.get?_del, if_pos rfl] at present
    cases present

/-- A write within the declared size. -/
theorem writeAt
    (applying : Applying record before key total workspace)
    {path : Text} {position : Int} {data : Bytes} (natural : 0 ≤ position)
    (within : (position : ℚ) + data.length ≤ total)
    (allowed : total ≤ maxFileSize) :
    Applying record before key total
      { workspace with
        world :=
          ((host.writeAt path position data).run workspace.world).2 } := by
  obtain ⟨writes_eq, lengths⟩ :=
    record.writeAt path data workspace.world natural
  obtain ⟨added, written_eq, addedWithin⟩ := applying.written
  refine ⟨applying.sessions, applying.declared,
    ⟨added ++ [⟨path, position, data.length⟩], ?_, ?_⟩, fun other => ?_⟩
  · rw [writes_eq, written_eq, List.append_assoc]
  · rw [List.forall_mem_append, List.forall_mem_singleton]
    exact ⟨addedWithin, natural, within⟩
  · have fits : position + (data.length : Int) ≤ maxFileSize := by
      have small := within.trans allowed
      exact_mod_cast small
    exact (lengths other).trans (max_le (applying.lengths other)
      (fits.trans (le_max_right _ _)))

end Applying

/-! ## Applying a chunk -/

section Apply

variable
  {record : WriteRecord host} {before : World} {key : Text} {total : ℚ}
  {workspace : Workspace World}

/-- The writer writes at an integer, or nothing. -/
theorem fileWriter_applying
    (applying : Applying record before key total workspace)
    (allowed : total ≤ maxFileSize) (filename : Text) {offset : Json}
    {data : Bytes}
    (fits : ∀ position, offset.integer? = some position →
      0 ≤ position ∧ (position : ℚ) + data.length ≤ total) :
    Ends (onWorld (fileWriter host guard filename offset data)) workspace
      (fun _ after => (∃ position, offset.integer? = some position) ∧
        Applying record before key total after ∧
        after.sessions = workspace.sessions)
      (fun _ after => Applying record before key total after) := by
  rw [ends_onWorld_iff]
  unfold fileWriter
  refine Ends.bind_lift (fun path _ => ?_) fun _ _ => applying
  split
  · next position isInteger =>
      obtain ⟨natural, within⟩ := fits position isInteger
      have after : Applying record before key total { workspace with
          world :=
            ((host.writeAt path position data).run workspace.world).2 } :=
        applying.writeAt natural within allowed
      unfold Ends
      generalize (host.writeAt path position data).run workspace.world = result
        at after
      obtain ⟨error | value, world⟩ := result
      · exact after
      · exact ⟨⟨position, isInteger⟩, after, rfl⟩
  · have after := applying.of_writesNothing (record.openUpdate path)
    rw [Ends.bind_iff]
    unfold Ends
    generalize (host.openUpdate path).run workspace.world = result at after
    obtain ⟨error | value, world⟩ := result <;> exact after

/-- Writing a chunk at the next offset of its session. -/
theorem writeChunk_applying
    (applying : Applying record before key total workspace)
    {session current : UploadSession} {offset : Json} {data : Bytes}
    (named : session.uploadId = key)
    (known : workspace.sessions.get? key = some current)
    (next : ∀ position, offset.integer? = some position →
      position = current.nextExpectedOffset ∧
        (position : ℚ) + data.length ≤ total) :
    Ends
      (UploadSessionManager.writeChunk session offset data
        (fileWriter host guard))
      workspace
      (fun _ after => Applying record before key total after)
      (fun _ after => Applying record before key total after) := by
  obtain ⟨currentNamed, other, bounded⟩ := applying.sessions key current known
  obtain rfl := bounded.eq (applying.declared current known)
  unfold UploadSessionManager.writeChunk
  refine Ends.bind (fileWriter_applying applying bounded.allowed _ ?_) ?_
  · intro position isInteger
    obtain ⟨rfl, within⟩ := next position isInteger
    exact ⟨bounded.natural, within⟩
  · rintro _ after ⟨⟨position, isInteger⟩, written, sessions_eq⟩
    obtain ⟨rfl, within⟩ := next position isInteger
    rw [named, Ends.of_run_ok (UploadSessionManager.updateSession_run_known _
      (by rw [sessions_eq]; exact known))]
    refine written.set_session currentNamed ⟨bounded.declared, ?_, ?_,
      bounded.allowed, bounded.buffered⟩
    · exact add_nonneg bounded.natural (Int.natCast_nonneg _)
    · push_cast
      exact within

/-- The chunks that were kept are written within the declared size. -/
theorem processBuffer_applying
    (fuel : Nat) (applying : Applying record before key total workspace) :
    Ends
      (UploadSessionManager.processBuffer key (fileWriter host guard) fuel)
      workspace
      (fun _ after => Applying record before key total after)
      (fun _ after => Applying record before key total after) := by
  induction fuel generalizing workspace with
  | zero => exact applying
  | succ fuel inductionHypothesis =>
    unfold UploadSessionManager.processBuffer
    rw [Ends.bind_iff, Ends.get_iff]
    split
    · exact applying
    · next session known =>
        obtain ⟨named, other, bounded⟩ := applying.sessions key session known
        obtain rfl := bounded.eq (applying.declared session known)
        dsimp only
        split
        · exact applying
        · next chunk kept =>
            have fits := bounded.buffered _ _ kept bounded.within
            rw [Ends.bind_iff,
              Ends.of_run_ok
                (UploadSessionManager.updateSession_run_known _ known)]
            have without : Applying record before key other { workspace with
                sessions := workspace.sessions.set key { session with
                  bufferedChunks := session.bufferedChunks.del
                    (.finite session.nextExpectedOffset) } } := by
              refine applying.set_session named ⟨bounded.declared,
                bounded.natural, bounded.within, bounded.allowed, ?_⟩
              intro position found present
              rw [Dict.get?_del] at present
              split at present
              · cases present
              · exact bounded.buffered position found present
            refine Ends.bind (writeChunk_applying without named
              (Dict.get?_set_self _ _ _) ?_) fun _ _ => inductionHypothesis
            rintro _ ⟨⟩
            exact ⟨rfl, fits⟩

theorem finishChunk_applying
    (applying : Applying record before key total workspace) :
    Ends (UploadSessionManager.finishChunk key) workspace
      (fun _ after => Applying record before key total after)
      (fun _ after => Applying record before key total after) := by
  unfold UploadSessionManager.finishChunk
  rw [Ends.bind_iff, Ends.get_iff]
  split
  · split
    · rw [Ends.bind_iff, Ends.modify_iff]
      exact applying.del_session
    · exact applying
  · exact applying

theorem applyNext_applying
    (mode : UploadMode)
    (applying : Applying record before key total workspace)
    {session : UploadSession} {offset : Json} {chunkData : Bytes}
    (known : workspace.sessions.get? key = some session)
    (next : ∀ position, offset.integer? = some position →
      position = session.nextExpectedOffset ∧
        (position : ℚ) + chunkData.length ≤ total) :
    Ends
      (UploadSessionManager.applyNext mode session offset chunkData
        (fileWriter host guard))
      workspace
      (fun _ after => Applying record before key total after)
      (fun _ after => Applying record before key total after) := by
  obtain ⟨rfl, _⟩ := applying.sessions key session known
  unfold UploadSessionManager.applyNext
  refine (writeChunk_applying applying rfl known next).bind fun _ _ written => ?_
  split
  · exact (processBuffer_applying _ written).bind
      fun _ _ processed => finishChunk_applying processed
  · exact finishChunk_applying written

theorem bufferChunk_applying
    (applying : Applying record before key total workspace)
    {session : UploadSession} {position : FloatValue} {chunkData : Bytes}
    (known : workspace.sessions.get? key = some session)
    (fits : ∀ place : Int, position = .finite place →
      (place : ℚ) ≤ total → (place : ℚ) + chunkData.length ≤ total) :
    Ends
      (UploadSessionManager.bufferChunk session position chunkData :
        Action (Workspace World) (Bool × Text))
      workspace
      (fun _ after => Applying record before key total after)
      (fun _ after => Applying record before key total after) := by
  obtain ⟨rfl, other, bounded⟩ := applying.sessions key session known
  obtain rfl := bounded.eq (applying.declared session known)
  unfold UploadSessionManager.bufferChunk
  rw [Ends.bind_iff,
    Ends.of_run_ok (UploadSessionManager.updateSession_run_known _ known)]
  refine finishChunk_applying (applying.set_session rfl ⟨bounded.declared,
    bounded.natural, bounded.within, bounded.allowed, ?_⟩)
  intro place chunk present
  rw [Dict.get?_set] at present
  split at present
  · next same =>
      cases present
      exact fits place same.symm
  · exact bounded.buffered place chunk present

/-- A chunk that is written next, or kept for an offset within the declared
size, ends within that size. -/
structure ChunkFits
    (mode : UploadMode) (session : UploadSession) (offset : Json)
    (chunkData : Bytes) (total : ℚ) : Prop where
  next : ∀ position, offset.integer? = some position →
    position = session.nextExpectedOffset →
    (position : ℚ) + chunkData.length ≤ total
  later : mode = .bufferable → ∀ position : Int,
    offset.number? = some (.finite position) →
    session.nextExpectedOffset < position → (position : ℚ) ≤ total →
    (position : ℚ) + chunkData.length ≤ total

/-- Applying a chunk that fits writes within the declared size. -/
theorem applyChunk_applying
    (mode : UploadMode) {uploadId : Text} {session : UploadSession}
    {offset : Json} {chunkData : Bytes}
    (applying : Applying record before uploadId total workspace)
    (known : workspace.sessions.get? uploadId = some session)
    (fits : ChunkFits mode session offset chunkData total) :
    Ends
      (UploadSessionManager.applyChunk host mode (.string uploadId) offset
        chunkData (fileWriter host guard))
      workspace
      (fun _ after => Applying record before uploadId total after)
      (fun _ after => Applying record before uploadId total after) := by
  obtain ⟨named, other, bounded⟩ := applying.sessions uploadId session known
  obtain rfl := bounded.eq (applying.declared session known)
  unfold Ends
  rw [UploadSessionManager.applyChunk_run_known known]
  cases number : offset.number? with
  | none => exact applying
  | some position =>
  dsimp only
  cases early : position.lt (.finite session.nextExpectedOffset) with
  | true =>
    rw [if_pos rfl]
    cases (position.addInt chunkData.length).le
        (.finite session.nextExpectedOffset) <;> exact applying
  | false =>
  rw [if_neg Bool.false_ne_true]
  cases next : position.eq (.finite session.nextExpectedOffset) with
  | true =>
    rw [if_pos rfl]
    refine applyNext_applying mode applying known fun place isInteger => ?_
    have same := number.symm.trans (Json.number?_of_integer? isInteger)
    have isNext : place = session.nextExpectedOffset := by
      rw [FloatValue.eq_finite_of_eq next] at same
      simpa using same.symm
    exact ⟨isNext, fits.next place isInteger isNext⟩
  | false =>
  rw [if_neg Bool.false_ne_true]
  cases mode with
  | strict => exact applying
  | bufferable =>
    refine bufferChunk_applying applying known fun place isFinite => ?_
    subst isFinite
    refine fits.later rfl place number ?_
    simp only [FloatValue.lt, FloatValue.eq, decide_eq_false_iff_not,
      FloatValue.finite.injEq, Int.cast_lt, Int.cast_inj] at early next
    exact lt_of_le_of_ne (not_lt.mp early) (Ne.symm next)

end Apply

/-! ## Requests -/

/-- The request declares a size, unless it is refused because its file exists,
or has a chunk that fits the declared one. -/
def Declares
    (host : Host World) (guard : PolicyGuard) (mode : UploadMode)
    (workspace : Workspace World) : FileRequest → Prop
  | .putMeta payload => ∀ filename absPath totalSize size overwrite,
      PutMetaRequest host guard payload filename absPath totalSize size
        overwrite →
      overwrite = true ∨ host.pathExists absPath workspace.world = false →
      (FloatValue.finite 0).le size = true
  | .putChunk payload => ∀ uploadId offset chunkLen chunkData session total,
      PutChunkRequest host payload (.string uploadId) offset chunkLen
        chunkData →
      chunkLen.equalsInt chunkData.length = true →
      workspace.sessions.get? uploadId = some session →
      session.totalSize.number? = some (.finite total) →
      ChunkFits mode session offset chunkData total
  | .append _ => True

/-- What the request wrote lies within the declared size of its session. -/
def WritesWithin
    (record : WriteRecord host) (before after : Workspace World)
    (request : FileRequest) : Prop :=
  ∃ added, record.writes after.world = record.writes before.world ++ added ∧
    ∀ write ∈ added, ∃ payload uploadId offset chunkLen chunkData session total,
      request = .putChunk payload ∧
      PutChunkRequest host payload (.string uploadId) offset chunkLen
        chunkData ∧
      before.sessions.get? uploadId = some session ∧
      session.totalSize.number? = some (.finite total) ∧
      0 ≤ write.position ∧ (write.position : ℚ) + write.length ≤ total

/-- Nothing was written at an offset, and no file has grown beyond the largest
size allowed. -/
structure Quiet (record : WriteRecord host) (before after : World) : Prop where
  writes : record.writes after = record.writes before
  lengths : ∀ path, (record.length after path : Int) ≤
    max (record.length before path : Int) maxFileSize

/-- What a request keeps when its size is declared. -/
structure Kept
    (record : WriteRecord host) (before after : Workspace World)
    (request : FileRequest) : Prop where
  sessions : SessionsBounded after.sessions
  writes : WritesWithin record before after request
  lengths : ∀ path, (record.length after.world path : Int) ≤
    max (record.length before.world path : Int) maxFileSize

section Step

variable {record : WriteRecord host} {before : Workspace World}

/-- A request that changes nothing keeps everything. -/
theorem Kept.of_unchanged
    (sessions : SessionsBounded before.sessions) (request : FileRequest) :
    Kept record before before request :=
  ⟨sessions, ⟨[], (List.append_nil _).symm, nofun⟩,
    fun _ => le_max_left _ _⟩

theorem Kept.of_quiet
    {after : Workspace World} (sessions : SessionsBounded after.sessions)
    (request : FileRequest) (quiet : Quiet record before.world after.world) :
    Kept record before after request :=
  ⟨sessions, ⟨[], by rw [quiet.writes, List.append_nil], nofun⟩,
    quiet.lengths⟩

theorem Kept.of_applying
    {payload : Bytes} {uploadId : Text} {offset chunkLen : Json}
    {chunkData : Bytes} {session : UploadSession} {total : ℚ}
    {after : Workspace World}
    (request : PutChunkRequest host payload (.string uploadId) offset chunkLen
      chunkData)
    (known : before.sessions.get? uploadId = some session)
    (declared : session.totalSize.number? = some (.finite total))
    (applying : Applying record before.world uploadId total after) :
    Kept record before after (.putChunk payload) := by
  obtain ⟨added, written_eq, within⟩ := applying.written
  refine ⟨applying.sessions, ⟨added, written_eq, fun write member => ?_⟩,
    applying.lengths⟩
  obtain ⟨natural, fits⟩ := within write member
  exact ⟨payload, uploadId, offset, chunkLen, chunkData, session, total, rfl,
    request, known, declared, natural, fits⟩

theorem Quiet.of_writesNothing
    {world between : World} {α : Type} {action : Action World α}
    (quiet : Quiet record world between)
    (nothing : WritesNothing record.writes record.length action) :
    Quiet record world (action.run between).2 := by
  obtain ⟨writes_eq, lengths⟩ := nothing between
  refine ⟨writes_eq.trans quiet.writes, fun path => ?_⟩
  have shorter : (record.length (action.run between).2 path : Int) ≤
      record.length between path := Int.ofNat_le.mpr (lengths path)
  exact shorter.trans (quiet.lengths path)

theorem Quiet.ends
    {world between : World} {α : Type} {action : Action World α}
    (quiet : Quiet record world between)
    (nothing : WritesNothing record.writes record.length action) :
    Ends action between (fun _ after => Quiet record world after)
      (fun _ after => Quiet record world after) :=
  Ends.of_run (quiet.of_writesNothing nothing)

theorem Quiet.of_appendFile
    {world between : World} {path : Text} {size : Int} (data : Bytes)
    (quiet : Quiet record world between)
    (known : (record.length between path : Int) ≤ size)
    (fits : size + data.length ≤ maxFileSize) :
    Quiet record world ((host.appendFile path data).run between).2 := by
  obtain ⟨writes_eq, lengths⟩ := record.appendFile path data between
  refine ⟨writes_eq.trans quiet.writes, fun other => ?_⟩
  have longer := lengths other
  have before := quiet.lengths other
  omega

/-- Appending lets no file grow beyond the largest size allowed. -/
theorem appendRequested_quiet
    (absPath filename : Text) (binaryData : Bytes) (world : World) :
    Ends (appendRequested host absPath filename binaryData) world
      (fun _ after => Quiet record world after)
      (fun _ after => Quiet record world after) := by
  have start : Quiet record world world := ⟨rfl, fun _ => le_max_left _ _⟩
  have requires : Ends (requireFile host absPath filename) world
      (fun _ after => after = world) (fun _ after => Quiet record world after) := by
    unfold requireFile
    rw [Ends.bind_iff, Ends.of_run_ok (host.exists?_run absPath world)]
    split
    · exact rfl
    · exact start
  have measured : Ends (host.getsize absPath) world
      (fun size after => Quiet record world after ∧
        (record.length after absPath : Int) ≤ size)
      (fun _ after => Quiet record world after) := by
    have ends := start.ends (record.getsize absPath)
    rw [Ends.iff_forall] at ends ⊢
    exact ⟨fun size after run =>
      ⟨ends.1 size after run, record.getsize_run run⟩, ends.2⟩
  unfold appendRequested
  refine requires.bind ?_
  rintro _ _ rfl
  refine measured.bind ?_
  rintro size between ⟨quiet, known⟩
  dsimp only
  split
  · exact quiet
  · next fits =>
      rw [not_lt] at fits
      have appended := quiet.of_appendFile binaryData known fits
      have ends : Ends (host.appendFile absPath binaryData) between
          (fun _ after => Quiet record _ after)
          (fun _ after => Quiet record _ after) := Ends.of_run appended
      refine ends.bind fun _ _ quiet => ?_
      exact (quiet.ends (record.getsize absPath)).bind fun _ _ quiet => quiet

/-- While an upload is started, nothing is written at an offset. -/
structure Starting
    (record : WriteRecord host) (before : World)
    (workspace : Workspace World) : Prop where
  sessions : SessionsBounded workspace.sessions
  quiet : Quiet record before workspace.world

theorem Starting.onWorld
    {world : World} {α : Type} {action : Action World α}
    (nothing : WritesNothing record.writes record.length action) :
    Keeps (Starting record world) (onWorld action) (fun _ => True)
      (fun _ => True) := by
  intro workspace starting
  rw [ends_onWorld_iff]
  exact (starting.quiet.ends nothing).mono
    (fun _ _ quiet => ⟨trivial, starting.sessions, quiet⟩)
    fun _ _ quiet => ⟨trivial, starting.sessions, quiet⟩

/-- A new session is within its declared size. -/
theorem Starting.createSession
    {world : World} (filename : Text) {totalSize : Json} {total : ℚ}
    (declared : totalSize.number? = some (.finite total)) (natural : 0 ≤ total)
    (allowed : total ≤ maxFileSize) :
    Keeps (Starting record world)
      (UploadSessionManager.createSession host filename totalSize)
      (fun _ => True) (fun _ => True) := by
  refine (Starting.onWorld record.uuid4).bind fun uploadId _ => ?_
  refine Keeps.bind (Keeps.of_modify fun workspace starting => ?_) fun _ _ =>
    Keeps.of_pure trivial
  refine ⟨?_, starting.quiet⟩
  intro key session present
  rw [Dict.get?_set] at present
  split at present
  · next same =>
      cases present
      refine ⟨same.symm, total, declared, le_rfl, ?_, allowed, ?_⟩
      · exact_mod_cast natural
      · intro position chunk present
        rw [Dict.get?_empty] at present
        cases present
  · exact starting.sessions key session present

/-- An upload of a size that is not negative is started within it. -/
theorem Starting.startUpload
    {world : World} {filename totalSize : Json} {absPath : Text}
    {size : FloatValue} {overwrite : Bool}
    (number : totalSize.number? = some size)
    (natural : (FloatValue.finite 0).le size = true) :
    Keeps (Starting record world)
      (RudpAgentStack.startUpload host filename absPath totalSize size
        overwrite)
      (fun _ => True) (fun _ => True) := by
  unfold RudpAgentStack.startUpload
  cases tooLarge : (FloatValue.finite maxFileSize).lt size with
  | true => exact Keeps.of_throw trivial
  | false =>
  obtain ⟨total, rfl, positive, allowed⟩ :=
    FloatValue.exists_finite natural tooLarge
  rw [if_neg Bool.false_ne_true]
  have looks : Keeps (Starting record world)
      (RudpAgentStack.onWorld (host.exists? absPath)) (fun _ => True)
      (fun _ => True) := fun workspace starting => ⟨trivial, starting⟩
  refine looks.bind fun present _ => ?_
  split
  · exact Keeps.of_throw trivial
  · refine (Starting.onWorld (record.makedirs _)).bind fun _ _ => ?_
    refine (Starting.onWorld (record.createEmpty _)).bind fun _ _ => ?_
    exact (Starting.createSession _ number positive allowed).bind
      fun _ _ => Keeps.of_pure trivial

/-- Applying a requested chunk that fits keeps what it should. -/
theorem applyChunk_kept
    (mode : UploadMode) (sessions : SessionsBounded before.sessions)
    {payload : Bytes} {uploadId offset chunkLen : Json} {chunkData : Bytes}
    (request : PutChunkRequest host payload uploadId offset chunkLen chunkData)
    (fits : ∀ key session total, uploadId = .string key →
      before.sessions.get? key = some session →
      session.totalSize.number? = some (.finite total) →
      ChunkFits mode session offset chunkData total) :
    Ends
      (UploadSessionManager.applyChunk host mode uploadId offset chunkData
        (fileWriter host guard))
      before
      (fun _ after => Kept record before after (.putChunk payload))
      (fun _ after => Kept record before after (.putChunk payload)) := by
  have refused : ∀ error,
      (UploadSessionManager.getSession host uploadId).run before =
        (.error error, before) →
      Ends
        (UploadSessionManager.applyChunk host mode uploadId offset chunkData
          (fileWriter host guard))
        before
        (fun _ after => Kept record before after (.putChunk payload))
        (fun _ after => Kept record before after (.putChunk payload)) := by
    intro error raised
    rw [Ends.of_run_error (UploadSessionManager.applyChunk_run_refused raised)]
    exact .of_unchanged sessions _
  rcases UploadSessionManager.getSession_cases host uploadId before with
    ⟨key, session, rfl, known⟩ | unhashable | ⟨noArray, noObject, unknown⟩
  · obtain ⟨_, total, bounded⟩ := sessions key session known
    have applying : Applying record before.world key total before := by
      refine ⟨sessions, fun other present => ?_,
        ⟨[], (List.append_nil _).symm, nofun⟩, fun _ => le_max_left _ _⟩
      cases known.symm.trans present
      exact bounded.declared
    exact (applyChunk_applying mode applying known
      (fits key session total rfl known bounded.declared)).mono
        (fun _ _ applying =>
          .of_applying request known bounded.declared applying)
        fun _ _ applying =>
          .of_applying request known bounded.declared applying
  · exact refused _ unhashable
  · exact refused _ (UploadSessionManager.getSession_run_unknown noArray
      noObject unknown)

/-- Step lemma: a request whose size is declared keeps what it should. -/
theorem upload_kept
    (mode : UploadMode) (sessions : SessionsBounded before.sessions)
    {request : FileRequest}
    (declares : Declares host guard mode before request) :
    Kept record before (request.perform host guard mode before) request := by
  cases request with
  | putMeta payload =>
    change Kept record before
      ((handlePutMeta host guard payload).run before).2 _
    rcases handlePutMeta_cases host guard payload with
      ⟨filename, absPath, totalSize, size, overwrite, request⟩ |
        ⟨error, _, refused⟩
    · rw [handlePutMeta_of_request request, rescue_run_snd]
      by_cases accepted :
          overwrite = true ∨ host.pathExists absPath before.world = false
      case neg =>
        simp only [not_or, Bool.not_eq_true, Bool.not_eq_false] at accepted
        obtain ⟨rfl, present⟩ := accepted
        rw [startUpload_run_present present]
        exact .of_unchanged sessions _
      have natural := declares _ _ _ _ _ request accepted
      have starting : Starting record before.world before :=
        ⟨sessions, rfl, fun _ => le_max_left _ _⟩
      have keeps : Keeps (Starting record before.world)
          (startUpload host filename absPath totalSize size overwrite)
          (fun _ => True) (fun _ => True) :=
        Starting.startUpload request.number natural
      have after := keeps.run starting
      exact .of_quiet after.sessions _ after.quiet
    · rw [refused]
      exact .of_unchanged sessions _
  | putChunk payload =>
    change Kept record before
      ((handlePutChunk host guard mode payload).run before).2 _
    rcases handlePutChunk_cases host guard mode payload with
      ⟨uploadId, offset, chunkLen, chunkData, request⟩ | ⟨error, _, refused⟩
    · rw [handlePutChunk_of_request request, rescue_run_snd]
      unfold applyRequested
      cases agreed : chunkLen.equalsInt chunkData.length with
      | false => exact .of_unchanged sessions _
      | true =>
      rw [if_neg (by decide)]
      have ends : Ends
          (UploadSessionManager.applyChunk host mode uploadId offset chunkData
            (fileWriter host guard))
          before
          (fun _ after => Kept record before after (.putChunk payload))
          (fun _ after => Kept record before after (.putChunk payload)) :=
        applyChunk_kept mode sessions request
          fun key session total same known declared =>
            declares key offset chunkLen chunkData session total
              (same ▸ request) agreed known declared
      unfold Ends at ends
      rw [Action.run_bind]
      generalize (UploadSessionManager.applyChunk host mode uploadId offset
        chunkData (fileWriter host guard)).run before = result at ends
      obtain ⟨error | ⟨isComplete, msg⟩, after⟩ := result <;> exact ends
    · rw [refused]
      exact .of_unchanged sessions _
  | append payload =>
    change Kept record before
      ((onWorld (handleAppend host guard payload)).run before).2 _
    rw [onWorld_run]
    rcases handleAppend_cases host guard payload with
      ⟨filename, absPath, binaryData, request⟩ | ⟨error, _, refused⟩
    · rw [handleAppend_of_request request, rescue_run_snd]
      refine .of_quiet ?_ _ ?_
      · exact sessions
      · exact (appendRequested_quiet absPath filename binaryData
          before.world).run
    · rw [refused]
      exact .of_unchanged sessions _

end Step

/-- The run declares the sizes of its uploads. -/
def RunDeclares
    (host : Host World) (guard : PolicyGuard) (mode : UploadMode)
    (world : World) (requests : List FileRequest) : Prop :=
  ∀ earlier request, earlier ++ [request] <+: requests →
    Declares host guard mode
      (FileRequest.reached host guard mode world earlier) request

theorem RunDeclares.nil {mode : UploadMode} {world : World} :
    RunDeclares host guard mode world [] :=
  fun _ _ isPrefix => absurd (List.prefix_nil.mp isPrefix) (by simp)

theorem RunDeclares.concat
    {mode : UploadMode} {world : World} {requests : List FileRequest}
    {request : FileRequest}
    (declared : RunDeclares host guard mode world requests)
    (next : Declares host guard mode
      (FileRequest.reached host guard mode world requests) request) :
    RunDeclares host guard mode world (requests ++ [request]) := by
  intro earlier other isPrefix
  rcases List.prefix_concat_iff.mp isPrefix with same | isEarlier
  · obtain ⟨rfl, rfl⟩ := List.append_singleton_inj.mp same
    exact next
  · exact declared earlier other isEarlier

/-- Run lemma: while sizes are declared, sessions stay within them, and files
within the largest size allowed. -/
theorem uploads_kept
    (record : WriteRecord host) {mode : UploadMode} {world : World}
    {requests : List FileRequest}
    (declared : RunDeclares host guard mode world requests) :
    SessionsBounded
        (FileRequest.reached host guard mode world requests).sessions ∧
      ∀ path, (record.length
        (FileRequest.reached host guard mode world requests).world
          path : Int) ≤ max (record.length world path : Int) maxFileSize := by
  induction requests using List.reverseRecOn with
  | nil =>
      refine ⟨fun key session present => ?_, fun _ => le_max_left _ _⟩
      change Dict.get? .empty key = _ at present
      rw [Dict.get?_empty] at present
      cases present
  | append_singleton requests request inductionHypothesis =>
      obtain ⟨bounded, lengths⟩ := inductionHypothesis
        fun earlier other isPrefix =>
          declared earlier other (isPrefix.trans (List.prefix_append _ _))
      unfold FileRequest.reached at *
      rw [FileRequest.performAll_append_singleton]
      have kept : Kept record _ _ request := upload_kept mode bounded
        (declared requests request (List.prefix_refl _))
      refine ⟨kept.sessions, fun path => (kept.lengths path).trans ?_⟩
      exact max_le (lengths path) (le_max_right _ _)

/-- Every write of an upload lies within the size declared for its session, no
session expects more than that, and no file grows beyond the largest size
allowed. -/
structure WithinDeclared
    (record : WriteRecord host) (guard : PolicyGuard) (mode : UploadMode)
    (world : World) (requests : List FileRequest) : Prop where
  writes : ∀ earlier request, earlier ++ [request] <+: requests →
    WritesWithin record (FileRequest.reached host guard mode world earlier)
      (FileRequest.reached host guard mode world (earlier ++ [request]))
      request
  expected : ∀ earlier, earlier <+: requests → ∀ key session,
    (FileRequest.reached host guard mode world earlier).sessions.get? key =
      some session →
    ∃ total : ℚ, session.totalSize.number? = some (.finite total) ∧
      session.nextExpectedOffset ≤ total ∧ total ≤ maxFileSize
  lengths : ∀ earlier, earlier <+: requests → ∀ path,
    (record.length (FileRequest.reached host guard mode world earlier).world
      path : Int) ≤ max (record.length world path : Int) maxFileSize

/-- A run of uploads and appends that declares the sizes of its uploads stays
within them. -/
theorem uploads_within_declared
    (record : WriteRecord host) (guard : PolicyGuard) (mode : UploadMode)
    (world : World) (requests : List FileRequest)
    (declared : RunDeclares host guard mode world requests) :
    WithinDeclared record guard mode world requests := by
  have kept : ∀ earlier, earlier <+: requests → SessionsBounded
      (FileRequest.reached host guard mode world earlier).sessions ∧ _ :=
    fun earlier isPrefix => uploads_kept record fun before request isEarlier =>
      declared before request (isEarlier.trans isPrefix)
  refine ⟨?_, ?_, fun earlier isPrefix => (kept earlier isPrefix).2⟩
  · intro earlier request isPrefix
    obtain ⟨sessions, _⟩ :=
      kept earlier ((List.prefix_append _ _).trans isPrefix)
    unfold FileRequest.reached at *
    rw [FileRequest.performAll_append_singleton]
    exact (upload_kept mode sessions (declared earlier request isPrefix)).writes
  · intro earlier isPrefix key session present
    obtain ⟨_, total, bounded⟩ := (kept earlier isPrefix).1 key session present
    exact ⟨total, bounded.declared, bounded.within, bounded.allowed⟩

/-! ## A sample upload -/

namespace Sample

open MemoryHost

/-- A host with a record of writes that reads the requests of the uploads. -/
def writingHost : Host (Logged Files FileWrite) :=
  RudpAgentStack.writingHost uploadHost

/-- Its record. -/
def recordedWrites : WriteRecord writingHost :=
  RudpAgentStack.recordedWrites _ _

/-- The sandbox before the uploads. -/
def emptyDisk : Logged Files FileWrite := { state := .empty }

theorem startRequest_declares
    (workspace : Workspace (Logged Files FileWrite)) :
    Declares writingHost policyGuard .strict workspace (startRequest 2) := by
  intro filename absPath totalSize size overwrite request _
  obtain ⟨entries, loaded, _, sized, _⟩ := request.read
  have expected : writingHost.loadBytes
      (encoded (uploadHost.dumpBytes (uploadData 2))) = .ok (uploadData 2) :=
    rfl
  have same := Except.ok.inj (expected.symm.trans loaded)
  cases same
  have number := request.number
  rw [← sized] at number
  cases number
  decide

/-- The started upload of a size. -/
def session (totalSize : Int) : UploadSession :=
  ⟨uploadId, "a.txt", .int totalSize, 0, .empty⟩

theorem startRequest_session :
    (FileRequest.reached writingHost policyGuard .strict emptyDisk
      [startRequest 2]).sessions = Dict.empty.set uploadId (session 2) :=
  rfl

theorem chunkRequest_declares :
    Declares writingHost policyGuard .strict
      (FileRequest.reached writingHost policyGuard .strict emptyDisk
        [startRequest 2])
      (chunkRequest 0 [0x61, 0x62]) := by
  intro key offset chunkLen data found total request _ known declared
  obtain ⟨entries, decoded, identified, placed, _⟩ := request.read
  have expected : mixedModeDecode writingHost
      (encoded (mixedModeEncode uploadHost (chunkData 0 2) [0x61, 0x62])) =
        .ok (chunkData 0 2, [0x61, 0x62]) := rfl
  have same := Except.ok.inj (expected.symm.trans decoded)
  cases same
  cases identified
  rw [startRequest_session, Dict.get?_set_self] at known
  cases known
  cases declared
  refine ⟨?_, nofun⟩
  rintro position isInteger rfl
  norm_num [session]

end Sample

theorem uploads_within_declared_sample :
    WithinDeclared Sample.recordedWrites Sample.policyGuard .strict
      Sample.emptyDisk
      [Sample.startRequest 2, Sample.chunkRequest 0 [0x61, 0x62]] :=
  uploads_within_declared Sample.recordedWrites Sample.policyGuard .strict
    Sample.emptyDisk _
    ((RunDeclares.nil.concat (Sample.startRequest_declares _)).concat
      Sample.chunkRequest_declares)

theorem uploads_not_within_declared :
    ¬ WithinDeclared Sample.recordedWrites Sample.policyGuard .strict
      Sample.emptyDisk
      [Sample.startRequest 1, Sample.chunkRequest 0 [0x61, 0x62]] := by
  intro within
  have session_eq : (FileRequest.reached Sample.writingHost Sample.policyGuard
      .strict Sample.emptyDisk
      [Sample.startRequest 1,
        Sample.chunkRequest 0 [0x61, 0x62]]).sessions.get? Sample.uploadId =
      some { Sample.session 1 with nextExpectedOffset := 2 } := rfl
  obtain ⟨total, declared, expected, _⟩ :=
    within.expected _ (List.prefix_refl _) _ _ session_eq
  cases declared
  exact absurd expected (by decide)

end RudpAgentStack

import RudpAgentStack.Agent.SessionWrites

/-!
# Writes that fail

A write may raise at the chunk of the call or at any chunk that waited for it.
A chunk in the buffer is taken out before it is written.  So a session loses
nothing exactly as long as the write that raises is the one of the call's own
chunk.
-/

namespace RudpAgentStack

open Foundation UploadSessionManager

variable {World : Type}

/-! ## Chunks that are awaited -/

/-- A chunk is in the buffer, at an offset. -/
def UploadSession.Buffers
    (session : UploadSession) (offset : Int) (data : Bytes) : Prop :=
  session.bufferedChunks.get? (.finite offset) = some data

/-- Some write succeeded at an offset. -/
def WrittenAt (writes : List WriterCall) (offset : Int) : Prop :=
  ∃ write ∈ writes, write.succeeded = true ∧ write.offset = .int offset

/-- The chunks that are awaited after a call, given those that were before, the
chunk the call brought and whether it was accepted. -/
def awaitedAfter
    (accepted : Prop) (writes : List WriterCall) (offset : Int) (data : Bytes)
    (awaited : Int → Bytes → Prop) : Int → Bytes → Prop :=
  fun other chunk => ¬ WrittenAt writes other ∧
    (accepted ∧ other = offset ∧ chunk = data ∨
      ¬ (accepted ∧ other = offset) ∧ awaited other chunk)

namespace ChunkCall

/-- The calls of the writer that a call makes. -/
def writes
    (host : Host World) (mode : UploadMode) (uploadId : Text)
    (call : ChunkCall World) (before : Workspace (Recorded World)) :
    List WriterCall :=
  ((call.apply host mode uploadId).run before).2.world.log.drop
    before.world.log.length

/-- The result is that of a call that took its chunk. -/
def Takes (result : Except PyError (Bool × Text)) : Prop :=
  ∃ complete message, result = .ok (complete, message) ∧
    message ≠ "Duplicate ignored"

/-- The call succeeds and does not find its chunk to be a duplicate. -/
def Accepted
    (host : Host World) (mode : UploadMode) (uploadId : Text)
    (call : ChunkCall World) (before : Workspace (Recorded World)) : Prop :=
  Takes ((call.apply host mode uploadId).run before).1

/-- Some write of the call raises. -/
def WriteFails
    (host : Host World) (mode : UploadMode) (uploadId : Text)
    (call : ChunkCall World) (before : Workspace (Recorded World)) : Prop :=
  ∃ write ∈ call.writes host mode uploadId before, write.succeeded = false

/-- Writing the chunk of the call itself raises. -/
def OwnWriteRaises
    (uploadId : Text) (call : ChunkCall World)
    (before : Workspace (Recorded World)) : Prop :=
  ∃ session error, before.sessions.get? uploadId = some session ∧
    call.written session.filename before.world.state = .error error

end ChunkCall

/-- The chunks that were accepted and are not written yet, after calls for a
new session.  A chunk takes the place of one accepted before at its offset. -/
inductive Awaited
    (host : Host World) (mode : UploadMode) (uploadId : Text)
    (start : Workspace (Recorded World)) :
    List (ChunkCall World) → Int → Bytes → Prop
  | step {calls : List (ChunkCall World)} {call : ChunkCall World}
      {offset : Int} {data : Bytes}
      (unwritten : ¬ WrittenAt (call.writes host mode uploadId
        (applyAll host mode uploadId calls start)) offset)
      (accepted : call.Accepted host mode uploadId
        (applyAll host mode uploadId calls start))
      (here : offset = call.offset) (same : data = call.data) :
      Awaited host mode uploadId start (calls ++ [call]) offset data
  | still {calls : List (ChunkCall World)} {call : ChunkCall World}
      {offset : Int} {data : Bytes}
      (unwritten : ¬ WrittenAt (call.writes host mode uploadId
        (applyAll host mode uploadId calls start)) offset)
      (notReplaced : ¬ (call.Accepted host mode uploadId
        (applyAll host mode uploadId calls start) ∧ offset = call.offset))
      (before : Awaited host mode uploadId start calls offset data) :
      Awaited host mode uploadId start (calls ++ [call]) offset data

/-- After the last call, whose write failed, every chunk that is awaited is in
the buffer, the next offset counts the successful writes, and the chunk can be
sent again with the effect that the call would have had. -/
structure LosesNothing
    (host : Host World) (mode : UploadMode) (uploadId : Text)
    (start : Workspace (Recorded World)) (earlier : List (ChunkCall World))
    (call : ChunkCall World) (session : UploadSession) : Prop where
  known : (applyAll host mode uploadId (earlier ++ [call])
    start).sessions.get? uploadId = some session
  buffered : ∀ offset data,
    Awaited host mode uploadId start (earlier ++ [call]) offset data →
      session.Buffers offset data
  counted : session.nextExpectedOffset =
    bytesWritten (applyAll host mode uploadId (earlier ++ [call])
      start).world.log
  resumable : ∀ writer, Unfailing writer →
    let resent : ChunkCall World := { call with writer }
    let late := (resent.apply host mode uploadId).run
      (applyAll host mode uploadId (earlier ++ [call]) start)
    let instead := (resent.apply host mode uploadId).run
      (applyAll host mode uploadId earlier start)
    late.1 = instead.1 ∧ late.2.sessions = instead.2.sessions

section Effects

variable {mode : UploadMode} {session : UploadSession}

@[simp] theorem not_writtenAt_nil (offset : Int) : ¬ WrittenAt [] offset := by
  rintro ⟨write, member, _⟩
  cases member

@[simp] theorem writtenAt_cons_writing
    (data : Bytes) (succeeded : Bool) (writes : List WriterCall)
    (offset : Int) :
    WrittenAt (session.writing data succeeded :: writes) offset ↔
      succeeded = true ∧ offset = session.nextExpectedOffset ∨
        WrittenAt writes offset := by
  unfold WrittenAt
  rw [List.exists_mem_cons_iff]
  apply or_congr_left
  apply and_congr_right
  intro _
  rw [UploadSession.writing, Json.int.injEq]
  exact eq_comm

@[simp] theorem buffers_popped (offset : Int) (data : Bytes) :
    session.popped.Buffers offset data ↔
      offset ≠ session.nextExpectedOffset ∧ session.Buffers offset data := by
  unfold UploadSession.Buffers
  rw [UploadSession.popped, Dict.get?_del]
  by_cases same : offset = session.nextExpectedOffset <;> simp [same]

@[simp] theorem buffers_keeping (offset other : Int) (data chunk : Bytes) :
    (session.keeping offset data).Buffers other chunk ↔
      other = offset ∧ chunk = data ∨
        other ≠ offset ∧ session.Buffers other chunk := by
  unfold UploadSession.Buffers
  rw [UploadSession.keeping, Dict.get?_set]
  by_cases same : other = offset
  · simp [same, eq_comm]
  · simp [same]

@[simp] theorem buffers_advanced (offset : Int) (chunk data : Bytes) :
    (session.advanced chunk).Buffers offset data ↔
      session.Buffers offset data := Iff.rfl

@[simp] theorem popped_nextExpectedOffset :
    session.popped.nextExpectedOffset = session.nextExpectedOffset := rfl

/-- The loop over the buffer writes a chunk or leaves it where it is, if no
write raises. -/
theorem Drains.buffers_iff
    {final : UploadSession} {calls : List WriterCall}
    (drains : Drains mode session calls (.ok ()) final)
    (offset : Int) (data : Bytes) :
    final.Buffers offset data ↔
      ¬ WrittenAt calls offset ∧ session.Buffers offset data := by
  generalize outcome : Except.ok () = result at drains
  induction drains with
  | stops => simp
  | fails => cases outcome
  | writes bufferable next rest inductionHypothesis =>
      rw [inductionHypothesis outcome, writtenAt_cons_writing,
        buffers_advanced, buffers_popped, popped_nextExpectedOffset]
      tauto

/-- The loop over the buffer loses the chunk whose write raises. -/
theorem Drains.buffers_of_raises
    {final : UploadSession} {calls : List WriterCall} {error : PyError}
    (drains : Drains mode session calls (.error error) final) :
    (∀ offset data, final.Buffers offset data →
      ¬ WrittenAt calls offset ∧ session.Buffers offset data) ∧
    ∃ offset data, session.Buffers offset data ∧
      ¬ WrittenAt calls offset ∧ ¬ final.Buffers offset data := by
  generalize outcome : Except.error error = result at drains
  induction drains with
  | stops => cases outcome
  | @fails session chunk error bufferable next =>
      refine ⟨fun offset data inBuffer => ?_,
        session.nextExpectedOffset, chunk, next, ?_, ?_⟩
      · rw [buffers_popped] at inBuffer
        exact ⟨by simp, inBuffer.2⟩
      · simp
      · rw [buffers_popped]
        exact fun inBuffer => inBuffer.1 rfl
  | @writes session final chunk calls result bufferable next rest
      inductionHypothesis =>
      obtain ⟨stays, offset, data, inBuffer, unwritten, lost⟩ :=
        inductionHypothesis outcome
      simp only [buffers_advanced, buffers_popped] at stays inBuffer
      simp only [writtenAt_cons_writing, popped_nextExpectedOffset]
      refine ⟨fun other chunk remains => ?_, offset, data, inBuffer.2, ?_,
        lost⟩
      · obtain ⟨notWritten, different, buffered⟩ := stays other chunk remains
        tauto
      · tauto

/-- If no write raises, all of them succeed. -/
theorem Drains.succeed
    {final : UploadSession} {calls : List WriterCall}
    (drains : Drains mode session calls (.ok ()) final) {write : WriterCall}
    (member : write ∈ calls) : write.succeeded = true := by
  generalize outcome : Except.ok () = result at drains
  induction drains with
  | stops => cases member
  | fails => cases outcome
  | writes bufferable next rest inductionHypothesis =>
      rcases List.mem_cons.mp member with rfl | member
      · rfl
      · exact inductionHypothesis member outcome

/-- Two loops over the buffer in which no write raises leave the same session.
-/
theorem Drains.unique
    {final other : UploadSession} {calls otherCalls : List WriterCall}
    (drains : Drains mode session calls (.ok ()) final)
    (drains' : Drains mode session otherCalls (.ok ()) other) :
    final = other := by
  generalize outcome : Except.ok () = result at drains
  induction drains generalizing otherCalls with
  | stops nothing =>
      cases drains' with
      | stops => rfl
      | writes bufferable next =>
          rcases nothing with strict | nothing
          · rw [strict] at bufferable
            cases bufferable
          · rw [nothing] at next
            cases next
  | fails => cases outcome
  | writes bufferable next rest inductionHypothesis =>
      cases drains' with
      | stops nothing =>
          rcases nothing with strict | nothing
          · rw [strict] at bufferable
            cases bufferable
          · rw [nothing] at next
            cases next
      | writes _ next' rest' =>
          rw [next, Option.some.injEq] at next'
          subst next'
          exact inductionHypothesis rest' outcome

theorem takes_answer (session : UploadSession) :
    ChunkCall.Takes (.ok session.answer) := by
  unfold UploadSession.answer
  split
  · exact ⟨_, _, rfl, by decide⟩
  · exact ⟨_, _, rfl, by decide⟩

theorem not_takes_error (error : PyError) :
    ¬ ChunkCall.Takes (.error error) := by
  rintro ⟨complete, message, returned, _⟩
  cases returned

theorem not_takes_duplicate (complete : Bool) :
    ¬ ChunkCall.Takes (.ok (complete, "Duplicate ignored")) := by
  rintro ⟨complete, message, returned, different⟩
  cases returned
  exact different rfl

theorem eq_of_mem_unlessComplete
    {session final : UploadSession} (remains : final ∈ session.unlessComplete) :
    final = session := by
  unfold UploadSession.unlessComplete at remains
  split at remains
  · cases remains
  · exact (Option.some.inj remains).symm

/-- No chunk in the buffer is at the next offset. -/
theorem UploadSession.Settled.ne_next
    {uploadId : Text} {log : List WriterCall}
    (settled : session.Settled mode uploadId log) {offset : Int} {data : Bytes}
    (inBuffer : session.Buffers offset data) :
    offset ≠ session.nextExpectedOffset := by
  rintro rfl
  have nothing := settled.notWaiting
  unfold UploadSession.waiting at nothing
  unfold UploadSession.Buffers at inBuffer
  rw [nothing] at inBuffer
  cases inBuffer

section Call

variable
  {uploadId : Text} {log : List WriterCall} {offset : Int} {data : Bytes}
  {written : Except PyError Unit} {calls : List WriterCall}
  {result : Except PyError (Bool × Text)} {left : Option UploadSession}

/-- The buffer holds what is awaited, unless a write fails after that of the
call's own chunk. -/
theorem ChunkEffect.buffers_iff
    (effect : ChunkEffect mode session offset data written calls result left)
    (settled : session.Settled mode uploadId log)
    (own : (∃ write ∈ calls, write.succeeded = false) →
      ∃ error, written = .error error)
    {final : UploadSession} (remains : final ∈ left)
    (other : Int) (chunk : Bytes) :
    final.Buffers other chunk ↔
      awaitedAfter (ChunkCall.Takes result) calls offset data session.Buffers
        other chunk := by
  unfold awaitedAfter
  cases effect with
  | duplicate =>
      obtain rfl := Option.some.inj remains
      simp [not_takes_duplicate]
  | overlapping | outOfOrder =>
      obtain rfl := Option.some.inj remains
      simp [not_takes_error]
  | kept =>
      obtain rfl := eq_of_mem_unlessComplete remains
      simp [takes_answer]
  | refused =>
      obtain rfl := Option.some.inj remains
      simp [not_takes_error]
  | applied next returns drains =>
      obtain rfl := eq_of_mem_unlessComplete remains
      rw [drains.buffers_iff, buffers_advanced, writtenAt_cons_writing]
      simp only [takes_answer, true_and, next]
      have different : session.Buffers other chunk →
        other ≠ session.nextExpectedOffset := settled.ne_next
      tauto
  | interrupted next returns drains =>
      obtain ⟨write, member, failed⟩ := drains.exists_failed
      obtain ⟨error, raises⟩ :=
        own ⟨write, List.mem_cons_of_mem _ member, failed⟩
      rw [returns] at raises
      cases raises

/-- A write that fails after that of the call's own chunk loses a chunk. -/
theorem ChunkEffect.buffers_of_raises
    (effect : ChunkEffect mode session offset data written calls result left)
    (settled : session.Settled mode uploadId log)
    (fails : ∃ write ∈ calls, write.succeeded = false)
    (returns : written = .ok ()) :
    ∃ final, left = some final ∧
      (∀ other chunk, final.Buffers other chunk →
        awaitedAfter (ChunkCall.Takes result) calls offset data
          session.Buffers other chunk) ∧
      ∃ other chunk,
        awaitedAfter (ChunkCall.Takes result) calls offset data
          session.Buffers other chunk ∧
        ¬ final.Buffers other chunk := by
  unfold awaitedAfter
  cases effect with
  | duplicate | overlapping | outOfOrder | kept =>
      obtain ⟨write, member, _⟩ := fails
      cases member
  | refused next raises =>
      rw [returns] at raises
      cases raises
  | applied next _ drains =>
      obtain ⟨write, member, failed⟩ := fails
      rcases List.mem_cons.mp member with rfl | member
      · cases failed
      · rw [drains.succeed member] at failed
        cases failed
  | @interrupted final calls error next _ drains =>
      obtain ⟨stays, other, chunk, inBuffer, unwritten, lost⟩ :=
        drains.buffers_of_raises
      rw [buffers_advanced] at inBuffer
      have different := settled.ne_next inBuffer
      simp only [writtenAt_cons_writing, not_takes_error, false_and, not_false_eq_true,
        true_and, false_or]
      refine ⟨final, rfl, fun place piece remains => ?_, other, chunk, ?_, lost⟩
      · obtain ⟨notWritten, buffered⟩ := stays place piece remains
        have := settled.ne_next buffered
        rw [buffers_advanced] at buffered
        tauto
      · tauto

/-- What is in the buffer is awaited. -/
theorem ChunkEffect.awaited_of_buffers
    (effect : ChunkEffect mode session offset data written calls result left)
    (settled : session.Settled mode uploadId log)
    {final : UploadSession} (remains : final ∈ left)
    {other : Int} {chunk : Bytes} (inBuffer : final.Buffers other chunk) :
    awaitedAfter (ChunkCall.Takes result) calls offset data session.Buffers
      other chunk := by
  cases written with
  | error error =>
      exact (effect.buffers_iff settled (fun _ => ⟨error, rfl⟩) remains other
        chunk).mp inBuffer
  | ok =>
      by_cases fails : ∃ write ∈ calls, write.succeeded = false
      · obtain ⟨_, same, stays, _⟩ :=
          effect.buffers_of_raises settled fails rfl
        obtain rfl := Option.some.inj (same.symm.trans remains)
        exact stays other chunk inBuffer
      · exact (effect.buffers_iff settled (absurd · fails) remains other
          chunk).mp inBuffer

end Call

end Effects

/-! ## Runs -/

section Runs

variable
  {host : Host World} {mode : UploadMode} {uploadId filename : Text}
  {totalSize : Json} {start : Workspace (Recorded World)}

/-- What is awaited after one more call. -/
theorem awaited_append_singleton
    (calls : List (ChunkCall World)) (call : ChunkCall World)
    (offset : Int) (data : Bytes) :
    Awaited host mode uploadId start (calls ++ [call]) offset data ↔
      awaitedAfter
        (call.Accepted host mode uploadId
          (applyAll host mode uploadId calls start))
        (call.writes host mode uploadId
          (applyAll host mode uploadId calls start))
        call.offset call.data (Awaited host mode uploadId start calls)
        offset data := by
  constructor
  · intro awaited
    generalize parts : calls ++ [call] = all at awaited
    cases awaited with
    | step unwritten accepted here same =>
        obtain ⟨rfl, last⟩ := List.append_inj' parts rfl
        obtain rfl := List.singleton_inj.mp last
        exact ⟨unwritten, .inl ⟨accepted, here, same⟩⟩
    | still unwritten notReplaced before =>
        obtain ⟨rfl, last⟩ := List.append_inj' parts rfl
        obtain rfl := List.singleton_inj.mp last
        exact ⟨unwritten, .inr ⟨notReplaced, before⟩⟩
  · rintro ⟨unwritten, ⟨accepted, here, same⟩ | ⟨notReplaced, before⟩⟩
    · exact .step unwritten accepted here same
    · exact .still unwritten notReplaced before

theorem awaitedAfter_mono
    {accepted : Prop} {writes : List WriterCall} {offset : Int} {data : Bytes}
    {first second : Int → Bytes → Prop}
    (within : ∀ other chunk, first other chunk → second other chunk)
    {other : Int} {chunk : Bytes}
    (awaited : awaitedAfter accepted writes offset data first other chunk) :
    awaitedAfter accepted writes offset data second other chunk := by
  obtain ⟨unwritten, brought | ⟨notReplaced, before⟩⟩ := awaited
  · exact ⟨unwritten, .inl brought⟩
  · exact ⟨unwritten, .inr ⟨notReplaced, within other chunk before⟩⟩

/-- The call reads and writes as its effect says. -/
theorem ChunkCall.observed
    {call : ChunkCall World} {before after : Workspace (Recorded World)}
    {calls : List WriterCall} {result : Except PyError (Bool × Text)}
    {left : Option UploadSession}
    (ran : (call.apply host mode uploadId).run before = (result, after))
    (leaves : Leaves uploadId before after calls left) :
    call.writes host mode uploadId before = calls ∧
      (call.Accepted host mode uploadId before ↔ Takes result) := by
  unfold writes Accepted
  rw [ran, leaves.log, List.drop_left]
  exact ⟨rfl, Iff.rfl⟩

theorem ChunkCall.ownWriteRaises_iff
    {call : ChunkCall World} {before : Workspace (Recorded World)}
    {session : UploadSession}
    (known : before.sessions.get? uploadId = some session) :
    call.OwnWriteRaises uploadId before ↔
      ∃ error, call.written session.filename before.world.state =
        .error error := by
  simp [OwnWriteRaises, known]

/-- A last call after which there is a session has found one, and has done to
it what its effect says. -/
theorem exists_effect_of_known
    (created : Created uploadId filename totalSize start)
    {calls : List (ChunkCall World)} {last : ChunkCall World}
    {session : UploadSession}
    (known : (applyAll host mode uploadId (calls ++ [last])
      start).sessions.get? uploadId = some session) :
    ∃ before writes result,
      (applyAll host mode uploadId calls start).sessions.get? uploadId =
        some before ∧
      before.Settled mode uploadId
        (applyAll host mode uploadId calls start).world.log ∧
      ChunkEffect mode before last.offset last.data
        (last.written before.filename
          (applyAll host mode uploadId calls start).world.state)
        writes result (some session) ∧
      last.writes host mode uploadId
        (applyAll host mode uploadId calls start) = writes ∧
      (last.Accepted host mode uploadId
        (applyAll host mode uploadId calls start) ↔
          ChunkCall.Takes result) := by
  have accounted := accounted_applyAll host mode created calls
  rw [applyAll_append_singleton] at known
  rcases accounted.call_cases host last with
    ⟨unknown, ran⟩ |
    ⟨before, writes, result, left, after, knownBefore, ran, effect, leaves, _⟩
  · rw [ran, unknown] at known
    cases known
  · rw [ran, leaves.known] at known
    subst known
    exact ⟨before, writes, result, knownBefore,
      accounted.settled before knownBefore, effect,
      ChunkCall.observed ran leaves⟩

/-- After any calls of a new session, what is in its buffer is awaited. -/
theorem awaited_of_buffers
    (created : Created uploadId filename totalSize start)
    {calls : List (ChunkCall World)} {session : UploadSession}
    (known : (applyAll host mode uploadId calls start).sessions.get? uploadId =
      some session)
    {offset : Int} {data : Bytes} (inBuffer : session.Buffers offset data) :
    Awaited host mode uploadId start calls offset data := by
  induction calls using List.reverseRecOn generalizing session offset data with
  | nil =>
      rw [applyAll_nil, created.known] at known
      obtain rfl := Option.some.inj known
      cases inBuffer
  | append_singleton calls last inductionHypothesis =>
      obtain ⟨before, writes, result, knownBefore, settled, effect, made,
        taken⟩ := exists_effect_of_known created known
      rw [awaited_append_singleton, made, propext taken]
      refine awaitedAfter_mono
        (fun other chunk => inductionHypothesis knownBefore) ?_
      exact effect.awaited_of_buffers settled rfl inBuffer

/-- A write fails in a call only if the call's own does. -/
def OnlyOwnWritesFail
    (host : Host World) (mode : UploadMode) (uploadId : Text)
    (start : Workspace (Recorded World)) (calls : List (ChunkCall World)) :
    Prop :=
  ∀ earlier call later, calls = earlier ++ call :: later →
    call.WriteFails host mode uploadId
      (applyAll host mode uploadId earlier start) →
    call.OwnWriteRaises uploadId (applyAll host mode uploadId earlier start)

theorem OnlyOwnWritesFail.before
    {earlier later : List (ChunkCall World)}
    (own : OnlyOwnWritesFail host mode uploadId start (earlier ++ later)) :
    OnlyOwnWritesFail host mode uploadId start earlier := by
  intro first call second parts
  apply own first call (second ++ later)
  rw [parts, List.append_assoc, List.cons_append]

/-- If only the own writes of calls fail, what is awaited is in the buffer. -/
theorem buffers_of_awaited
    (created : Created uploadId filename totalSize start)
    {calls : List (ChunkCall World)}
    (own : OnlyOwnWritesFail host mode uploadId start calls)
    {session : UploadSession}
    (known : (applyAll host mode uploadId calls start).sessions.get? uploadId =
      some session)
    {offset : Int} {data : Bytes}
    (awaited : Awaited host mode uploadId start calls offset data) :
    session.Buffers offset data := by
  induction calls using List.reverseRecOn generalizing session offset data with
  | nil =>
      generalize parts : [] = all at awaited
      cases awaited <;> simp at parts
  | append_singleton calls last inductionHypothesis =>
      obtain ⟨before, writes, result, knownBefore, settled, effect, made,
        taken⟩ := exists_effect_of_known created known
      rw [awaited_append_singleton, made, propext taken] at awaited
      have ownWrite : (∃ write ∈ writes, write.succeeded = false) →
          ∃ error, last.written before.filename
            (applyAll host mode uploadId calls start).world.state =
              .error error := by
        have ownLast := own calls last [] rfl
        unfold ChunkCall.WriteFails at ownLast
        rw [made, ChunkCall.ownWriteRaises_iff knownBefore] at ownLast
        exact ownLast
      rw [effect.buffers_iff settled ownWrite rfl]
      exact awaitedAfter_mono
        (fun other chunk => inductionHypothesis own.before knownBefore) awaited

/-- The next chunk, with a writer that does not raise. -/
theorem ChunkCall.apply_unfailing
    (host : Host World) (mode : UploadMode) {call : ChunkCall World}
    {before : Workspace (Recorded World)}
    {session : UploadSession}
    (known : before.sessions.get? uploadId = some session)
    (named : session.uploadId = uploadId)
    (next : call.offset = session.nextExpectedOffset)
    (unfailing : Unfailing call.writer) :
    ∃ calls final after,
      (call.apply host mode uploadId).run before = (.ok final.answer, after) ∧
      Drains mode (session.advanced call.data) calls (.ok ()) final ∧
      after.sessions = before.sessions.assign uploadId final.unlessComplete := by
  obtain ⟨calls, result, left, after, ran, effect, leaves, succeed⟩ :=
    call.apply_effect host mode known named
  cases effect with
  | duplicate early | overlapping _ early => omega
  | outOfOrder _ _ later | kept _ later => omega
  | refused _ raises =>
      rw [written, unfailing] at raises
      cases raises
  | applied _ _ drains => exact ⟨_, _, after, ran, drains, leaves.sessions⟩
  | interrupted _ _ drains =>
      obtain ⟨write, member, failed⟩ := drains.exists_failed
      rw [succeed unfailing write (List.mem_cons_of_mem _ member)] at failed
      cases failed

/-- A call whose own write raises leaves the sessions as they were. -/
theorem ChunkCall.refused_of_ownWriteRaises
    {call : ChunkCall World} {before : Workspace (Recorded World)}
    (accounted : Accounted mode uploadId before)
    (fails : call.WriteFails host mode uploadId before)
    (raises : call.OwnWriteRaises uploadId before) :
    ∃ session, before.sessions.get? uploadId = some session ∧
      session.uploadId = uploadId ∧
      call.offset = session.nextExpectedOffset ∧
      ((call.apply host mode uploadId).run before).2.sessions =
        before.sessions := by
  obtain ⟨session, error, known, raises⟩ := raises
  have named := (accounted.settled session known).named
  refine ⟨session, known, named, ?_⟩
  obtain ⟨calls, result, left, after, ran, effect, leaves, _⟩ :=
    call.apply_effect host mode known named
  unfold WriteFails at fails
  rw [(observed ran leaves).1] at fails
  cases effect with
  | duplicate | overlapping | outOfOrder | kept =>
      obtain ⟨write, member, _⟩ := fails
      cases member
  | refused next =>
      refine ⟨next, ?_⟩
      rw [ran, leaves.sessions, ← known, Dict.assign_get?]
  | applied _ returns | interrupted _ returns =>
      rw [raises] at returns
      cases returns

/-- In any calls of a new session, a call in which a write fails loses nothing
if and only if writing the call's own chunk fails. -/
theorem failed_writes_lose_nothing_iff
    (host : Host World) (mode : UploadMode)
    (created : Created uploadId filename totalSize start)
    (calls : List (ChunkCall World)) :
    (∀ earlier call later, calls = earlier ++ call :: later →
      call.WriteFails host mode uploadId
        (applyAll host mode uploadId earlier start) →
      ∃ session,
        LosesNothing host mode uploadId start earlier call session) ↔
      OnlyOwnWritesFail host mode uploadId start calls := by
  constructor
  · intro safe earlier call later parts fails
    obtain ⟨session, nothing⟩ := safe earlier call later parts fails
    obtain ⟨before, writes, result, known, settled, effect, made, taken⟩ :=
      exists_effect_of_known created nothing.known
    rw [ChunkCall.ownWriteRaises_iff known]
    unfold ChunkCall.WriteFails at fails
    rw [made] at fails
    cases written : call.written before.filename
        (applyAll host mode uploadId earlier start).world.state with
    | error error => exact ⟨error, rfl⟩
    | ok =>
        obtain ⟨final, same, _, offset, data, awaited, lost⟩ :=
          effect.buffers_of_raises settled fails written
        obtain rfl := Option.some.inj same
        refine absurd (nothing.buffered offset data ?_) lost
        rw [awaited_append_singleton, made, propext taken]
        exact awaitedAfter_mono
          (fun other chunk => awaited_of_buffers created known) awaited
  · intro own earlier call later parts fails
    have accounted := accounted_applyAll host mode created earlier
    obtain ⟨session, known, named, next, unchanged⟩ :=
      ChunkCall.refused_of_ownWriteRaises accounted fails
        (own earlier call later parts fails)
    have knownAfter : (applyAll host mode uploadId (earlier ++ [call])
        start).sessions.get? uploadId = some session := by
      rw [applyAll_append_singleton, unchanged, known]
    refine ⟨session, knownAfter, fun offset data awaited => ?_, ?_, ?_⟩
    · rw [parts, List.append_cons] at own
      exact buffers_of_awaited created own.before knownAfter awaited
    · exact ((accounted_applyAll host mode created _).settled session
        knownAfter).counted
    · intro writer unfailing resent late instead
      obtain ⟨_, final, after, ranLate, drains, sessions⟩ :=
        resent.apply_unfailing host mode knownAfter named
          next unfailing
      obtain ⟨_, final', after', ranInstead, drains', sessions'⟩ :=
        resent.apply_unfailing host mode known named
          next unfailing
      obtain rfl := drains.unique drains'
      have same : (applyAll host mode uploadId (earlier ++ [call])
          start).sessions =
          (applyAll host mode uploadId earlier start).sessions := by
        rw [applyAll_append_singleton, unchanged]
      simp only [late, instead, ranLate, ranInstead, sessions, sessions', same,
        and_self]

end Runs

/-! ## A full disk -/

namespace Sample

open MemoryHost

/-- A writer that can only write at the start of the file. -/
def fullDisk : FileWriter Files := fun _ offset _ =>
  match offset with
  | .int 0 => pure ()
  | _ => throw ⟨.osError, "[Errno 28] No space left on device"⟩

/-- The second part of the sample file, which is kept for later. -/
def laterPart : ChunkCall Files := ⟨2, [0x6C, 0x6C, 0x6F], discard⟩

/-- The first part, when the disk becomes full. -/
def interruptedPart : ChunkCall Files := ⟨0, [0x48, 0x65], fullDisk⟩

theorem failed_writes_lose_nothing_iff_fullDisk :
    (∀ earlier call later, [laterPart, interruptedPart] =
        earlier ++ call :: later →
      call.WriteFails (memoryHost [] []) .bufferable "u"
        (applyAll (memoryHost [] []) .bufferable "u" earlier newSession) →
      ∃ session, LosesNothing (memoryHost [] []) .bufferable "u" newSession
        earlier call session) ↔
      OnlyOwnWritesFail (memoryHost [] []) .bufferable "u" newSession
        [laterPart, interruptedPart] :=
  failed_writes_lose_nothing_iff (memoryHost [] []) .bufferable
    newSession_created [laterPart, interruptedPart]

/-- A chunk that was accepted is lost when its write fails. -/
theorem acceptedChunk_lost :
    interruptedPart.WriteFails (memoryHost [] []) .bufferable "u"
      (applyAll (memoryHost [] []) .bufferable "u" [laterPart] newSession) ∧
    ∀ session, ¬ LosesNothing (memoryHost [] []) .bufferable "u" newSession
      [laterPart] interruptedPart session := by
  have kept : laterPart.writes (memoryHost [] []) .bufferable "u"
      newSession = [] := rfl
  have made : interruptedPart.writes (memoryHost [] []) .bufferable "u"
      (applyAll (memoryHost [] []) .bufferable "u" [laterPart] newSession) =
    [⟨"a.txt", .int 0, [0x48, 0x65], true⟩,
      ⟨"a.txt", .int 2, [0x6C, 0x6C, 0x6F], false⟩] := rfl
  have fails : interruptedPart.WriteFails (memoryHost [] []) .bufferable "u"
      (applyAll (memoryHost [] []) .bufferable "u" [laterPart] newSession) := by
    unfold ChunkCall.WriteFails
    rw [made]
    exact ⟨_, List.mem_cons_of_mem _ (List.mem_singleton_self _), rfl⟩
  refine ⟨fails, fun session nothing => ?_⟩
  have accepted : laterPart.Accepted (memoryHost [] []) .bufferable "u"
      newSession := ⟨false, "Chunk Applied", rfl, by decide⟩
  have refused : ¬ interruptedPart.Accepted (memoryHost [] []) .bufferable "u"
      (applyAll (memoryHost [] []) .bufferable "u" [laterPart] newSession) :=
    not_takes_error _
  have before : Awaited (memoryHost [] []) .bufferable "u" newSession
      ([] ++ [laterPart]) 2 [0x6C, 0x6C, 0x6F] := by
    refine .step ?_ accepted rfl rfl
    rw [applyAll_nil, kept]
    exact not_writtenAt_nil 2
  have awaited : Awaited (memoryHost [] []) .bufferable "u" newSession
      ([laterPart] ++ [interruptedPart]) 2 [0x6C, 0x6C, 0x6F] := by
    refine .still (fun written => ?_) (fun taken => refused taken.1) before
    rw [made] at written
    simp [WrittenAt] at written
  have inBuffer := nothing.buffered 2 _ awaited
  have known := nothing.known
  have gone : ((applyAll (memoryHost [] []) .bufferable "u"
      ([laterPart] ++ [interruptedPart]) newSession).sessions.get? "u").map
        (·.bufferedChunks.get? (.finite 2)) = some none := rfl
  rw [known, Option.map_some, Option.some.injEq] at gone
  exact absurd (inBuffer.symm.trans gone) nofun

end Sample

end RudpAgentStack

import RudpAgentStack.Agent.SessionWrites

/-!
# Chunks that are sent again

A chunk that was applied may be sent again when its answer is lost.  As long as
the session is there this does no harm, with the exception of chunks that are
written a second time or that no longer fit.  Once the upload is complete, the
session is gone and every chunk is refused.
-/

namespace RudpAgentStack

open Foundation UploadSessionManager

variable {World : Type}

/-- The chunk of a call was applied: the call returned, or it wrote the chunk
and raised later. -/
def ChunkCall.Applied
    (host : Host World) (mode : UploadMode) (uploadId : Text)
    (call : ChunkCall World) (before : Workspace (Recorded World)) : Prop :=
  (∃ answer, ((call.apply host mode uploadId).run before).1 = .ok answer) ∨
  ∃ filename,
    before.world.log ++ [⟨filename, .int call.offset, call.data, true⟩] <+:
      ((call.apply host mode uploadId).run before).2.world.log

/-- The upload has reached its total size: a session that is gone has. -/
def reachedTotalSize
    (uploadId : Text) (workspace : Workspace (Recorded World)) : Bool :=
  ((workspace.sessions.get? uploadId).map (·.complete)).getD true

/-- A call returns with the status that the upload has reached, writes nothing
and changes no offset. -/
structure Harmless
    (host : Host World) (mode : UploadMode) (uploadId : Text)
    (call : ChunkCall World) (before : Workspace (Recorded World)) : Prop where
  answered : ∃ message, ((call.apply host mode uploadId).run before).1 =
    .ok (reachedTotalSize uploadId before, message)
  unwritten : ((call.apply host mode uploadId).run before).2.world =
    before.world
  offsets : ∀ other,
    (((call.apply host mode uploadId).run before).2.sessions.get? other).map
        (·.nextExpectedOffset) =
      (before.sessions.get? other).map (·.nextExpectedOffset)

section Resent

variable
  {host : Host World} {mode : UploadMode} {uploadId : Text}
  {before : Workspace (Recorded World)}

/-- When a call does no harm, whether or not its chunk was applied. -/
theorem Accounted.harmless_iff
    (accounted : Accounted mode uploadId before) (call : ChunkCall World) :
    Harmless host mode uploadId call before ↔
      ∃ session, before.sessions.get? uploadId = some session ∧
        (call.offset < session.nextExpectedOffset ∧
            call.offset + call.data.length ≤ session.nextExpectedOffset ∨
          mode = .bufferable ∧ session.nextExpectedOffset < call.offset ∧
            session.complete = false) := by
  rcases accounted.call_cases host call with
    ⟨unknown, ran⟩ |
    ⟨session, calls, result, left, after, known, ran, effect, leaves, _⟩
  · constructor
    · rintro ⟨⟨message, answered⟩, _, _⟩
      rw [ran] at answered
      cases answered
    · rintro ⟨session, known, _⟩
      rw [unknown] at known
      cases known
  have reached : reachedTotalSize uploadId before = session.complete := by
    simp [reachedTotalSize, known]
  have harmless_iff : Harmless host mode uploadId call before ↔
      (∃ message, result = .ok (session.complete, message)) ∧
      after.world = before.world ∧
      left.map (·.nextExpectedOffset) = some session.nextExpectedOffset := by
    constructor
    · rintro ⟨answered, unwritten, offsets⟩
      have same := offsets uploadId
      simp only [ran, reached, leaves.known, known] at answered unwritten same
      exact ⟨answered, unwritten, same⟩
    · rintro ⟨answered, unwritten, same⟩
      refine ⟨?_, ?_, fun other => ?_⟩
      · rw [ran, reached]
        exact answered
      · rw [ran]
        exact unwritten
      · rw [ran, leaves.sessions, Dict.get?_assign]
        split
        · next isSession =>
            rw [isSession, known, same]
            rfl
        · rfl
  have written {write : WriterCall} {rest : List WriterCall}
      (some_written : calls = write :: rest) : after.world ≠ before.world := by
    intro same
    have length := congrArg (fun world => world.log.length) same
    simp [leaves.log, some_written] at length
  simp only [harmless_iff, known, Option.some.injEq, exists_eq_left']
  cases effect with
  | duplicate early within =>
      refine iff_of_true ⟨⟨_, rfl⟩, leaves.unwritten rfl, rfl⟩ ?_
      exact .inl ⟨early, within⟩
  | overlapping message early beyond =>
      refine iff_of_false (fun harmless => ?_) ?_
      · obtain ⟨⟨_, returned⟩, _⟩ := harmless
        cases returned
      · omega
  | outOfOrder message strict later =>
      refine iff_of_false (fun harmless => ?_) ?_
      · obtain ⟨⟨_, returned⟩, _⟩ := harmless
        cases returned
      · rintro (⟨early, _⟩ | ⟨bufferable, _⟩)
        · omega
        · rw [strict] at bufferable
          cases bufferable
  | kept bufferable later =>
      have sameStatus :
          (session.keeping call.offset call.data).complete =
            session.complete := rfl
      cases done : session.complete with
      | true =>
          refine iff_of_false (fun harmless => ?_) ?_
          · have gone := harmless.2.2
            rw [UploadSession.unlessComplete, sameStatus, done] at gone
            cases gone
          · rintro (⟨early, _⟩ | ⟨_, _, incomplete⟩)
            · omega
            · cases incomplete
      | false =>
          refine iff_of_true
            ⟨⟨"Chunk Applied", ?_⟩, leaves.unwritten rfl, ?_⟩
            (.inr ⟨bufferable, later, rfl⟩)
          · rw [UploadSession.answer, sameStatus, done]
            rfl
          · rw [UploadSession.unlessComplete, sameStatus, done]
            rfl
  | refused next | applied next | interrupted next =>
      refine iff_of_false (fun harmless => written rfl harmless.2.1) ?_
      omega

/-- In strict mode an applied chunk is written, or was before. -/
theorem Accounted.le_of_applied
    (accounted : Accounted .strict uploadId before) {call : ChunkCall World}
    (applied : call.Applied host .strict uploadId before) :
    call.offset + call.data.length ≤
      bytesWritten ((call.apply host .strict uploadId).run
        before).2.world.log := by
  have unwritten {write : WriterCall} :
      ¬ before.world.log ++ [write] <+: before.world.log := by
    intro isPrefix
    have bound := isPrefix.length_le
    rw [List.length_append, List.length_singleton] at bound
    omega
  unfold ChunkCall.Applied at applied
  rcases accounted.call_cases host call with
    ⟨_, ran⟩ |
    ⟨session, calls, result, left, after, known, ran, effect, leaves, _⟩
  · rw [ran] at applied
    rcases applied with ⟨_, returned⟩ | ⟨_, written⟩
    · cases returned
    · exact absurd written unwritten
  have counted := (accounted.settled session known).counted
  rw [ran, leaves.log] at applied
  rw [ran, leaves.log, bytesWritten_append, Nat.cast_add, ← counted]
  cases effect with
  | duplicate early within => simpa using within
  | overlapping | outOfOrder =>
      rcases applied with ⟨_, returned⟩ | ⟨_, written⟩
      · cases returned
      · rw [List.append_nil] at written
        exact absurd written unwritten
  | kept bufferable => cases bufferable
  | refused next raises =>
      rcases applied with ⟨_, returned⟩ | ⟨filename, written⟩
      · cases returned
      · have same := (List.prefix_append_right_inj _).mp written
        rw [List.cons_prefix_cons] at same
        have succeeded := congrArg WriterCall.succeeded same.1
        cases succeeded
  | applied next | interrupted next =>
      rw [next]
      simp

/-- Calls only add to the record. -/
theorem Accounted.log_extends
    (accounted : Accounted mode uploadId before) (host : Host World)
    (calls : List (ChunkCall World)) :
    before.world.log <+:
      (applyAll host mode uploadId calls before).world.log := by
  induction calls using List.reverseRecOn with
  | nil => exact List.prefix_rfl
  | append_singleton calls last inductionHypothesis =>
      refine inductionHypothesis.trans ?_
      rw [applyAll_append_singleton]
      rcases (accounted.after host calls).call_cases host last with
        ⟨_, ran⟩ | ⟨_, writes, _, _, _, _, ran, _, leaves, _⟩
      · rw [ran]
      · rw [ran, leaves.log]
        apply List.prefix_append

theorem bytesWritten_le_of_prefix
    {first second : List WriterCall} (isPrefix : first <+: second) :
    bytesWritten first ≤ bytesWritten second := by
  obtain ⟨rest, rfl⟩ := isPrefix
  rw [bytesWritten_append]
  exact Nat.le_add_right _ _

/-- After any calls of a new session, a chunk that was applied does no harm when
it is sent again if and only if the session is still there and the chunk either
begins before the next offset and ends there or before, or begins after it while
the upload is not complete. -/
theorem resend_harmless_iff
    {filename : Text} {totalSize : Json} {start : Workspace (Recorded World)}
    (host : Host World) (mode : UploadMode)
    (created : Created uploadId filename totalSize start)
    {earlier later : List (ChunkCall World)} {call : ChunkCall World}
    (applied : call.Applied host mode uploadId
      (applyAll host mode uploadId earlier start))
    (writer : FileWriter World) :
    Harmless host mode uploadId { call with writer }
        (applyAll host mode uploadId (earlier ++ call :: later) start) ↔
      ∃ session,
        (applyAll host mode uploadId (earlier ++ call :: later)
          start).sessions.get? uploadId = some session ∧
        (call.offset < session.nextExpectedOffset ∧
            call.offset + call.data.length ≤ session.nextExpectedOffset ∨
          session.nextExpectedOffset < call.offset ∧
            session.complete = false) := by
  have accounted :=
    accounted_applyAll host mode created (earlier ++ call :: later)
  rw [accounted.harmless_iff]
  apply exists_congr
  intro session
  apply and_congr_right
  intro known
  cases mode with
  | bufferable => simp
  | strict =>
      have before := accounted_applyAll host .strict created earlier
      have written := before.le_of_applied applied
      have grown := bytesWritten_le_of_prefix
        ((before.next host call).log_extends host later)
      have counted := (accounted.settled session known).counted
      rw [applyAll_append, applyAll_cons] at counted
      constructor
      · rintro (early | ⟨bufferable, _⟩)
        · exact .inl early
        · cases bufferable
      · rintro (early | ⟨after, _⟩)
        · exact .inl early
        · omega

end Resent

/-! ## A chunk that completed its upload -/

namespace Sample

open MemoryHost

/-- The only chunk of the sample upload. -/
def wholeFile : ChunkCall Files := ⟨0, [0x48, 0x65, 0x6C, 0x6C, 0x6F], discard⟩

/-- A first part of the sample upload. -/
def firstPart : ChunkCall Files := ⟨0, [0x48, 0x65], discard⟩

/-- The only chunk of an upload is applied, and is refused when it is sent
again. -/
theorem completingChunk_refused :
    wholeFile.Applied (memoryHost [] []) .strict "u" newSession ∧
    ¬ Harmless (memoryHost [] []) .strict "u" wholeFile
      (applyAll (memoryHost [] []) .strict "u" [wholeFile] newSession) := by
  refine ⟨.inl ⟨(true, "Upload Complete"), rfl⟩, fun harmless => ?_⟩
  obtain ⟨message, answered⟩ := harmless.answered
  have refused : ((wholeFile.apply (memoryHost [] []) .strict "u").run
      (applyAll (memoryHost [] []) .strict "u" [wholeFile] newSession)).1 =
    .error ⟨.valueError, "Session u not found"⟩ := rfl
  rw [refused] at answered
  cases answered

/-- A first part that is sent again. -/
theorem resend_harmless_iff_firstPart :
    Harmless (memoryHost [] []) .strict "u"
        { firstPart with writer := discard }
        (applyAll (memoryHost [] []) .strict "u" ([] ++ [firstPart])
          newSession) ↔
      ∃ session,
        (applyAll (memoryHost [] []) .strict "u" ([] ++ [firstPart])
          newSession).sessions.get? "u" = some session ∧
        (firstPart.offset < session.nextExpectedOffset ∧
            firstPart.offset + firstPart.data.length ≤
              session.nextExpectedOffset ∨
          session.nextExpectedOffset < firstPart.offset ∧
            session.complete = false) :=
  resend_harmless_iff (memoryHost [] []) .strict newSession_created
    (.inl ⟨(false, "Chunk Applied"), rfl⟩) discard

end Sample

end RudpAgentStack

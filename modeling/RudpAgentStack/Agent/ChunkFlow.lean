import RudpAgentStack.Agent.UploadSession

/-!
# How a chunk flows through its session

A chunk for a known session is a duplicate, overlaps what was written, is the
next one, or comes out of order.  The lemmas here say for each of the cases
what applying the chunk does.
-/

namespace RudpAgentStack

open Foundation

variable {World : Type} {host : Host World}

theorem onWorld_run {α : Type}
    (action : Action World α) (workspace : Workspace World) :
    (onWorld action).run workspace =
      ((action.run workspace.world).1,
        { workspace with world := (action.run workspace.world).2 }) := rfl

theorem ends_onWorld_iff {α : Type} {action : Action World α}
    {workspace : Workspace World}
    {returned : α → Workspace World → Prop}
    {raised : PyError → Workspace World → Prop} :
    Ends (onWorld action) workspace returned raised ↔
      Ends action workspace.world
        (fun value world => returned value { workspace with world := world })
        (fun error world =>
          raised error { workspace with world := world }) := by
  unfold Ends
  rw [onWorld_run]
  generalize action.run workspace.world = result
  obtain ⟨error | value, world⟩ := result <;> exact Iff.rfl

namespace UploadSessionManager

theorem get_run (workspace : Workspace World) :
    (get : Action (Workspace World) (Workspace World)).run workspace =
      (.ok workspace, workspace) := rfl

theorem getSession_run_known
    {uploadId : Text} {session : UploadSession} {workspace : Workspace World}
    (known : workspace.sessions.get? uploadId = some session) :
    (getSession host (.string uploadId)).run workspace =
      (.ok session, workspace) := by
  unfold getSession
  simp only [Action.run_bind, get_run, known]
  rfl

/-- An id that can be looked up and has no session is refused. -/
theorem getSession_run_unknown
    {uploadId : Json} {workspace : Workspace World}
    (noArray : ∀ elements, uploadId ≠ .array elements)
    (noObject : ∀ entries, uploadId ≠ .object entries)
    (unknown : ∀ key, uploadId = .string key →
      workspace.sessions.get? key = none) :
    (getSession host uploadId).run workspace =
      (.error ⟨.valueError, Text.ofString "Session " ++ host.str uploadId ++
        " not found"⟩, workspace) := by
  cases uploadId with
  | string key =>
      unfold getSession
      simp only [Action.run_bind, get_run, unknown key rfl]
      rfl
  | array elements => exact absurd rfl (noArray elements)
  | object entries => exact absurd rfl (noObject entries)
  | _ => rfl

/-- An id without a session is refused, and nothing changes. -/
theorem getSession_cases
    (host : Host World) (uploadId : Json) (workspace : Workspace World) :
    (∃ key session, uploadId = .string key ∧
      workspace.sessions.get? key = some session) ∨
    (getSession host uploadId).run workspace =
      (.error ⟨.typeError, "unhashable type"⟩, workspace) ∨
    ((∀ elements, uploadId ≠ .array elements) ∧
      (∀ entries, uploadId ≠ .object entries) ∧
      ∀ key, uploadId = .string key →
        workspace.sessions.get? key = none) := by
  cases uploadId with
  | string key =>
      cases known : workspace.sessions.get? key with
      | some session => exact .inl ⟨key, session, rfl, known⟩
      | none =>
          refine .inr (.inr ⟨nofun, nofun, ?_⟩)
          rintro _ ⟨⟩
          exact known
  | array elements => exact .inr (.inl rfl)
  | object entries => exact .inr (.inl rfl)
  | _ => exact .inr (.inr ⟨nofun, nofun, nofun⟩)

theorem updateSession_run_known
    {key : Text} {workspace : Workspace World}
    {session : UploadSession} (change : UploadSession → UploadSession)
    (known : workspace.sessions.get? key = some session) :
    (updateSession key change).run workspace =
      (.ok (), { workspace with
        sessions := workspace.sessions.set key (change session) }) := by
  unfold updateSession
  rw [Action.run_modify, known]

/-- The next chunk is written, with those that were waiting for it. -/
def applyNext
    (mode : UploadMode) (session : UploadSession) (offset : Json)
    (chunkData : Bytes) (writer : FileWriter World) :
    Action (Workspace World) (Bool × Text) := do
  writeChunk session offset chunkData writer
  if mode = .bufferable then
    processBuffer session.uploadId writer session.bufferedChunks.size
  finishChunk session.uploadId

/-- A chunk out of order is kept for later. -/
def bufferChunk
    (session : UploadSession) (position : FloatValue) (chunkData : Bytes) :
    Action (Workspace World) (Bool × Text) := do
  updateSession session.uploadId fun current =>
    { current with
      bufferedChunks := current.bufferedChunks.set position chunkData }
  finishChunk session.uploadId

section Apply

variable
  {mode : UploadMode} {offset : Json} {chunkData : Bytes}
  {writer : FileWriter World} {workspace : Workspace World}

/-- A chunk of no session is refused. -/
theorem applyChunk_run_refused
    {uploadId : Json} {error : PyError}
    (refused : (getSession host uploadId).run workspace =
      (.error error, workspace)) :
    (applyChunk host mode uploadId offset chunkData writer).run workspace =
      (.error error, workspace) := by
  unfold applyChunk
  rw [Action.run_bind, refused]

/-- A chunk for a known session, by its offset. -/
theorem applyChunk_run_known
    {uploadId : Text} {session : UploadSession}
    (known : workspace.sessions.get? uploadId = some session) :
    (applyChunk host mode (.string uploadId) offset chunkData writer).run
        workspace =
      match offset.number? with
      | none =>
          (.error ⟨.typeError, "'<' not supported between instances"⟩,
            workspace)
      | some position =>
          if position.lt (.finite session.nextExpectedOffset) then
            if (position.addInt chunkData.length).le
                (.finite session.nextExpectedOffset) then
              (.ok (session.totalSize.equalsInt session.nextExpectedOffset,
                "Duplicate ignored"), workspace)
            else
              (.error ⟨.valueError, "Overlapping chunk at " ++
                host.str offset ++ " (expected " ++
                Text.ofInt session.nextExpectedOffset ++ ")"⟩, workspace)
          else if position.eq (.finite session.nextExpectedOffset) then
            (applyNext mode session offset chunkData writer).run workspace
          else if mode = .strict then
            (.error ⟨.valueError, "Out-of-order chunk: Got " ++
              host.str offset ++ ", expected " ++
              Text.ofInt session.nextExpectedOffset⟩, workspace)
          else (bufferChunk session position chunkData).run workspace := by
  unfold applyChunk
  rw [Action.run_bind, getSession_run_known known]
  cases offset.number? with
  | none => rfl
  | some position =>
    dsimp only
    split
    · split <;> rfl
    · split
      · rfl
      · cases mode <;> rfl

end Apply

end UploadSessionManager

end RudpAgentStack

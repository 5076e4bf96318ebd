import RudpAgentStack.Common.Host
import RudpAgentStack.Foundation.Dict

/-!
# Upload sessions

`UploadSessionManager` of `server/agent/upload_session.py`.  Times of sessions
are left out: only the cleanup of expired sessions reads them, and the server
never calls it.  Chunk offsets are numbers of any type, as clients send them.
-/

namespace RudpAgentStack

open Foundation

/-- `UploadMode` -/
inductive UploadMode
  | strict
  | bufferable
  deriving DecidableEq

/-- `UploadSession` -/
structure UploadSession where
  uploadId : Text
  filename : Text
  totalSize : Json
  nextExpectedOffset : Int := 0
  /-- Chunks waiting for their turn, by the value of their offset. -/
  bufferedChunks : Dict FloatValue Bytes := .empty

/-- The world together with the sessions of the manager. -/
structure Workspace (World : Type) where
  world : World
  sessions : Dict Text UploadSession

/-- A computation on the world, carried out in the workspace. -/
def onWorld {World α : Type} (action : Action World α) :
    Action (Workspace World) α :=
  ExceptT.mk fun workspace =>
    let (result, world) := action.run workspace.world
    (result, { workspace with world := world })

namespace UploadSessionManager

variable {World : Type}

/-- Where the data of a chunk goes: file name, offset and bytes. -/
abbrev FileWriter (World : Type) := Text → Json → Bytes → Action World Unit

/-- Change a session in place. -/
def updateSession (uploadId : Text) (change : UploadSession → UploadSession) :
    Action (Workspace World) Unit :=
  modify fun workspace =>
    match workspace.sessions.get? uploadId with
    | some session =>
        { workspace with
          sessions := workspace.sessions.set uploadId (change session) }
    | none => workspace

/-- `create_session` -/
def createSession (host : Host World) (filename : Text) (totalSize : Json) :
    Action (Workspace World) Text := do
  let uploadId ← onWorld host.uuid4
  let session : UploadSession := { uploadId, filename, totalSize }
  modify fun workspace =>
    { workspace with sessions := workspace.sessions.set uploadId session }
  return uploadId

/-- `get_session`, with the error `apply_chunk` raises for an unknown id.  Only
a string can be the id of a session, and lists and objects cannot be looked
up. -/
def getSession (host : Host World) (uploadId : Json) :
    Action (Workspace World) UploadSession := do
  let unknown : PyError :=
    ⟨.valueError, "Session " ++ host.str uploadId ++ " not found"⟩
  match uploadId with
  | .string key =>
      match (← get).sessions.get? key with
      | some session => return session
      | none => throw unknown
  | .array _ | .object _ => throw ⟨.typeError, "unhashable type"⟩
  | _ => throw unknown

/-- `_write_chunk` -/
def writeChunk
    (session : UploadSession) (offset : Json) (data : Bytes)
    (writer : FileWriter World) : Action (Workspace World) Unit := do
  onWorld (writer session.filename offset data)
  updateSession session.uploadId fun current =>
    { current with
      nextExpectedOffset := current.nextExpectedOffset + data.length }

/-- `_process_buffer`.  Every turn takes a chunk out of the buffer, so its size
is enough fuel. -/
def processBuffer (uploadId : Text) (writer : FileWriter World) :
    (fuel : Nat) → Action (Workspace World) Unit
  | 0 => return
  | fuel + 1 => do
      match (← get).sessions.get? uploadId with
      | none => return
      | some session =>
          let key := FloatValue.finite session.nextExpectedOffset
          match session.bufferedChunks.get? key with
          | none => return
          | some nextChunk =>
              updateSession uploadId fun current =>
                { current with
                  bufferedChunks := current.bufferedChunks.del key }
              writeChunk session (.int session.nextExpectedOffset) nextChunk
                writer
              processBuffer uploadId writer fuel

/-- The part of `apply_chunk` after the chunk was written or buffered: a
complete session is removed. -/
def finishChunk (uploadId : Text) : Action (Workspace World) (Bool × Text) := do
  match (← get).sessions.get? uploadId with
  | some session =>
      if session.totalSize.equalsInt session.nextExpectedOffset then
        modify fun workspace =>
          { workspace with sessions := workspace.sessions.del uploadId }
        return (true, "Upload Complete")
      return (false, "Chunk Applied")
  | none => return (false, "Chunk Applied")

/-- `apply_chunk` -/
def applyChunk
    (host : Host World) (mode : UploadMode) (uploadId offset : Json)
    (chunkData : Bytes) (writer : FileWriter World) :
    Action (Workspace World) (Bool × Text) := do
  let session ← getSession host uploadId
  let expected := session.nextExpectedOffset
  let some position := offset.number?
    | throw ⟨.typeError, "'<' not supported between instances"⟩
  if position.lt (.finite expected) then
    if (position.addInt chunkData.length).le (.finite expected) then
      return (session.totalSize.equalsInt expected, "Duplicate ignored")
    throw ⟨.valueError, "Overlapping chunk at " ++ host.str offset ++
      " (expected " ++ Text.ofInt expected ++ ")"⟩
  if position.eq (.finite expected) then
    writeChunk session offset chunkData writer
    if mode = .bufferable then
      processBuffer session.uploadId writer session.bufferedChunks.size
    finishChunk session.uploadId
  else
    match mode with
    | .strict =>
        throw ⟨.valueError, "Out-of-order chunk: Got " ++ host.str offset ++
          ", expected " ++ Text.ofInt expected⟩
    | .bufferable =>
        updateSession session.uploadId fun current =>
          { current with
            bufferedChunks := current.bufferedChunks.set position chunkData }
        finishChunk session.uploadId

end UploadSessionManager

end RudpAgentStack

import RudpAgentStack.Agent.FileHandlers
import RudpAgentStack.Agent.TaskHandler

/-!
# The dispatcher

`Dispatcher` of `server/agent/dispatcher.py`: it routes a request to the
handler of its opcode and turns what the handler returns or raises into a
response envelope.
-/

namespace RudpAgentStack

open Foundation

/-- The handlers of the dispatch table. -/
inductive Handler
  | list
  | putMeta
  | putChunk
  | get
  | append
  | task
  deriving DecidableEq

/-- The dispatch table. -/
def handlers : List (Int × Handler) :=
  [(opList, .list), (opPutMeta, .putMeta), (opPutChunk, .putChunk),
    (opGet, .get), (opAppend, .append), (opTaskSearchReport, .task),
    (opTaskFilterLines, .task), (opTaskHashAndStore, .task)]

/-- A call of a handler. -/
structure HandlerCall where
  handler : Handler
  header : AppHeader
  payload : Bytes
  deriving DecidableEq

/-- The state of the server behind its transports. -/
structure AgentState (World : Type) where
  workspace : Workspace World
  cache : IdempotencyCache
  /-- The handler calls made so far.  Nothing reads them. -/
  calls : List HandlerCall := []

namespace Dispatcher

variable {World : Type} (host : Host World) (guard : PolicyGuard)

/-- A computation on the workspace, carried out in the server. -/
def onWorkspace {α : Type} (action : Action (Workspace World) α) :
    Action (AgentState World) α :=
  ExceptT.mk fun state =>
    let (result, workspace) := action.run state.workspace
    (result, { state with workspace := workspace })

/-- A computation on the world and the cache, carried out in the server. -/
def onWorldAndCache {α : Type}
    (action : Action (World × IdempotencyCache) α) :
    Action (AgentState World) α :=
  ExceptT.mk fun state =>
    let (result, world, cache) :=
      action.run (state.workspace.world, state.cache)
    (result, { state with
      workspace := { state.workspace with world := world }
      cache := cache })

/-- The wrapper of a handler.  The session manager of the server works in
strict mode. -/
def runHandler
    (handler : Handler) (header : AppHeader) (payload : Bytes)
    (clientAddress : Option (Text × Int)) (now : Readings) :
    Action (AgentState World) HandlerResult :=
  match handler with
  | .list => onWorkspace (onWorld (handleList host guard))
  | .putMeta => onWorkspace (handlePutMeta host guard payload)
  | .putChunk => onWorkspace (handlePutChunk host guard .strict payload)
  | .get => onWorkspace (onWorld (handleGet host guard payload))
  | .append => onWorkspace (onWorld (handleAppend host guard payload))
  | .task => do
      let envelope ← onWorldAndCache
        (TaskHandler.handleTask host guard header payload clientAddress now)
      return .bytes envelope

/-- The envelope of what a handler returns. -/
def respond (header : AppHeader) : HandlerResult → Except PyError Bytes
  | .bytes envelope => .ok envelope
  | .data content binaryContent =>
      ResponseBuilder.buildResponse host header.opcode header.requestId .ok
        content none binaryContent

/-- Error code and message for an exception. -/
def mapError (error : PyError) : ErrorCode × Text :=
  if error.kind = .fileNotFoundError then (.notFound, error.message)
  else if error.kind.isValueError then
    let msg := Text.lower error.message
    if Text.contains msg "traversal" || Text.contains msg "not allowed" then
      (.forbidden, error.message)
    else if Text.contains msg "too large" || Text.contains msg "exceeds" then
      (.payloadTooLarge, error.message)
    else (.badRequest, error.message)
  else (.internalServerError, "Internal Server Error")

/-- The envelope for an exception. -/
def respondError (header : AppHeader) (error : PyError) :
    Except PyError Bytes :=
  ResponseBuilder.buildErrorResponse host header.opcode header.requestId
    (mapError error).1 (mapError error).2

/-- `dispatch` -/
def dispatch
    (header : AppHeader) (payload : Bytes) (clientAddress : Option (Text × Int))
    (now : Readings) : Action (AgentState World) Bytes := do
  match handlers.lookup header.opcode with
  | none =>
      ResponseBuilder.buildErrorResponse host header.opcode header.requestId
        .badRequest ("Unknown Opcode: " ++ Text.ofInt header.opcode)
  | some handler =>
      modify fun state =>
        { state with calls := state.calls ++ [{ handler, header, payload }] }
      tryCatch
        (do
          let resultData ←
            runHandler host guard handler header payload clientAddress now
          respond host header resultData)
        fun error => respondError host header error

end Dispatcher

end RudpAgentStack

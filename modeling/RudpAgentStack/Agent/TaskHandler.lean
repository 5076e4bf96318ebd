import RudpAgentStack.Agent.Idempotency
import RudpAgentStack.Agent.ResponseBuilder
import RudpAgentStack.Agent.ToolDispatcher

/-!
# The task handler

`handle_task` of `server/agent/handlers/task.py`.  Between parsing the payload
and planning it consults the idempotency cache under a client id of its own.
-/

namespace RudpAgentStack

open Foundation

/-- The readings of the clock that one request takes, in this order: looking
its key up, looking up and storing the task's key, storing its key. -/
structure Readings where
  lookup : ℚ
  taskLookup : ℚ
  taskStore : ℚ
  store : ℚ
  lookup_le : lookup ≤ taskLookup
  taskLookup_le : taskLookup ≤ taskStore
  taskStore_le : taskStore ≤ store
  deriving DecidableEq

namespace TaskHandler

variable {World : Type} (host : Host World) (guard : PolicyGuard)

/-- The client id when no address is passed on. -/
def defaultClient : Text := "default_client"

/-- The client id of the task's context. -/
def taskClient : Option (Text × Int) → Text
  | some (hostName, port) => hostName ++ ":" ++ Text.ofInt port
  | none => defaultClient

/-- The task data of a payload. -/
def parseTask (payload : Bytes) : Except PyError (List (Text × Json)) := do
  let text ← host.decode payload
  match host.jsonLoads text with
  | .ok (.object taskData) => return taskData
  | .ok _ => valueError "Payload must be a JSON object"
  | .error error =>
      if error.kind = .jsonDecodeError then valueError "Invalid JSON payload"
      else .error error

/-- Size of the input file, looked for under the path as it was sent. -/
def inputSize (taskData : List (Text × Json)) :
    Action World (Option Int) := do
  match Json.get? taskData "input_file" with
  | none => return none
  | some path =>
      let _ ← guard.validatePath path
      if ← host.exists? (host.str path) then
        return some (← host.getsize (host.str path))
      return none

/-- Plan the task and execute it: the response, and whether the plan has side
effects. -/
def performTask
    (header : AppHeader) (taskData : List (Text × Json)) (clientId : Text) :
    Action World (Bytes × Bool) := do
  let fileSize ← inputSize host guard taskData
  let plan ← Planner.buildPlan host header.opcode taskData
    { clientId, requestId := Text.ofInt header.requestId, fileSize }
  let plan :=
    { plan with initialContext := { plan.initialContext with holdsPlan := true } }
  let result ← ToolDispatcher.executePlan host guard plan
  let responseBytes ← ResponseBuilder.buildResponse host header.opcode
    header.requestId .ok result
  return (responseBytes, plan.sideEffects)

/-- Perform a task and store the response of one with side effects. -/
def performAndStore
    (header : AppHeader) (taskData : List (Text × Json)) (clientId : Text)
    (now : Readings) : Action (World × IdempotencyCache) Bytes :=
  ExceptT.mk fun (world, cache) =>
    match (performTask host guard header taskData clientId).run world with
    | (.error error, world) => (.error error, world, cache)
    | (.ok (responseBytes, sideEffects), world) =>
        (.ok responseBytes, world,
          if sideEffects then
            cache.storeResponse clientId header.requestId header.opcode
              responseBytes now.taskStore
          else cache)

/-- `handle_task`, on the world and the idempotency cache. -/
def handleTask
    (header : AppHeader) (payload : Bytes) (clientAddress : Option (Text × Int))
    (now : Readings) : Action (World × IdempotencyCache) Bytes :=
  ExceptT.mk fun (world, cache) =>
    match parseTask host payload with
    | .error error => (.error error, world, cache)
    | .ok taskData =>
        let clientId := taskClient clientAddress
        let (cachedResult, cache) :=
          cache.getResponse clientId header.requestId header.opcode
            now.taskLookup
        match cachedResult with
        | some (byte :: bytes) => (.ok (byte :: bytes), world, cache)
        | _ =>
            (performAndStore host guard header taskData clientId now).run
              (world, cache)

end TaskHandler

end RudpAgentStack

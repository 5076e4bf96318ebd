import RudpAgentStack.Agent.Dispatcher

/-!
# The agent server

`AgentServer.process_request` of `server/agent_server.py`: decode the header,
consult the idempotency cache, dispatch, store the response.  The dispatcher is
called without the address of the client.
-/

namespace RudpAgentStack

open Foundation

/-- The header of a well-framed request: it decodes and announces the length
of the payload. -/
def frame? (data : Bytes) : Option AppHeader :=
  match decodeHeader (data.take headerSize) with
  | .ok header =>
      if ((data.drop headerSize).length : Int) = header.payloadLen then
        some header
      else none
  | .error _ => none

/-- The key of a request of a client. -/
def requestKey (clientId : Text) (header : AppHeader) : IdempotencyKey :=
  (clientId, header.requestId, header.opcode)

namespace AgentServer

variable {World : Type} (host : Host World) (guard : PolicyGuard)

/-- A new server: no sessions and nothing cached. -/
def new (world : World) : AgentState World where
  workspace := { world, sessions := .empty }
  cache := .empty

/-- Dispatch a request and store its response.  An exception of the
dispatcher is answered with nothing. -/
def carryOut
    (clientId : Text) (header : AppHeader) (payload : Bytes) (now : Readings)
    (state : AgentState World) : Bytes × AgentState World :=
  match (Dispatcher.dispatch host guard header payload none now).run state with
  | (.error _, state) => ([], state)
  | (.ok responseBytes, state) =>
      (responseBytes, { state with
        cache := state.cache.storeResponse clientId header.requestId
          header.opcode responseBytes now.store })

/-- `process_request` for the header and payload of a well-framed request. -/
def processFrame
    (clientId : Text) (header : AppHeader) (payload : Bytes) (now : Readings)
    (state : AgentState World) : Bytes × AgentState World :=
  let (cachedResponse, cache) :=
    state.cache.getResponse clientId header.requestId header.opcode now.lookup
  let state := { state with cache := cache }
  match cachedResponse with
  | some (byte :: bytes) => (byte :: bytes, state)
  | _ => carryOut host guard clientId header payload now state

/-- `process_request`.  Data without a valid header, the empty data among it,
and data of another length than announced are answered with nothing. -/
def processRequest
    (clientId : Text) (data : Bytes) (now : Readings)
    (state : AgentState World) : Bytes × AgentState World :=
  match frame? data with
  | none => ([], state)
  | some header =>
      processFrame host guard clientId header (data.drop headerSize) now state

end AgentServer

end RudpAgentStack

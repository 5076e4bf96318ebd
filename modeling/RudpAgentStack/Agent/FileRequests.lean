import RudpAgentStack.Agent.ClientIsolation
import RudpAgentStack.Agent.Requests

/-!
# Runs of uploads and appends

Requests that start an upload, apply a chunk to one or append to a file, in any
order and from any number of clients.  The workspace of the server goes through
such a run: each request is handled, or is answered from the cache and leaves
the workspace as it is.
-/

namespace RudpAgentStack

open Foundation

variable {World : Type} {host : Host World} {guard : PolicyGuard}

/-- A request to change a file, by its payload. -/
inductive FileRequest
  | putMeta (payload : Bytes)
  | putChunk (payload : Bytes)
  | append (payload : Bytes)

namespace FileRequest

/-- What the handler of the request does. -/
def handle
    (host : Host World) (guard : PolicyGuard) (mode : UploadMode) :
    FileRequest → Action (Workspace World) HandlerResult
  | .putMeta payload => handlePutMeta host guard payload
  | .putChunk payload => handlePutChunk host guard mode payload
  | .append payload => onWorld (handleAppend host guard payload)

/-- The workspace after the request. -/
def perform
    (host : Host World) (guard : PolicyGuard) (mode : UploadMode)
    (workspace : Workspace World) (request : FileRequest) : Workspace World :=
  ((request.handle host guard mode).run workspace).2

/-- The workspace after a list of requests. -/
def performAll
    (host : Host World) (guard : PolicyGuard) (mode : UploadMode)
    (workspace : Workspace World) (requests : List FileRequest) :
    Workspace World :=
  requests.foldl (perform host guard mode) workspace

/-- The workspace of a server that started without uploads, after a list of
requests. -/
def reached
    (host : Host World) (guard : PolicyGuard) (mode : UploadMode)
    (world : World) (requests : List FileRequest) : Workspace World :=
  performAll host guard mode ⟨world, .empty⟩ requests

theorem performAll_append_singleton
    (mode : UploadMode) (workspace : Workspace World)
    (requests : List FileRequest) (request : FileRequest) :
    performAll host guard mode workspace (requests ++ [request]) =
      perform host guard mode
        (performAll host guard mode workspace requests) request := by
  simp [performAll]

/-- The request of a handler. -/
def of? (handler : Handler) (payload : Bytes) : Option FileRequest :=
  match handler with
  | .putMeta => some (.putMeta payload)
  | .putChunk => some (.putChunk payload)
  | .append => some (.append payload)
  | _ => none

end FileRequest

/-! ## The server -/

namespace AgentServer

variable
  {clientId : Text} {header : AppHeader} {payload : Bytes} {now : Readings}
  {state : AgentState World} {call : Call}

/-- Storing its response, a request leaves the files alone. -/
theorem carryOut_workspace :
    (carryOut host guard clientId header payload now state).2.workspace =
      ((Dispatcher.dispatch host guard header payload none now).run
        state).2.workspace := by
  unfold carryOut
  generalize (Dispatcher.dispatch host guard header payload none now).run
    state = result
  obtain ⟨error | responseBytes, after⟩ := result <;> rfl

/-- A request without an answer in the cache is handled. -/
theorem serve_workspace
    {handler : Handler} (framed : frame? call.data = some header)
    (own : state.cache.answer? (requestKey call.clientId header)
      call.now.lookup = none)
    (routed : handlers.lookup header.opcode = some handler) :
    (serve host guard state call).2.workspace =
      ((Dispatcher.runHandler host guard handler header
        (call.data.drop headerSize) none call.now).run
        (Dispatcher.called handler header (call.data.drop headerSize)
          (ownLookedUp call.clientId header call.now state))).2.workspace := by
  rw [serve_of_unanswered host guard framed own, carryOut_workspace,
    Dispatcher.dispatch_run host guard routed]

/-- The upload or append a call asks for. -/
def fileRequest? (call : Call) : Option FileRequest := do
  let header ← frame? call.data
  let handler ← handlers.lookup header.opcode
  FileRequest.of? handler (call.data.drop headerSize)

/-- Step lemma: a call that asks for an upload or an append has its handler
change the workspace, or is answered from the cache. -/
theorem serve_fileRequest
    {request : FileRequest} (asks : fileRequest? call = some request) :
    (serve host guard state call).2.workspace = state.workspace ∨
      (serve host guard state call).2.workspace =
        request.perform host guard .strict state.workspace := by
  simp only [fileRequest?, Option.bind_eq_bind, Option.bind_eq_some_iff]
    at asks
  obtain ⟨header, framed, handler, routed, asks⟩ := asks
  cases own : state.cache.answer? (requestKey call.clientId header)
      call.now.lookup with
  | some response =>
    left
    rw [serve_of_framed host guard framed,
      processFrame_of_answer? host guard own]
  | none =>
    right
    rw [serve_workspace framed own routed]
    cases handler <;> cases asks <;> rfl

/-- Run lemma: the server takes the workspace through a run of some of the
requests, in the order of the calls. -/
theorem run_fileRequests
    (calls : List Call) (state : AgentState World)
    (ask : ∀ call ∈ calls,
      frame? call.data = none ∨ (fileRequest? call).isSome = true) :
    ∃ requests, requests.Sublist (calls.filterMap fileRequest?) ∧
      (run host guard state calls).workspace =
        FileRequest.performAll host guard .strict state.workspace
          requests := by
  induction calls using List.reverseRecOn with
  | nil => exact ⟨[], List.Sublist.refl _, rfl⟩
  | append_singleton calls call inductionHypothesis =>
    rw [List.forall_mem_append, List.forall_mem_singleton] at ask
    obtain ⟨requests, sublist, workspace_eq⟩ := inductionHypothesis ask.1
    have kept : ∀ added, requests.Sublist
        (calls.filterMap fileRequest? ++ added) := fun added =>
      sublist.trans (List.sublist_append_left _ _)
    rw [run_append_singleton, List.filterMap_append]
    rcases ask.2 with unframed | asks
    · refine ⟨requests, kept _, ?_⟩
      rw [serve_of_unframed host guard unframed, workspace_eq]
    · obtain ⟨request, asks⟩ := Option.isSome_iff_exists.mp asks
      have served :
          (serve host guard (run host guard state calls) call).2.workspace =
              (run host guard state calls).workspace ∨ _ :=
        serve_fileRequest asks
      rcases served with same | performed
      · exact ⟨requests, kept _, same.trans workspace_eq⟩
      · refine ⟨requests ++ [request], ?_, ?_⟩
        · have single : [call].filterMap fileRequest? = [request] := by
            simp [asks]
          rw [single]
          exact sublist.append_right _
        · rw [performed, workspace_eq,
            FileRequest.performAll_append_singleton]

end AgentServer

/-! ## Sample uploads -/

namespace Sample

open MemoryHost

/-- The metadata that starts an upload of a size. -/
def uploadData (totalSize : Int) : Json :=
  .object [("filename", .string "a.txt"), ("total_size", .int totalSize)]

/-- The id that the host in memory gives to an upload. -/
def uploadId : Text := "00000000-0000-4000-8000-000000000000"

/-- The metadata of a chunk. -/
def chunkData (offset chunkLen : Int) : Json :=
  .object
    [("upload_id", .string uploadId), ("offset", .int offset),
      ("chunk_len", .int chunkLen)]

/-- The metadata of an append to the uploaded file. -/
def growData : Json := .object [("filename", .string "a.txt")]

/-- A host that reads the sample requests. -/
def uploadHost : Host Files :=
  memoryHost
    [((uploadData 1).write false, uploadData 1),
      ((uploadData 2).write false, uploadData 2),
      ((chunkData 0 1).write false, chunkData 0 1),
      ((chunkData 1 1).write false, chunkData 1 1),
      ((chunkData 0 2).write false, chunkData 0 2),
      (growData.write false, growData)]
    []

/-- The bytes of a payload that can be encoded. -/
def encoded : Except PyError Bytes → Bytes
  | .ok payload => payload
  | .error _ => []

/-- A request to start an upload. -/
def startRequest (totalSize : Int) : FileRequest :=
  .putMeta (encoded (uploadHost.dumpBytes (uploadData totalSize)))

/-- A request to apply a chunk. -/
def chunkRequest (offset : Int) (data : Bytes) : FileRequest :=
  .putChunk
    (encoded (mixedModeEncode uploadHost (chunkData offset data.length) data))

/-- A request to append to the uploaded file. -/
def growRequest (data : Bytes) : FileRequest :=
  .append (encoded (mixedModeEncode uploadHost growData data))

end Sample

end RudpAgentStack

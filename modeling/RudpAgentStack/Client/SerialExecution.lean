import RudpAgentStack.Client.RemoteOperations
import RudpAgentStack.Client.RudpLink

/-!
# Operations one after the other

A client executes operations on files one after the other, over RUDP and with
its retries.  The server may process each request many times, and late.  The
calls that are not carried out do nothing, and without them the server has
processed every request once, in the order of the operations: the client might
as well have called the server directly.
-/

namespace RudpAgentStack

open Foundation

/-! ## Calls that are not carried out -/

namespace RequestLink

variable {World : Type} (host : Host World) (guard : PolicyGuard)
  (clientId : Text)

/-- The calls without those of the client that are not carried out. -/
def serial : AgentState World → List Call → List Call
  | _, [] => []
  | state, call :: calls =>
      let rest := serial (AgentServer.serve host guard state call).2 calls
      if call.clientId = clientId ∧
          AgentServer.isCarriedOut state call = false then rest
      else call :: rest

/-- The requests of the client with their responses. -/
def dialogue : AgentState World → List Call → List (Bytes × Bytes)
  | _, [] => []
  | state, call :: calls =>
      (if call.clientId = clientId then
        [(call.data, (AgentServer.serve host guard state call).1)] else []) ++
        dialogue (AgentServer.serve host guard state call).2 calls

end RequestLink

/-- A call that is not carried out changes nothing. -/
theorem AgentServer.serve_of_not_carriedOut
    {World : Type} (host : Host World) (guard : PolicyGuard)
    {state : AgentState World} {call : Call}
    (idle : AgentServer.isCarriedOut state call = false) :
    (AgentServer.serve host guard state call).2 = state := by
  refine AgentServer.serve_keeps host guard (· = state) rfl ?_
  intro header framed unanswered
  have carriedOut : AgentServer.isCarriedOut state call = true :=
    AgentServer.isCarriedOut_iff.mpr ⟨header, framed, unanswered⟩
  rw [idle] at carriedOut
  exact absurd carriedOut Bool.false_ne_true

namespace RequestLink

variable {World : Type} {host : Host World} {guard : PolicyGuard}
  {clientId : Text}

/-- They do not matter for the state of the server. -/
theorem run_serial (state : AgentState World) (calls : List Call) :
    AgentServer.run host guard state (serial host guard clientId state calls) =
      AgentServer.run host guard state calls := by
  induction calls generalizing state with
  | nil => rfl
  | cons call calls inductionHypothesis =>
      have later := inductionHypothesis
        (AgentServer.serve host guard state call).2
      unfold serial
      dsimp only
      split
      · next idle =>
          have same := AgentServer.serve_of_not_carriedOut host guard idle.2
          rw [same] at later ⊢
          rw [later]
          exact congrArg (AgentServer.run host guard · calls) same.symm
      · exact later

/-- What is left of the client's requests is what was carried out. -/
theorem dialogue_serial (state : AgentState World) (calls : List Call) :
    dialogue host guard clientId state
        (serial host guard clientId state calls) =
      transcript host guard clientId state calls := by
  induction calls generalizing state with
  | nil => rfl
  | cons call calls inductionHypothesis =>
      have later := inductionHypothesis
        (AgentServer.serve host guard state call).2
      unfold serial transcript
      dsimp only
      split
      · next idle =>
          rw [if_neg fun both => by simp [idle.2] at both, List.nil_append,
            ← later, AgentServer.serve_of_not_carriedOut host guard idle.2]
      · next kept =>
          rw [dialogue, later]
          refine congrArg (· ++ _) ?_
          by_cases own : call.clientId = clientId
          · rw [if_pos own, if_pos ⟨own, by simpa [own] using kept⟩]
          · rw [if_neg own, if_neg fun both => own both.1]

variable (host guard clientId) in
/-- Calls are left out, and none of another client. -/
theorem serial_sublist (state : AgentState World) (calls : List Call) :
    (serial host guard clientId state calls).Sublist calls ∧
      (serial host guard clientId state calls).filter
          (·.clientId ≠ clientId) =
        calls.filter (·.clientId ≠ clientId) := by
  induction calls generalizing state with
  | nil => exact ⟨.refl _, rfl⟩
  | cons call calls inductionHypothesis =>
      obtain ⟨shorter, others⟩ := inductionHypothesis
        (AgentServer.serve host guard state call).2
      unfold serial
      dsimp only
      split
      · next idle =>
          refine ⟨shorter.cons _, ?_⟩
          rw [others, List.filter_cons_of_neg]
          simp [idle.1]
      · refine ⟨shorter.cons_cons _, ?_⟩
        rw [List.filter_cons, List.filter_cons, others]

end RequestLink

/-! ## A list of operations -/

namespace AgentClient

open RequestLink

variable {World State : Type}

/-- Execute operations one after the other. -/
def executeAll (host : Host World) (transport : ClientTransport State) :
    List FileOperation → Action (AgentClient State) (List ExecuteResult)
  | [] => return []
  | operation :: operations => do
      let result ← executeOperation host transport none operation
      let results ← executeAll host transport operations
      return result :: results

/-- The message that asks for an operation. -/
def requestMessage
    (host : Host World) (requestId : Int) (operation : FileOperation) :
    Except PyError Bytes := do
  let payload ← payloadOf host operation.buildRequest
  encodeMessage operation.buildRequest.opcode 0 requestId payload

/-- The messages that ask for operations, with ids from one number on. -/
def requestMessages (host : Host World) :
    Int → List FileOperation → Except PyError (List Bytes)
  | _, [] => return []
  | requestId, operation :: operations => do
      let message ← requestMessage host requestId operation
      let messages ← requestMessages host (requestId + 1) operations
      return message :: messages

/-- What the client makes of the response to an operation. -/
def readResult
    (host : Host World) (operation : FileOperation) (response : Bytes) :
    Except PyError ExecuteResult := do
  let decoded ← decodeResponse host response
  operation.parseResponse decoded

/-! ## One operation -/

variable {host : Host World} {guard : PolicyGuard} {clientId : Text}
  {start : AgentState World} {ids : Set Int}
  {transport : ClientTransport State}

/-- A request that cannot be encoded leaves an asynchronous transport alone. -/
theorem world_sendLoop_of_unencoded
    (isAsync : transport.isAsync = true) {requestId opcode : Int}
    {payload : Bytes} {error : PyError}
    (refused : encodeMessage opcode 0 requestId payload = .error error)
    (left : Nat) (state : State) :
    ((sendLoop host transport opcode requestId payload left).run state).2 =
      state := by
  have round : (attempt host transport opcode requestId payload).run state =
      (.error error, state) := by
    rw [attempt, refused]
    rfl
  induction left with
  | zero => rfl
  | succ left inductionHypothesis =>
      rw [sendLoop, Action.run_tryCatch, round]
      dsimp only
      split
      · exact inductionHypothesis
      · rfl

/-- A file operation is not a task. -/
theorem routed_buildRequest (operation : FileOperation) :
    ∃ handler, handlers.lookup operation.buildRequest.opcode = some handler ∧
      handler ≠ .task := by
  cases operation with
  | get filename => exact ⟨.get, rfl, by decide⟩
  | append filename data => exact ⟨.append, rfl, by decide⟩
  | list => exact ⟨.list, rfl, by decide⟩
  | putMeta filename totalSize overwrite => exact ⟨.putMeta, rfl, by decide⟩
  | putChunk uploadId offset chunkData => exact ⟨.putChunk, rfl, by decide⟩

variable (host guard clientId start) in
/-- What an operation, with its request id and its outcome, may do to a
link. -/
inductive Executes
    (ids : Set Int) (operation : FileOperation) (requestId : Int)
    (before after : RequestLink World) : Except PyError ExecuteResult → Prop
  | refused {error : PyError}
      (agent : after.agent = AgentServer.run host guard start after.calls)
      (done : transcript host guard clientId start after.calls =
        transcript host guard clientId start before.calls) :
      Executes ids operation requestId before after (.error error)
  | lost {message response : Bytes} {error : PyError}
      (agent : after.agent = AgentServer.run host guard start after.calls)
      (requested : requestMessage host requestId operation = .ok message)
      (done : transcript host guard clientId start after.calls =
        transcript host guard clientId start before.calls ++
          [(message, response)]) :
      Executes ids operation requestId before after (.error error)
  | done {message response : Bytes} {result : Except PyError ExecuteResult}
      (settled :
        Settled host guard clientId start (insert requestId ids) after)
      (requested : requestMessage host requestId operation = .ok message)
      (done : transcript host guard clientId start after.calls =
        transcript host guard clientId start before.calls ++
          [(message, response)])
      (read : readResult host operation response = result) :
      Executes ids operation requestId before after result

/-- Step lemma: an operation is carried out at most once, and once if it
returns. -/
theorem executeOperation_executes
    (link : DelayedLink host guard clientId
      (AnswersClient host guard clientId) transport)
    (operation : FileOperation) {client : AgentClient State}
    (unused : client.requestIdOf none ∉ ids)
    (settled :
      Settled host guard clientId start ids (link.view client.world)) :
    Executes host guard clientId start ids operation
      (client.requestIdOf none) (link.view client.world)
      (link.view ((executeOperation host transport none operation).run
        client).2.world)
      ((executeOperation host transport none operation).run client).1 := by
  rw [executeOperation_run]
  dsimp only
  generalize overridden : ({ client with
    activeOverride := Option.or none client.activeOverride } :
      AgentClient State) = caller
  have sameId : client.requestIdOf none = caller.nextId := by
    rw [← overridden]
    rfl
  have sameWorld : client.world = caller.world := by
    rw [← overridden]
  rw [sameId] at unused ⊢
  rw [sameWorld] at settled ⊢
  cases payloaded : payloadOf host operation.buildRequest with
  | error error =>
      rw [sendRequestSpec, payloaded]
      exact .refused settled.agent rfl
  | ok payload =>
  cases encoded : encodeMessage operation.buildRequest.opcode 0 caller.nextId
      payload with
  | error error =>
      rw [sendRequestSpec_eq_sendLoop payloaded]
      have raised := @sendLoop_of_unencoded _ _ host transport _ _ _ _ encoded
        (maxRetries + 1) caller.world
      have kept := @world_sendLoop_of_unencoded _ _ host transport
        link.isAsync _ _ _ _ encoded (maxRetries + 1) caller.world
      generalize (sendLoop host transport operation.buildRequest.opcode
        caller.nextId payload (maxRetries + 1)).run caller.world = outcome at *
      obtain ⟨error | decoded, world⟩ := outcome
      · have same : world = caller.world := kept
        rw [same]
        exact .refused settled.agent rfl
      · exact absurd rfl raised
  | ok message =>
      have framed := (frame?_of_encodeMessage encoded).1
      have requested : requestMessage host caller.nextId operation =
          .ok message := by
        rw [requestMessage, payloaded]
        exact encoded
      have attempted := sendRequestSpec_attempted link
        (remoteCall_answering framed (routed_buildRequest operation))
        payloaded encoded unused settled trivial
      generalize (sendRequestSpec host transport operation.buildRequest).run
        caller = outcome at attempted ⊢
      obtain ⟨progress, calling, reads⟩ := attempted
      obtain ⟨error | decoded, caller'⟩ := outcome
      · cases progress with
        | none =>
            refine .refused calling.agent ?_
            exact calling.done.trans (List.append_nil _)
        | some response => exact .lost calling.agent requested calling.done
      · obtain ⟨response, rfl, read⟩ := reads decoded rfl
        refine .done (calling.settled framed) requested calling.done ?_
        rw [readResult, read]

/-- An operation that returns has used one id. -/
theorem client_executeOperation
    {operation : FileOperation} {client after : AgentClient State}
    {result : ExecuteResult}
    (returns : (executeOperation host transport none operation).run client =
      (.ok result, after)) :
    after.currentId = client.currentId + 1 ∧
      after.activeOverride = client.activeOverride := by
  rw [executeOperation_run] at returns
  dsimp only at returns
  generalize overridden : ({ client with
    activeOverride := Option.or none client.activeOverride } :
      AgentClient State) = caller at returns
  have sameCount : client.currentId = caller.currentId := by
    rw [← overridden]
  obtain ⟨received, rfl⟩ := Prod.mk.inj returns
  refine ⟨?_, rfl⟩
  cases payloaded : payloadOf host operation.buildRequest with
  | error error =>
      rw [sendRequestSpec, payloaded] at received
      cases received
  | ok payload =>
      rw [sendRequestSpec_eq_sendLoop payloaded, sameCount]

/-! ## All of them -/

variable (host guard clientId start) in
/-- The client's requests that are carried out are those of the first
operations, each once and in their order; if all operations return then those
of all, and the results are what the responses say. -/
structure CarriesOut
    (operations : List FileOperation) (requestId : Int)
    (before after : RequestLink World)
    (outcome : Except PyError (List ExecuteResult))
    (messages responses : List Bytes) : Prop where
  agent : after.agent = AgentServer.run host guard start after.calls
  lengths : responses.length = messages.length
  requested : requestMessages host requestId
    (operations.take messages.length) = .ok messages
  done : transcript host guard clientId start after.calls =
    transcript host guard clientId start before.calls ++
      messages.zip responses
  read : ∀ results, outcome = .ok results →
    messages.length = operations.length ∧
      List.zipWith (readResult host) operations responses = results.map .ok

variable {operation : FileOperation} {operations : List FileOperation}
  {requestId : Int} {before between after : RequestLink World}

/-- No further operation follows one that raises. -/
theorem Executes.carriesOut_error {error : PyError}
    (executes : Executes host guard clientId start ids operation requestId
      before after (.error error)) :
    ∃ messages responses, CarriesOut host guard clientId start
      (operation :: operations) requestId before after (.error error) messages
      responses := by
  have raised (results : List ExecuteResult) :
      (.error error : Except PyError (List ExecuteResult)) ≠ .ok results := by
    intro same
    cases same
  have asked {message : Bytes}
      (requested : requestMessage host requestId operation = .ok message) :
      requestMessages host requestId ((operation :: operations).take 1) =
        .ok [message] := by
    rw [List.take_succ_cons, List.take_zero, requestMessages, requested]
    rfl
  cases executes with
  | refused agent done =>
      exact ⟨[], [], agent, rfl, rfl, done.trans (List.append_nil _).symm,
        fun results same => absurd same (raised results)⟩
  | @lost message response _ agent requested done =>
      exact ⟨[message], [response], agent, rfl, asked requested, done,
        fun results same => absurd same (raised results)⟩
  | @done message response _ settled requested done =>
      exact ⟨[message], [response], settled.agent, rfl, asked requested, done,
        fun results same => absurd same (raised results)⟩

/-- The others follow an operation that returns. -/
theorem CarriesOut.cons
    {message response : Bytes} {result : ExecuteResult}
    {outcome : Except PyError (List ExecuteResult)}
    {messages responses : List Bytes}
    (requested : requestMessage host requestId operation = .ok message)
    (done : transcript host guard clientId start between.calls =
      transcript host guard clientId start before.calls ++
        [(message, response)])
    (read : readResult host operation response = .ok result)
    (others : CarriesOut host guard clientId start operations (requestId + 1)
      between after outcome messages responses) :
    CarriesOut host guard clientId start (operation :: operations) requestId
      before after (List.cons result <$> outcome) (message :: messages)
      (response :: responses) where
  agent := others.agent
  lengths := congrArg Nat.succ others.lengths
  requested := by
    rw [List.length_cons, List.take_succ_cons, requestMessages, requested]
    change (requestMessages host (requestId + 1)
      (operations.take messages.length) >>= _) = _
    rw [others.requested]
    rfl
  done := by
    rw [others.done, done, List.append_assoc]
    rfl
  read := by
    intro results same
    cases outcome with
    | error error => cases same
    | ok later =>
        rw [← Except.ok.inj same]
        obtain ⟨all, reads⟩ := others.read later rfl
        refine ⟨congrArg Nat.succ all, ?_⟩
        rw [List.zipWith_cons_cons, read, reads]
        rfl

/-- The ids of requests up to one number. -/
def idsUpTo (requestId : Int) : Set Int := { used | used ≤ requestId }

/-- The next id is new, and then the last one in use. -/
theorem insert_idsUpTo_subset (requestId : Int) :
    insert (requestId + 1) (idsUpTo requestId) ⊆ idsUpTo (requestId + 1) := by
  rintro used (rfl | earlier)
  · exact Int.le_refl _
  · exact Int.le_trans earlier (Int.le_of_lt (Int.lt_succ requestId))

/-- Run lemma: whatever the outcome, operations are carried out one after the
other. -/
theorem executeAll_carriesOut
    (link : DelayedLink host guard clientId
      (AnswersClient host guard clientId) transport)
    (operations : List FileOperation) {client : AgentClient State}
    (noOverride : client.activeOverride = none)
    (settled : Settled host guard clientId start (idsUpTo client.currentId)
      (link.view client.world)) :
    ∃ messages responses, CarriesOut host guard clientId start operations
      (client.currentId + 1) (link.view client.world)
      (link.view ((executeAll host transport operations).run client).2.world)
      ((executeAll host transport operations).run client).1 messages
      responses := by
  induction operations generalizing client with
  | nil =>
      refine ⟨[], [], settled.agent, rfl, rfl, (List.append_nil _).symm, ?_⟩
      intro results same
      rw [← Except.ok.inj same]
      exact ⟨rfl, rfl⟩
  | cons operation operations inductionHypothesis =>
      have nextId : client.requestIdOf none = client.currentId + 1 := by
        rw [requestIdOf, AgentClient.nextId, noOverride]
        rfl
      have unused : client.requestIdOf none ∉ idsUpTo client.currentId := by
        rw [nextId]
        exact Int.not_le.mpr (Int.lt_succ client.currentId)
      have first := executeOperation_executes link operation unused settled
      have used := @client_executeOperation _ _ host transport operation client
      rw [nextId] at first
      rw [executeAll, Action.run_bind]
      generalize (executeOperation host transport none operation).run client =
        outcome at first used ⊢
      obtain ⟨error | result, between⟩ := outcome
      · exact first.carriesOut_error
      · obtain ⟨counted, restored⟩ := used rfl
        cases first with
        | @done message response _ settled requested done read =>
            have wider : insert (client.currentId + 1)
                (idsUpTo client.currentId) ⊆ idsUpTo between.currentId := by
              rw [counted]
              exact insert_idsUpTo_subset client.currentId
            obtain ⟨messages, responses, others⟩ := inductionHypothesis
              (restored.trans noOverride) (settled.mono wider)
            rw [counted] at others
            have all := others.cons requested done read
            refine ⟨message :: messages, response :: responses, ?_⟩
            dsimp only
            rw [Action.run_bind]
            generalize (executeAll host transport operations).run between =
              rest at all ⊢
            obtain ⟨error | results, final⟩ := rest <;> exact all

/-- The server is where these calls have taken it, which are its calls without
some of the client.  In them the client has sent the requests of the first
operations, each once and in their order, and its outcome is what it reads in
the responses. -/
structure CalledDirectly
    (host : Host World) (guard : PolicyGuard) (clientId : Text)
    (agent : AgentState World) (operations : List FileOperation)
    (outcome : Except PyError (List ExecuteResult))
    (history : AgentHistory World) (calls : List Call)
    (messages responses : List Bytes) : Prop where
  fewer : calls.Sublist history.2
  others : calls.filter (·.clientId ≠ clientId) =
    history.2.filter (·.clientId ≠ clientId)
  reached : AgentServer.run host guard agent calls = history.1
  dialogue : RequestLink.dialogue host guard clientId agent calls =
    messages.zip responses
  lengths : responses.length = messages.length
  requested : requestMessages host 1 (operations.take messages.length) =
    .ok messages
  read : ∀ results, outcome = .ok results →
    messages.length = operations.length ∧
      List.zipWith (readResult host) operations responses = results.map .ok

/-- Over RUDP, whatever the network, the timers and other clients do, the
server ends up as if the client had called it directly, once for each operation
and in their order; if all of them return, their results are those of these
calls, and otherwise the calls are those of the first operations. -/
theorem called_directly
    (schedule : Nat → Period) (operations : List FileOperation)
    {agent : AgentState World} (empty : agent.cache = .empty) :
    let execution := (executeAll host (RudpClient.transport host guard clientId
      (AnswersClient host guard clientId) schedule) operations).run
        { world := RudpClient.new agent }
    ∃ calls messages responses,
      CalledDirectly host guard clientId agent operations execution.1
        execution.2.world.exchange.state calls messages responses := by
  intro execution
  have settled : Settled host guard clientId agent (idsUpTo 0)
      (RudpClient.new agent).link :=
    (settled_new empty).mono (Set.empty_subset _)
  obtain ⟨messages, responses, carriesOut⟩ := @executeAll_carriesOut _ _ host
    guard clientId agent _ (RudpClient.delayed schedule) operations
    { world := RudpClient.new agent } rfl settled
  have same : AgentServer.run host guard agent
      execution.2.world.exchange.state.2 =
        execution.2.world.exchange.state.1 := carriesOut.agent.symm
  obtain ⟨fewer, others⟩ := serial_sublist host guard clientId agent
    execution.2.world.exchange.state.2
  refine ⟨_, messages, responses, fewer, others, ?_, ?_,
    carriesOut.lengths, carriesOut.requested, carriesOut.read⟩
  · rw [run_serial, same]
  · rw [dialogue_serial]
    exact carriesOut.done

end AgentClient

/-! ## Two requests and a late response -/

namespace Sample

open AgentClient MemoryHost RequestLink RudpExchange

/-- A host that can append to a file twice. -/
def appendTwiceHost : Host Files :=
  let appended (size : Int) : Json := ResponseBuilder.statusDict 200 none
    (.object [("filename", .string "notes.txt"), ("new_size", .int size)])
  recordedHost [appendData, appended 1, appended 2] []

/-- A server with an empty file. -/
def emptyNotes : AgentState Files where
  workspace :=
    { world := Dict.empty.set "/sandbox/notes.txt" []
      sessions := Dict.empty }
  cache := Dict.empty

def byteAppend : FileOperation := .append "notes.txt" [0x7A]

/-- The request to append a byte. -/
def byteRequest (requestId : Int) : Bytes :=
  ((requestMessage appendTwiceHost requestId byteAppend).toOption).getD []

/-- The response to a request that comes after others. -/
def byteResponse (earlier : List Bytes) (request : Bytes) : Bytes :=
  let call (data : Bytes) : Call := ⟨"10.0.0.1:5000", data, instant 16⟩
  (AgentServer.serve appendTwiceHost policyGuard
    (AgentServer.run appendTwiceHost policyGuard emptyNotes
      (earlier.map call)) (call request)).1

/-- A clock that stands still. -/
def frozenClock (time : ℚ) : Nat → Readings × ℚ :=
  fun _ => (instant time, time)

/-- Nothing arrives during the first wait.  During the second the server
receives the first request twice, and its first response arrives; the second
response arrives while the client waits for that to the second request. -/
def lateResponses : Nat → Period
  | 2 => { events := [], sentAt := 16 }
  | 3 =>
      { events := [
          .serverReceive (dataDatagram (byteRequest 1) 1 0) 16
            (frozenClock 16),
          .receive (ackDatagram 1) 16,
          .serverReceive (dataDatagram (byteRequest 1) 1 1) 17
            (frozenClock 17),
          .receive (dataDatagram (byteResponse [] (byteRequest 1)) 1 0) 17]
        sentAt := 17 }
  | 4 => { events := [], sentAt := 18 }
  | 5 =>
      { events := [
          .receive (ackDatagram 2) 18,
          .serverReceive (ackDatagram 1) 18 (frozenClock 18),
          .serverReceive (dataDatagram (byteRequest 2) 2 2) 19
            (frozenClock 19),
          .receive (dataDatagram (byteResponse [] (byteRequest 1)) 1 1) 19,
          .serverReceive (ackDatagram 2) 19 (frozenClock 19),
          .receive (dataDatagram
            (byteResponse [byteRequest 1] (byteRequest 2)) 2 2) 20]
        sentAt := 20 }
  | _ => { events := [], sentAt := 0 }

/-- The client appends a byte twice. -/
def appendsTwice :=
  (executeAll appendTwiceHost (RudpClient.transport appendTwiceHost policyGuard
    "10.0.0.1:5000" (AnswersClient appendTwiceHost policyGuard "10.0.0.1:5000")
    lateResponses) [byteAppend, byteAppend]).run
      { world := RudpClient.new emptyNotes }

/-- The server has processed three requests, and is where two of them take
it. -/
theorem called_directly_lateResponses :
    appendsTwice.2.world.exchange.state.2.length = 3 ∧
      ∃ (calls : List Call) (messages responses : List Bytes),
        AgentServer.run appendTwiceHost policyGuard emptyNotes calls =
            appendsTwice.2.world.exchange.state.1 ∧
          dialogue appendTwiceHost policyGuard "10.0.0.1:5000" emptyNotes
            calls = messages.zip responses ∧
          messages.length = 2 := by
  have returns : appendsTwice.1.toBool = true := by decide +kernel
  obtain ⟨calls, messages, responses, direct⟩ :=
    @called_directly _ appendTwiceHost policyGuard "10.0.0.1:5000"
      lateResponses [byteAppend, byteAppend] emptyNotes rfl
  cases outcome : appendsTwice.1 with
  | error error =>
      rw [outcome] at returns
      exact absurd returns Bool.false_ne_true
  | ok results =>
      exact ⟨by decide +kernel, calls, messages, responses, direct.reached,
        direct.dialogue, (direct.read results outcome).1⟩

end Sample

end RudpAgentStack

import RudpAgentStack.Client.Handlers
import RudpAgentStack.Client.RecordedHost

/-!
# Requests over a link with delays

A client and a server with a link between them that hands over messages in
order, once each, and as late as it likes; this is what a lifetime of the RUDP
transports amounts to.  The client gives a request up after a while and sends
it again, so the server may process a request several times, also long after
the client has gone on.  While responses stay in the cache this does no harm: a
request that returns was carried out exactly once, and its response is the one
the client has read.
-/

namespace RudpAgentStack

open Foundation

/-- A client's link to the server: the requests the server has not processed,
and the responses the client has not received, the oldest first. -/
structure RequestLink (World : Type) where
  agent : AgentState World
  /-- The calls the server has processed, those of other clients included. -/
  calls : List Call := []
  requests : List Bytes := []
  responses : List Bytes := []

namespace RequestLink

variable {World : Type} (host : Host World) (guard : PolicyGuard)

/-- The client sends a message. -/
def send (link : RequestLink World) (message : Bytes) : RequestLink World :=
  { link with requests := link.requests ++ [message] }

/-- The server processes a call. -/
def process (link : RequestLink World) (call : Call) : RequestLink World :=
  { link with
    agent := (AgentServer.serve host guard link.agent call).2
    calls := link.calls ++ [call] }

/-- The server has processed the client's oldest request; an empty response is
not sent. -/
def answered
    (link : RequestLink World) (call : Call) (rest : List Bytes) :
    RequestLink World :=
  { link.process host guard call with
    requests := rest
    responses := link.responses ++
      [(AgentServer.serve host guard link.agent call).1].filter (· ≠ []) }

/-- A call comes after those before it, and soon enough when it repeats one of
them. -/
structure InTime (calls : List Call) (call : Call) : Prop where
  chronological : Chronological (calls ++ [call])
  kept : ∀ earlier ∈ calls, earlier.clientId = call.clientId →
    earlier.data = call.data →
      call.now.lookup < earlier.now.store + idempotencyTtl

instance (calls : List Call) (call : Call) :
    Decidable (InTime calls call) :=
  decidable_of_iff (Chronological (calls ++ [call]) ∧
      ∀ earlier ∈ calls, earlier.clientId = call.clientId →
        earlier.data = call.data →
          call.now.lookup < earlier.now.store + idempotencyTtl)
    ⟨fun both => ⟨both.1, both.2⟩, fun inTime => ⟨inTime.1, inTime.2⟩⟩

/-- The server answers the calls of the client. -/
def AnswersClient
    (clientId : Text) (state : AgentState World) (call : Call) : Prop :=
  call.clientId = clientId → (AgentServer.serve host guard state call).1 ≠ []

/-- What may happen by itself, with the messages the client receives: the
server processes the client's oldest request or a call of another client, and
the oldest response arrives.  Only calls that are admitted in the state of the
server take place. -/
inductive Moves
    (clientId : Text) (Admits : AgentState World → Call → Prop) :
    RequestLink World → List Bytes → RequestLink World → Prop
  | stay (link : RequestLink World) : Moves clientId Admits link [] link
  | serve {link between : RequestLink World} {received rest : List Bytes}
      {message : Bytes} (now : Readings) :
      Moves clientId Admits link received between →
      between.requests = message :: rest →
      InTime between.calls ⟨clientId, message, now⟩ →
      Admits between.agent ⟨clientId, message, now⟩ →
      Moves clientId Admits link received
        (between.answered host guard ⟨clientId, message, now⟩ rest)
  | other {link between : RequestLink World} {received : List Bytes}
      (call : Call) :
      Moves clientId Admits link received between →
      call.clientId ≠ clientId →
      Chronological (between.calls ++ [call]) →
      Admits between.agent call →
      Moves clientId Admits link received (between.process host guard call)
  | deliver {link between : RequestLink World} {received rest : List Bytes}
      {response : Bytes} :
      Moves clientId Admits link received between →
      between.responses = response :: rest →
      Moves clientId Admits link (received ++ [response])
        { between with responses := rest }

end RequestLink

/-- An asynchronous transport over such a link.  Responses that arrive while
the client does not wait are lost. -/
structure DelayedLink
    {World State : Type} (host : Host World) (guard : PolicyGuard)
    (clientId : Text) (Admits : AgentState World → Call → Prop)
    (transport : ClientTransport State) where
  view : State → RequestLink World
  isAsync : transport.isAsync = true
  send : ∀ message requestId state, ∃ received between after,
    RequestLink.Moves host guard clientId Admits (view state) received
      between ∧
    (transport.send message requestId).run state = (.ok (), after) ∧
    view after = between.send message
  delivered : ∀ state, ∃ received after,
    transport.delivered.run state = (.ok received, after) ∧
    RequestLink.Moves host guard clientId Admits (view state) received
      (view after)

/-! ## What calls do to the cache -/

/-- A lookup adds nothing. -/
theorem IdempotencyCache.get?_of_lookup
    {cache : IdempotencyCache} {key other : IdempotencyKey} {now : ℚ}
    {entry : CachedResponse}
    (present : (TtlCache.lookup idempotencyTtl cache key now).2.get? other =
      some entry) :
    cache.get? other = some entry := by
  rw [TtlCache.get?_lookup] at present
  split at present
  · next same =>
      rw [same]
      exact (Option.filter_eq_some_iff.mp present).1
  · exact present

namespace Dispatcher

variable {World : Type} {host : Host World} {guard : PolicyGuard}
  {header : AppHeader} {payload : Bytes} {now : Readings}
  {state : AgentState World}

/-- A dispatch adds no entry but that of a task under the shared key. -/
theorem get?_dispatch
    {key : IdempotencyKey} {entry : CachedResponse}
    (present : ((dispatch host guard header payload none now).run
      state).2.cache.get? key = some entry) :
    state.cache.get? key = some entry ∨
      (handlers.lookup header.opcode = some .task ∧
        key = TaskHandler.sharedKey header) := by
  cases routed : handlers.lookup header.opcode with
  | none =>
      rw [dispatch_run_unknown host guard routed] at present
      exact .inl present
  | some handler =>
  by_cases task : handler = .task
  · rw [task]
    have effect :=
      dispatch_cacheEffect host guard header payload now state
    generalize (dispatch host guard header payload none now).run state =
      dispatched at present effect
    obtain ⟨result, after⟩ := dispatched
    dsimp only at present effect
    generalize after.cache = stored at present effect
    cases effect with
    | untouched => exact .inl present
    | looked => exact .inl (IdempotencyCache.get?_of_lookup present)
    | stored response _ =>
        rw [TtlCache.get?_store] at present
        split at present
        · next same => exact .inr ⟨rfl, same⟩
        · exact .inl (IdempotencyCache.get?_of_lookup present)
  · rw [dispatch_run host guard routed,
      runHandler_cache_of_ne_task host guard header payload now task]
      at present
    exact .inl present

end Dispatcher

namespace AgentServer

variable {World : Type} {host : Host World} {guard : PolicyGuard}
  {state : AgentState World} {call : Call}

/-- Step lemma: a call adds entries under its own key, and a task under the
key of the default client. -/
theorem get?_serve
    {key : IdempotencyKey} {entry : CachedResponse}
    (present : (serve host guard state call).2.cache.get? key = some entry) :
    state.cache.get? key = some entry ∨
      ∃ header, frame? call.data = some header ∧
        (key = requestKey call.clientId header ∨
          (handlers.lookup header.opcode = some .task ∧
            key = TaskHandler.sharedKey header)) := by
  cases framed : frame? call.data with
  | none =>
      left
      rwa [serve_of_unframed host guard framed] at present
  | some header =>
  by_cases own : key = requestKey call.clientId header
  · exact .inr ⟨header, rfl, .inl own⟩
  cases answer : state.cache.answer? (requestKey call.clientId header)
      call.now.lookup with
  | some response =>
      left
      rwa [serve_of_framed host guard framed,
        processFrame_of_answer? host guard answer] at present
  | none =>
      rw [serve_of_unanswered host guard framed answer,
        get?_carryOut_of_ne host guard own] at present
      rcases Dispatcher.get?_dispatch present with earlier | shared
      · exact .inl (IdempotencyCache.get?_of_lookup earlier)
      · exact .inr ⟨header, rfl, .inr shared⟩

/-- The call is carried out: it holds a frame whose key has no answer. -/
def isCarriedOut (state : AgentState World) (call : Call) : Bool :=
  match frame? call.data with
  | some header =>
      (state.cache.answer? (requestKey call.clientId header)
        call.now.lookup).isNone
  | none => false

theorem isCarriedOut_iff :
    isCarriedOut state call = true ↔ ∃ header, frame? call.data = some header ∧
      state.cache.answer? (requestKey call.clientId header) call.now.lookup =
        none := by
  unfold isCarriedOut
  cases frame? call.data with
  | none => simp
  | some header => simp

/-- A non-empty answer to a file operation has the id of the request. -/
theorem isResponse_of_carriedOut
    {header : AppHeader} {handler : Handler}
    (framed : frame? call.data = some header)
    (routed : handlers.lookup header.opcode = some handler)
    (noTask : handler ≠ .task)
    (own : state.cache.answer? (requestKey call.clientId header)
      call.now.lookup = none)
    (responds : (serve host guard state call).1 ≠ []) :
    IsResponse header.requestId header.opcode
      (serve host guard state call).1 := by
  have acts : ∃ action, handler.fileAction? host guard
      (call.data.drop headerSize) = some action := by
    cases handler with
    | task => exact absurd rfl noTask
    | _ => exact ⟨_, rfl⟩
  obtain ⟨action, acts⟩ := acts
  rw [(serve_of_fileAction framed own routed acts).1] at responds ⊢
  exact isResponse_of_responseTo ⟨_, acts⟩ responds

end AgentServer

namespace RequestLink

variable {World : Type} {host : Host World} {guard : PolicyGuard}
  {clientId : Text} {start : AgentState World} {calls : List Call}
  {message response : Bytes}

/-! ## Requests that have been answered -/

variable (host guard clientId) in
/-- How often a request of the client is carried out. -/
def executions (message : Bytes) : AgentState World → List Call → Nat
  | _, [] => 0
  | state, call :: calls =>
      (if call.clientId = clientId ∧ call.data = message ∧
          AgentServer.isCarriedOut state call = true then 1 else 0) +
        executions message (AgentServer.serve host guard state call).2 calls

variable (host guard clientId) in
/-- The requests of the client that are carried out, with their responses. -/
def transcript : AgentState World → List Call → List (Bytes × Bytes)
  | _, [] => []
  | state, call :: calls =>
      (if call.clientId = clientId ∧
          AgentServer.isCarriedOut state call = true then
        [(call.data, (AgentServer.serve host guard state call).1)] else []) ++
        transcript (AgentServer.serve host guard state call).2 calls

theorem transcript_append_singleton
    (state : AgentState World) (calls : List Call) (call : Call) :
    transcript host guard clientId state (calls ++ [call]) =
      transcript host guard clientId state calls ++
        if call.clientId = clientId ∧
          AgentServer.isCarriedOut (AgentServer.run host guard state calls)
            call = true then
          [(call.data, (AgentServer.serve host guard
            (AgentServer.run host guard state calls) call).1)]
        else [] := by
  induction calls generalizing state with
  | nil => exact List.append_nil _
  | cons first calls inductionHypothesis =>
      rw [List.cons_append, transcript, inductionHypothesis, transcript,
        List.append_assoc]
      rfl

/-- A request is carried out as often as the transcript has it. -/
theorem executions_eq_count
    (message : Bytes) (state : AgentState World) (calls : List Call) :
    executions host guard clientId message state calls =
      ((transcript host guard clientId state calls).map
        Prod.fst).count message := by
  induction calls generalizing state with
  | nil => rfl
  | cons call calls inductionHypothesis =>
      rw [executions, transcript, List.map_append, List.count_append,
        inductionHypothesis]
      by_cases done : call.clientId = clientId ∧
          AgentServer.isCarriedOut state call = true
      · by_cases same : call.data = message
        · simp [done, same]
        · simp [done, same]
      · rw [if_neg done, if_neg fun all => done ⟨all.1, all.2.2⟩]
        rfl

/-- What the transcript has was called. -/
theorem exists_call_of_mem_transcript
    {state : AgentState World} {exchange : Bytes × Bytes}
    (listed : exchange ∈ transcript host guard clientId state calls) :
    ∃ call ∈ calls, call.clientId = clientId ∧ call.data = exchange.1 := by
  induction calls generalizing state with
  | nil => cases listed
  | cons call calls inductionHypothesis =>
      rcases List.mem_append.mp listed with first | later
      · split at first
        · next done =>
            rw [List.mem_singleton.mp first]
            exact ⟨call, List.mem_cons_self, done.1, rfl⟩
        · cases first
      · obtain ⟨other, member, own⟩ := inductionHypothesis later
        exact ⟨other, List.mem_cons_of_mem _ member, own⟩

variable (host guard start clientId) in
/-- The request has been carried out, with this response. -/
def Answered (calls : List Call) (message response : Bytes) : Prop :=
  ∃ before now later, calls = before ++ ⟨clientId, message, now⟩ :: later ∧
    AgentServer.isCarriedOut (AgentServer.run host guard start before)
      ⟨clientId, message, now⟩ = true ∧
    (AgentServer.serve host guard (AgentServer.run host guard start before)
      ⟨clientId, message, now⟩).1 = response ∧ response ≠ []

theorem Answered.concat
    (answered : Answered host guard clientId start calls message response)
    (call : Call) :
    Answered host guard clientId start (calls ++ [call]) message response := by
  obtain ⟨before, now, later, rfl, carriedOut⟩ := answered
  exact ⟨before, now, later ++ [call], by simp, carriedOut⟩

/-- An answered request that is repeated in time is answered in the same way,
and nothing else happens. -/
theorem Answered.serve_again
    (answered : Answered host guard clientId start calls message response)
    {now : Readings} (inTime : InTime calls ⟨clientId, message, now⟩) :
    AgentServer.serve host guard (AgentServer.run host guard start calls)
        ⟨clientId, message, now⟩ =
          (response, AgentServer.run host guard start calls) ∧
      AgentServer.isCarriedOut (AgentServer.run host guard start calls)
        ⟨clientId, message, now⟩ = false := by
  obtain ⟨before, first, later, rfl, carriedOut, responds, nonempty⟩ := answered
  obtain ⟨header, framed, own⟩ := AgentServer.isCarriedOut_iff.mp carriedOut
  have stored : (AgentServer.serve host guard
      (AgentServer.run host guard start before)
      ⟨clientId, message, first⟩).2.cache.get? (requestKey clientId header) =
        some ⟨response, first.store⟩ := by
    rw [← responds] at nonempty ⊢
    rw [AgentServer.serve_of_framed host guard framed] at nonempty ⊢
    obtain ⟨storedAt, present, fresh⟩ :=
      AgentServer.exists_stored_of_processFrame host guard nonempty
    rw [present, fresh own]
  have later_calls := inTime.chronological
  rw [Chronological, List.append_assoc, List.pairwise_append] at later_calls
  have chronological := (List.pairwise_cons.mp later_calls.2.1).2
  have early : now.lookup < first.store + idempotencyTtl :=
    inTime.kept ⟨clientId, message, first⟩ (by simp) rfl rfl
  have live : TtlCache.Live idempotencyTtl now.lookup
      (⟨response, first.store⟩ : CachedResponse) :=
    TtlCache.live_iff_lt_add.mpr early
  have reached : AgentServer.run host guard start
      (before ++ ⟨clientId, message, first⟩ :: later) =
        AgentServer.run host guard (AgentServer.serve host guard
          (AgentServer.run host guard start before)
          ⟨clientId, message, first⟩).2 later := by
    rw [AgentServer.run_append]
    rfl
  have answer : (AgentServer.run host guard start
      (before ++ ⟨clientId, message, first⟩ :: later)).cache.answer?
        (requestKey clientId header) now.lookup = some response := by
    rw [reached]
    exact @AgentServer.answer?_run_of_live _ host guard _
      ⟨response, first.store⟩ _ later ⟨clientId, message, now⟩ stored nonempty
      chronological live
  constructor
  · have framedAgain : frame? (⟨clientId, message, now⟩ : Call).data =
        some header := framed
    rw [AgentServer.serve_of_framed host guard framedAgain]
    exact AgentServer.processFrame_of_answer? host guard answer
  · rw [← Bool.not_eq_true, AgentServer.isCarriedOut_iff]
    rintro ⟨other, framedAgain, unanswered⟩
    rw [Option.some.inj (framed.symm.trans framedAgain)] at answer
    exact absurd (answer.symm.trans unanswered) (by simp)

/-! ## Between two requests -/

/-- The message is an envelope with one of the ids. -/
def HasId (ids : Set Int) (message : Bytes) : Prop :=
  ∃ header, frame? message = some header ∧ header.requestId ∈ ids

variable (host guard clientId start) in
/-- No request of the client is open.  What is still on its way repeats
requests that were answered, or answers them. -/
structure Settled (ids : Set Int) (link : RequestLink World) : Prop where
  agent : link.agent = AgentServer.run host guard start link.calls
  requests : ∀ message ∈ link.requests, ∃ response,
    Answered host guard clientId start link.calls message response ∧
      HasId ids response
  responses : ∀ response ∈ link.responses, HasId ids response
  called : ∀ call ∈ link.calls, call.clientId = clientId →
    HasId ids call.data
  cached : ∀ requestId opcode entry, handlers.lookup opcode ≠ some .task →
    link.agent.cache.get? (clientId, requestId, opcode) = some entry →
      requestId ∈ ids

/-! ## One request -/

/-- What a request is expected to do: carried out where one thing holds of the
workspace, it makes another hold, and calls of other clients disturb neither.
The server answers the client. -/
structure RemoteCall
    (host : Host World) (guard : PolicyGuard) (clientId : Text)
    (Admits : AgentState World → Call → Prop) (message : Bytes)
    (header : AppHeader) (before : Workspace World → Prop)
    (after : Bytes → Workspace World → Prop) : Prop where
  framed : frame? message = some header
  handled : ∃ handler, handlers.lookup header.opcode = some handler ∧
    handler ≠ .task
  answers : ∀ state call, call.clientId = clientId → Admits state call →
    (AgentServer.serve host guard state call).1 ≠ []
  carriesOut : ∀ state now, before state.workspace →
    AgentServer.isCarriedOut state ⟨clientId, message, now⟩ = true →
    (AgentServer.serve host guard state ⟨clientId, message, now⟩).1 ≠ [] →
    after (AgentServer.serve host guard state ⟨clientId, message, now⟩).1
      (AgentServer.serve host guard state
        ⟨clientId, message, now⟩).2.workspace
  keepsBefore : ∀ state call, call.clientId ≠ clientId → Admits state call →
    before state.workspace →
      before (AgentServer.serve host guard state call).2.workspace
  keepsAfter : ∀ response state call, call.clientId ≠ clientId →
    Admits state call → after response state.workspace →
      after response (AgentServer.serve host guard state call).2.workspace

variable (host guard clientId start) in
/-- A request is open.  Its progress is the response, once there is one. -/
structure Calling
    (ids : Set Int) (past : List (Bytes × Bytes)) (message : Bytes)
    (header : AppHeader) (before : Workspace World → Prop)
    (after : Bytes → Workspace World → Prop) (progress : Option Bytes)
    (link : RequestLink World) : Prop where
  agent : link.agent = AgentServer.run host guard start link.calls
  requests : ∀ other ∈ link.requests, other = message ∨ ∃ response,
    Answered host guard clientId start link.calls other response ∧
      HasId ids response
  responses : ∀ response ∈ link.responses,
    HasId ids response ∨ progress = some response
  called : ∀ call ∈ link.calls, call.clientId = clientId →
    HasId ids call.data ∨ (call.data = message ∧ progress.isSome = true)
  cached : ∀ requestId opcode entry, handlers.lookup opcode ≠ some .task →
    link.agent.cache.get? (clientId, requestId, opcode) = some entry →
      requestId ∈ ids ∨
        (requestId = header.requestId ∧ progress.isSome = true)
  waiting : progress = none → before link.agent.workspace
  answered : ∀ response, progress = some response →
    after response link.agent.workspace ∧
      Answered host guard clientId start link.calls message response ∧
      IsResponse header.requestId header.opcode response
  done : transcript host guard clientId start link.calls =
    past ++ (progress.map (Prod.mk message)).toList
  unrepeated : message ∉ past.map Prod.fst

variable
  {Admits : AgentState World → Call → Prop} {ids : Set Int}
  {past : List (Bytes × Bytes)} {header : AppHeader}
  {before : Workspace World → Prop} {after : Bytes → Workspace World → Prop}
  {link : RequestLink World} {progress : Option Bytes}

/-- A link on which nothing has happened yet is settled. -/
theorem settled_new (empty : start.cache = .empty) :
    Settled host guard clientId start ∅ { agent := start } where
  agent := rfl
  requests := fun _ listed => absurd listed List.not_mem_nil
  responses := fun _ listed => absurd listed List.not_mem_nil
  called := fun _ listed => absurd listed List.not_mem_nil
  cached := by
    intro requestId opcode entry _ present
    rw [empty] at present
    cases present

theorem HasId.mono {others : Set Int}
    (hasId : HasId ids message) (subset : ids ⊆ others) :
    HasId others message := by
  obtain ⟨header, framed, used⟩ := hasId
  exact ⟨header, framed, subset used⟩

/-- Ids may count as used. -/
theorem Settled.mono {others : Set Int}
    (settled : Settled host guard clientId start ids link)
    (subset : ids ⊆ others) :
    Settled host guard clientId start others link where
  agent := settled.agent
  requests := by
    intro message listed
    obtain ⟨response, answered, hasId⟩ := settled.requests message listed
    exact ⟨response, answered, hasId.mono subset⟩
  responses := fun response listed =>
    (settled.responses response listed).mono subset
  called := fun call listed own =>
    (settled.called call listed own).mono subset
  cached := fun requestId opcode entry noTask present =>
    subset (settled.cached requestId opcode entry noTask present)

/-- A new request is sent from a settled link. -/
theorem Settled.calling
    (settled : Settled host guard clientId start ids link)
    (framed : frame? message = some header) (fresh : header.requestId ∉ ids)
    (holds : before link.agent.workspace) :
    Calling host guard clientId start ids
      (transcript host guard clientId start link.calls) message header before
      after none link where
  agent := settled.agent
  requests := fun other listed => .inr (settled.requests other listed)
  responses := fun response listed => .inl (settled.responses response listed)
  called := fun call listed own => .inl (settled.called call listed own)
  cached := fun requestId opcode entry noTask present =>
    .inl (settled.cached requestId opcode entry noTask present)
  waiting := fun _ => holds
  answered := fun _ same => absurd same (by simp)
  done := (List.append_nil _).symm
  unrepeated := by
    intro repeated
    obtain ⟨exchange, listed, same⟩ := List.mem_map.mp repeated
    obtain ⟨call, called, own, data⟩ := exists_call_of_mem_transcript listed
    obtain ⟨other, framedOther, used⟩ := settled.called call called own
    rw [data, same, framed] at framedOther
    apply fresh
    rwa [Option.some.inj framedOther]

/-- The client sends the request once more. -/
theorem Calling.send
    (calling : Calling host guard clientId start ids past message header before
      after progress link) :
    Calling host guard clientId start ids past message header before after
      progress
      (link.send message) where
  agent := calling.agent
  requests := by
    intro other listed
    rcases List.mem_append.mp listed with earlier | last
    · exact calling.requests other earlier
    · exact .inl (List.mem_singleton.mp last)
  responses := calling.responses
  called := calling.called
  cached := calling.cached
  waiting := calling.waiting
  answered := calling.answered
  done := calling.done
  unrepeated := calling.unrepeated

/-- A response arrives. -/
theorem Calling.deliver
    (calling : Calling host guard clientId start ids past message header before
      after progress link)
    {rest : List Bytes} (oldest : link.responses = response :: rest) :
    Calling host guard clientId start ids past message header before after
      progress
      { link with responses := rest } where
  agent := calling.agent
  requests := calling.requests
  responses := by
    intro other listed
    apply calling.responses
    rw [oldest]
    exact List.mem_cons_of_mem _ listed
  called := calling.called
  cached := calling.cached
  waiting := calling.waiting
  answered := calling.answered
  done := calling.done
  unrepeated := calling.unrepeated

/-- The server processes a call of another client. -/
theorem Calling.other
    (remote : RemoteCall host guard clientId Admits message header before
      after)
    (calling : Calling host guard clientId start ids past message header before
      after progress link)
    {call : Call} (foreign : call.clientId ≠ clientId)
    (admitted : Admits link.agent call) :
    Calling host guard clientId start ids past message header before after
      progress
      (link.process host guard call) where
  agent := by
    rw [process, AgentServer.run_append_singleton, ← calling.agent]
  requests := by
    intro other listed
    refine (calling.requests other listed).imp_right ?_
    rintro ⟨response, answered, hasId⟩
    exact ⟨response, answered.concat call, hasId⟩
  responses := calling.responses
  called := by
    intro other listed own
    rcases List.mem_append.mp listed with earlier | last
    · exact calling.called other earlier own
    · rw [List.mem_singleton.mp last] at own
      exact absurd own foreign
  cached := by
    intro requestId opcode entry noTask present
    rcases AgentServer.get?_serve present with
      earlier | ⟨other, _, own | ⟨task, shared⟩⟩
    · exact calling.cached requestId opcode entry noTask earlier
    · exact absurd (congrArg Prod.fst own).symm foreign
    · have sameOpcode : opcode = other.opcode :=
        congrArg (fun key => key.2.2) shared
      exact absurd (sameOpcode ▸ task) noTask
  waiting := fun open_ =>
    remote.keepsBefore _ call foreign admitted (calling.waiting open_)
  answered := by
    intro response responded
    obtain ⟨holds, answered, isResponse⟩ :=
      calling.answered response responded
    exact ⟨remote.keepsAfter response _ call foreign admitted holds,
      answered.concat call, isResponse⟩
  done := by
    rw [process, transcript_append_singleton, calling.done, if_neg]
    · exact List.append_nil _
    · exact fun both => foreign both.1
  unrepeated := calling.unrepeated

theorem Answered.nonempty
    (answered : Answered host guard clientId start calls message response) :
    response ≠ [] := by
  obtain ⟨_, _, _, _, _, _, nonempty⟩ := answered
  exact nonempty

/-- The server processes a request that it has answered before. -/
theorem Calling.repeated
    (calling : Calling host guard clientId start ids past message header before
      after progress link)
    {oldest : Bytes} {rest : List Bytes}
    (first : link.requests = oldest :: rest)
    (answered : Answered host guard clientId start link.calls oldest response)
    (known : HasId ids response ∨ progress = some response)
    (called : HasId ids oldest ∨ (oldest = message ∧ progress.isSome = true))
    {now : Readings} (inTime : InTime link.calls ⟨clientId, oldest, now⟩) :
    Calling host guard clientId start ids past message header before after
      progress
      (link.answered host guard ⟨clientId, oldest, now⟩ rest) := by
  obtain ⟨served, notCarriedOut⟩ := answered.serve_again inTime
  rw [← calling.agent] at served
  have agentKept : (link.answered host guard ⟨clientId, oldest, now⟩
      rest).agent = link.agent := by
    rw [RequestLink.answered, process, served]
  have responsesNow : (link.answered host guard ⟨clientId, oldest, now⟩
      rest).responses = link.responses ++ [response] := by
    rw [RequestLink.answered, served]
    simp [answered.nonempty]
  constructor
  · rw [RequestLink.answered, process, AgentServer.run_append_singleton,
      ← calling.agent]
  · intro other listed
    have earlier : other ∈ link.requests := by
      rw [first]
      exact List.mem_cons_of_mem _ listed
    refine (calling.requests other earlier).imp_right ?_
    rintro ⟨response, answered, hasId⟩
    exact ⟨response, answered.concat _, hasId⟩
  · intro other listed
    rw [responsesNow] at listed
    rcases List.mem_append.mp listed with earlier | last
    · exact calling.responses other earlier
    · rw [List.mem_singleton.mp last]
      exact known
  · intro call listed own
    rcases List.mem_append.mp listed with earlier | last
    · exact calling.called call earlier own
    · rw [List.mem_singleton.mp last]
      exact called
  · rw [agentKept]
    exact calling.cached
  · rw [agentKept]
    exact calling.waiting
  · intro response responded
    rw [agentKept]
    obtain ⟨holds, answered, isResponse⟩ :=
      calling.answered response responded
    exact ⟨holds, answered.concat _, isResponse⟩
  · rw [RequestLink.answered, process, transcript_append_singleton,
      calling.done, notCarriedOut]
    simp
  · exact calling.unrepeated

/-- The server processes the request for the first time. -/
theorem Calling.first
    (remote : RemoteCall host guard clientId Admits message header before
      after)
    (fresh : header.requestId ∉ ids)
    (calling : Calling host guard clientId start ids past message header before
      after none link)
    {rest : List Bytes} (oldest : link.requests = message :: rest)
    {now : Readings} (admitted : Admits link.agent ⟨clientId, message, now⟩) :
    Calling host guard clientId start ids past message header before after
      (some (AgentServer.serve host guard link.agent
        ⟨clientId, message, now⟩).1)
      (link.answered host guard ⟨clientId, message, now⟩ rest) := by
  obtain ⟨handler, routed, noTask⟩ := remote.handled
  have notTask : handlers.lookup header.opcode ≠ some .task := by
    rw [routed]
    exact fun same => noTask (Option.some.inj same)
  have responds := remote.answers link.agent ⟨clientId, message, now⟩ rfl
    admitted
  have unanswered : link.agent.cache.answer? (requestKey clientId header)
      now.lookup = none := by
    by_contra answered
    obtain ⟨response, answer⟩ := Option.ne_none_iff_exists'.mp answered
    obtain ⟨found, _⟩ := IdempotencyCache.answer?_eq_some_iff.mp answer
    obtain ⟨entry, present, _, _⟩ := TtlCache.find?_eq_some_iff.mp found
    rcases calling.cached _ _ entry notTask present with used | ⟨_, done⟩
    · exact fresh used
    · exact absurd done (by simp)
  have carriedOut : AgentServer.isCarriedOut link.agent
      ⟨clientId, message, now⟩ = true :=
    AgentServer.isCarriedOut_iff.mpr ⟨header, remote.framed, unanswered⟩
  have performed := remote.carriesOut link.agent now (calling.waiting rfl)
    carriedOut responds
  constructor
  · rw [RequestLink.answered, process, AgentServer.run_append_singleton,
      ← calling.agent]
  · intro other listed
    have earlier : other ∈ link.requests := by
      rw [oldest]
      exact List.mem_cons_of_mem _ listed
    refine (calling.requests other earlier).imp_right ?_
    rintro ⟨response, answered, hasId⟩
    exact ⟨response, answered.concat _, hasId⟩
  · intro other listed
    rcases List.mem_append.mp listed with earlier | last
    · exact (calling.responses other earlier).imp_right
        fun done => absurd done (by simp)
    · right
      rw [List.mem_singleton.mp (List.mem_of_mem_filter last)]
  · intro call listed own
    rcases List.mem_append.mp listed with earlier | last
    · exact (calling.called call earlier own).imp_right
        fun done => absurd done.2 (by simp)
    · rw [List.mem_singleton.mp last]
      exact .inr ⟨rfl, rfl⟩
  · intro requestId opcode entry noTask present
    rcases AgentServer.get?_serve present with
      earlier | ⟨other, framed, own | ⟨task, shared⟩⟩
    · exact (calling.cached requestId opcode entry noTask earlier).imp_right
        fun done => absurd done.2 (by simp)
    · right
      have same : other = header :=
        Option.some.inj (framed.symm.trans remote.framed)
      rw [same] at own
      exact ⟨congrArg (fun key => key.2.1) own, rfl⟩
    · have sameOpcode : opcode = other.opcode :=
        congrArg (fun key => key.2.2) shared
      exact absurd (sameOpcode ▸ task) noTask
  · exact fun open_ => absurd open_ (by simp)
  · rintro response responded
    rw [← Option.some.inj responded]
    refine ⟨performed, ⟨link.calls, now, [], rfl, ?_, ?_, responds⟩, ?_⟩
    · rwa [← calling.agent]
    · rw [← calling.agent]
    · exact AgentServer.isResponse_of_carriedOut remote.framed routed noTask
        unanswered responds
  · rw [RequestLink.answered, process, transcript_append_singleton,
      calling.done, ← calling.agent, carriedOut]
    simp
  · exact calling.unrepeated

/-- The server processes the oldest request. -/
theorem Calling.serve
    (remote : RemoteCall host guard clientId Admits message header before
      after)
    (fresh : header.requestId ∉ ids)
    (calling : Calling host guard clientId start ids past message header before
      after progress link)
    {oldest : Bytes} {rest : List Bytes}
    (first : link.requests = oldest :: rest) {now : Readings}
    (inTime : InTime link.calls ⟨clientId, oldest, now⟩)
    (admitted : Admits link.agent ⟨clientId, oldest, now⟩) :
    ∃ later, (∀ response, progress = some response →
        later = some response) ∧
      Calling host guard clientId start ids past message header before after
        later (link.answered host guard ⟨clientId, oldest, now⟩ rest) := by
  have listed : oldest ∈ link.requests := by
    rw [first]
    exact List.mem_cons_self
  rcases calling.requests oldest listed with rfl | ⟨response, answered, hasId⟩
  · cases progress with
    | none => exact ⟨_, nofun, calling.first remote fresh first admitted⟩
    | some response =>
        obtain ⟨_, answered, _⟩ := calling.answered response rfl
        exact ⟨some response, fun _ same => same,
          calling.repeated first answered (.inr rfl) (.inr ⟨rfl, rfl⟩)
            inTime⟩
  · have called : HasId ids oldest ∨
        (oldest = message ∧ progress.isSome = true) := by
      obtain ⟨earlier, first, later, calls_eq, _⟩ := answered
      refine calling.called ⟨clientId, oldest, first⟩ ?_ rfl
      rw [calls_eq]
      exact List.mem_append_right _ List.mem_cons_self
    exact ⟨progress, fun _ same => same,
      calling.repeated first answered (.inl hasId) called inTime⟩

/-- Run lemma: whatever happens while the request is open, the messages that
arrive answer it or an earlier one. -/
theorem Calling.moves
    (remote : RemoteCall host guard clientId Admits message header before
      after)
    (fresh : header.requestId ∉ ids) {later : RequestLink World}
    {received : List Bytes}
    (moves : Moves host guard clientId Admits link received later)
    (calling : Calling host guard clientId start ids past message header before
      after progress link) :
    ∃ reached, (∀ response, progress = some response →
        reached = some response) ∧
      Calling host guard clientId start ids past message header before after
        reached later ∧
      ∀ response ∈ received, HasId ids response ∨ reached = some response := by
  induction moves with
  | stay => exact ⟨progress, fun _ same => same, calling, by simp⟩
  | serve now _ oldest inTime admitted inductionHypothesis =>
      obtain ⟨reached, kept, between, arrived⟩ := inductionHypothesis
      obtain ⟨next, keptNext, served⟩ :=
        between.serve remote fresh oldest inTime admitted
      exact ⟨next, fun response same => keptNext response (kept response same),
        served, fun response listed =>
          (arrived response listed).imp_right (keptNext response)⟩
  | other call _ foreign _ admitted inductionHypothesis =>
      obtain ⟨reached, kept, between, arrived⟩ := inductionHypothesis
      exact ⟨reached, kept, between.other remote foreign admitted, arrived⟩
  | deliver _ oldest inductionHypothesis =>
      obtain ⟨reached, kept, between, arrived⟩ := inductionHypothesis
      refine ⟨reached, kept, between.deliver oldest, ?_⟩
      rw [List.forall_mem_append, List.forall_mem_singleton]
      refine ⟨arrived, between.responses _ ?_⟩
      rw [oldest]
      exact List.mem_cons_self

/-- The request has been carried out once if it has been answered, and not at
all otherwise. -/
theorem Calling.executions_eq
    (calling : Calling host guard clientId start ids past message header before
      after progress link) :
    executions host guard clientId message start link.calls =
      if progress.isSome = true then 1 else 0 := by
  rw [executions_eq_count, calling.done, List.map_append, List.count_append,
    List.count_eq_zero.mpr calling.unrepeated]
  cases progress <;> simp

/-- Once the request is answered the link is settled again. -/
theorem Calling.settled
    (calling : Calling host guard clientId start ids past message header before
      after (some response) link)
    (framed : frame? message = some header) :
    Settled host guard clientId start (insert header.requestId ids) link where
  agent := calling.agent
  requests := by
    intro other listed
    rcases calling.requests other listed with
      rfl | ⟨response, answered, named, framed, used⟩
    · obtain ⟨_, answered, named, framed, same, _⟩ :=
        calling.answered response rfl
      exact ⟨response, answered, named, framed, .inl same⟩
    · exact ⟨response, answered, named, framed, .inr used⟩
  responses := by
    intro other listed
    rcases calling.responses other listed with ⟨named, framed, used⟩ | same
    · exact ⟨named, framed, .inr used⟩
    · obtain ⟨_, _, named, framed, same, _⟩ := calling.answered other same
      exact ⟨named, framed, .inl same⟩
  called := by
    intro call listed own
    rcases calling.called call listed own with
      ⟨named, framed, used⟩ | ⟨same, _⟩
    · exact ⟨named, framed, .inr used⟩
    · rw [same]
      exact ⟨header, framed, .inl rfl⟩
  cached := by
    intro requestId opcode entry noTask present
    rcases calling.cached requestId opcode entry noTask present with
      used | ⟨same, _⟩
    · exact .inr used
    · exact .inl same

end RequestLink

/-! ## The loop of the client -/

namespace AgentClient

open RequestLink

variable {World State : Type} {host : Host World} {guard : PolicyGuard}
  {clientId : Text} {start : AgentState World}
  {Admits : AgentState World → Call → Prop} {ids : Set Int}
  {past : List (Bytes × Bytes)} {message : Bytes} {header : AppHeader}
  {before : Workspace World → Prop} {after : Bytes → Workspace World → Prop}
  {progress : Option Bytes} {transport : ClientTransport State}
  (link : DelayedLink host guard clientId Admits transport)
  (remote : RemoteCall host guard clientId Admits message header before after)
  (fresh : header.requestId ∉ ids)

/-- What the client takes for the response is one of the messages that arrive,
and has the id of the request. -/
theorem mem_of_onMessageReceived
    {requestId : Int} {messages : List Bytes} {first : Option Bytes}
    {response : Bytes}
    (taken : messages.foldl (onMessageReceived requestId) first =
      some response) :
    first = some response ∨ (response ∈ messages ∧ ∃ header,
      decodeHeader (response.take headerSize) = .ok header ∧
        header.requestId = requestId) := by
  induction messages generalizing first with
  | nil => exact .inl taken
  | cons message messages inductionHypothesis =>
      rw [List.foldl_cons] at taken
      rcases inductionHypothesis taken with received | ⟨listed, hasId⟩
      · unfold onMessageReceived at received
        split at received
        · exact .inl received
        · split at received
          · next header decoded =>
              split at received
              · next same =>
                  right
                  rw [← Option.some.inj received]
                  exact ⟨List.mem_cons_self, header, decoded, same⟩
              · exact .inl received
          · exact .inl received
      · exact .inr ⟨List.mem_cons_of_mem _ listed, hasId⟩

/-- The outcome of a part of the loop: the request stays open, and a result
is what the response says. -/
def Attempted
    (host : Host World) (guard : PolicyGuard) (clientId : Text)
    (start : AgentState World) (ids : Set Int) (past : List (Bytes × Bytes))
    (message : Bytes) (header : AppHeader) (before : Workspace World → Prop)
    (after : Bytes → Workspace World → Prop) (result : Except PyError Response)
    (link : RequestLink World) : Prop :=
  ∃ progress, Calling host guard clientId start ids past message header before
      after progress link ∧
    ∀ decoded, result = .ok decoded → ∃ response, progress = some response ∧
      decodeResponse host response = .ok decoded

/-- An attempt that raises leaves the request open. -/
theorem Attempted.of_error
    {error : PyError} {link : RequestLink World}
    (calling : Calling host guard clientId start ids past message header before
      after progress link) :
    Attempted host guard clientId start ids past message header before after
      (.error error) link := by
  refine ⟨progress, calling, fun decoded same => ?_⟩
  cases same

include remote fresh in
/-- One round. -/
theorem exchangeAsync_attempted {state : State}
    (calling : Calling host guard clientId start ids past message header before
      after progress (link.view state)) :
    Attempted host guard clientId start ids past message header before after
      ((exchangeAsync host transport header.requestId message).run state).1
      (link.view
        ((exchangeAsync host transport header.requestId message).run
          state).2) := by
  obtain ⟨missed, between, sent, moves, sending, sent_eq⟩ :=
    link.send message header.requestId state
  obtain ⟨first, _, opened, _⟩ := calling.moves remote fresh moves
  have resent := opened.send
  rw [← sent_eq] at resent
  obtain ⟨received, waited, waiting, moves⟩ := link.delivered sent
  obtain ⟨reached, _, open_, arrived⟩ := resent.moves remote fresh moves
  unfold exchangeAsync
  simp only [Action.run_bind, sending, waiting]
  cases taken : received.foldl (onMessageReceived header.requestId) none with
  | none => exact .of_error open_
  | some response =>
      refine ⟨reached, open_, ?_⟩
      intro decoded read
      change decodeResponse host response = .ok decoded at read
      refine ⟨response, ?_, read⟩
      rcases mem_of_onMessageReceived taken with
        missing | ⟨listed, other, decodedHeader, same⟩
      · exact absurd missing (by simp)
      rcases arrived response listed with ⟨named, framed, used⟩ | done
      · have named_eq := (decodeHeader_of_frame? framed).1
        rw [decodedHeader] at named_eq
        rw [← Except.ok.inj named_eq, same] at used
        exact absurd used fresh
      · exact done

include remote fresh in
/-- The loop: however many rounds are left, the request stays open until it is
answered. -/
theorem sendLoop_attempted {opcode : Int} {payload : Bytes}
    (encoded : encodeMessage opcode 0 header.requestId payload = .ok message)
    (left : Nat) {progress : Option Bytes} {state : State}
    (calling : Calling host guard clientId start ids past message header before
      after progress (link.view state)) :
    Attempted host guard clientId start ids past message header before after
      ((sendLoop host transport opcode header.requestId payload left).run
        state).1
      (link.view ((sendLoop host transport opcode header.requestId payload
        left).run state).2) := by
  have round : attempt host transport opcode header.requestId payload =
      exchangeAsync host transport header.requestId message := by
    unfold attempt
    rw [encoded, link.isAsync]
    rfl
  induction left generalizing progress state with
  | zero => exact .of_error calling
  | succ left inductionHypothesis =>
      have attempted :=
        exchangeAsync_attempted link remote fresh calling
      rw [sendLoop, Action.run_tryCatch, round]
      generalize (exchangeAsync host transport header.requestId message).run
        state = outcome at attempted
      obtain ⟨error | decoded, reached⟩ := outcome
      · obtain ⟨later, open_, _⟩ := attempted
        dsimp only
        split
        · -- an asynchronous transport is not closed
          rw [link.isAsync]
          exact inductionHypothesis open_
        · exact .of_error open_
      · exact attempted

/-- A request that cannot be encoded does not return. -/
theorem sendLoop_of_unencoded
    {requestId opcode : Int} {payload : Bytes} {error : PyError}
    (refused : encodeMessage opcode 0 requestId payload = .error error)
    (left : Nat) (state : State) {decoded : Response} :
    ((sendLoop host transport opcode requestId payload left).run state).1 ≠
      .ok decoded := by
  have raised (error : PyError) :
      (.error error : Except PyError Response) ≠ .ok decoded := nofun
  have round : ∀ state, (attempt host transport opcode requestId payload).run
      state = (.error error, state) := by
    intro state
    rw [attempt, refused]
    rfl
  induction left generalizing state with
  | zero => exact raised _
  | succ left inductionHypothesis =>
      rw [sendLoop, Action.run_tryCatch, round]
      dsimp only
      split
      · split
        · exact inductionHypothesis state
        · rw [Action.run_bind]
          generalize transport.close.run state = closed
          obtain ⟨error | _, after⟩ := closed
          · exact raised error
          · exact inductionHypothesis after
      · exact raised error

variable {spec : ClientRequestSpec} {client : AgentClient State}
  {payload : Bytes}

/-- A request that returns was encoded. -/
theorem encoded_of_sendRequestSpec {decoded : Response}
    (returns : ((sendRequestSpec host transport spec).run client).1 =
      .ok decoded) :
    ∃ payload message, payloadOf host spec = .ok payload ∧
      encodeMessage spec.opcode 0 client.nextId payload = .ok message := by
  cases payloaded : payloadOf host spec with
  | error error =>
      rw [sendRequestSpec, payloaded] at returns
      cases returns
  | ok payload =>
  rw [sendRequestSpec_eq_sendLoop payloaded] at returns
  cases encoded : encodeMessage spec.opcode 0 client.nextId payload with
  | error error => exact absurd returns (sendLoop_of_unencoded encoded _ _)
  | ok message => exact ⟨payload, message, rfl, encoded⟩

include remote in
/-- A request of the client, sent from a settled link. -/
theorem sendRequestSpec_attempted
    (payloaded : payloadOf host spec = .ok payload)
    (encoded : encodeMessage spec.opcode 0 client.nextId payload = .ok message)
    (unused : client.nextId ∉ ids)
    (settled : Settled host guard clientId start ids (link.view client.world))
    (holds : before (link.view client.world).agent.workspace) :
    Attempted host guard clientId start ids
      (transcript host guard clientId start (link.view client.world).calls)
      message header before after
      ((sendRequestSpec host transport spec).run client).1
      (link.view ((sendRequestSpec host transport spec).run
        client).2.world) := by
  have same : header.requestId = client.nextId := by
    have framed := remote.framed
    rw [(frame?_of_encodeMessage encoded).1] at framed
    rw [← Option.some.inj framed]
  rw [← same] at encoded unused
  rw [sendRequestSpec_eq_sendLoop payloaded, ← same]
  exact sendLoop_attempted link remote unused encoded _
    (settled.calling remote.framed unused holds)

/-! ## Carried out once -/

/-- The link once the client has made a request. -/
def requested
    (view : State → RequestLink World) (host : Host World)
    (transport : ClientTransport State) (spec : ClientRequestSpec)
    (client : AgentClient State) : RequestLink World :=
  view ((sendRequestSpec host transport spec).run client).2.world

/-- Nothing is known of the workspace but that the server answers. -/
theorem remoteCall_answering
    (framed : frame? message = some header)
    (handled : ∃ handler, handlers.lookup header.opcode = some handler ∧
      handler ≠ .task) :
    RemoteCall host guard clientId (AnswersClient host guard clientId) message
      header (fun _ => True) (fun _ _ => True) where
  framed := framed
  handled := handled
  answers := fun _ _ own answers => answers own
  carriesOut := fun _ _ _ _ _ => trivial
  keepsBefore := fun _ _ _ _ _ => trivial
  keepsAfter := fun _ _ _ _ _ _ => trivial

/-- A request for files is carried out at most once, however often the client
repeats it and the server processes it; if it returns then exactly once, and
with the result that the server has sent. -/
theorem carried_out_once
    (link : DelayedLink host guard clientId
      (AnswersClient host guard clientId) transport)
    {handler : Handler} (routed : handlers.lookup spec.opcode = some handler)
    (noTask : handler ≠ .task)
    (payloaded : payloadOf host spec = .ok payload)
    (encoded : encodeMessage spec.opcode 0 client.nextId payload = .ok message)
    (unused : client.nextId ∉ ids)
    (settled :
      Settled host guard clientId start ids (link.view client.world)) :
    executions host guard clientId message start
        (requested link.view host transport spec client).calls ≤ 1 ∧
      ∀ decoded, ((sendRequestSpec host transport spec).run client).1 =
          .ok decoded →
        executions host guard clientId message start
            (requested link.view host transport spec client).calls = 1 ∧
          ∃ response, Answered host guard clientId start
              (requested link.view host transport spec client).calls message
              response ∧
            decodeResponse host response = .ok decoded ∧
            Settled host guard clientId start (insert client.nextId ids)
              (requested link.view host transport spec client) := by
  have framed := (frame?_of_encodeMessage encoded).1
  obtain ⟨progress, calling, reads⟩ := sendRequestSpec_attempted link
    (remoteCall_answering framed ⟨handler, routed, noTask⟩) payloaded encoded
    unused settled trivial
  constructor
  · rw [requested, calling.executions_eq]
    split <;> omega
  · intro decoded returns
    obtain ⟨response, rfl, read⟩ := reads decoded returns
    obtain ⟨_, answered, _⟩ := calling.answered response rfl
    exact ⟨calling.executions_eq, response, answered, read,
      calling.settled framed⟩

end AgentClient

/-! ## A slow link -/

namespace Sample

open AgentClient RequestLink MemoryHost

/-- A link, and how often the client has waited on it. -/
structure SlowLink (World : Type) where
  link : RequestLink World
  waits : Nat := 0

namespace SlowLink

variable {World : Type} (host : Host World) (guard : PolicyGuard)
  (clientId : Text)

/-- The server processes the oldest request if it may, and the oldest response
arrives. -/
def answerOldest (now : Readings) (link : RequestLink World) :
    RequestLink World × List Bytes :=
  match link.requests with
  | [] => (link, [])
  | message :: rest =>
      let call : Call := ⟨clientId, message, now⟩
      if InTime link.calls call ∧
          (AgentServer.serve host guard link.agent call).1 ≠ [] then
        let served := link.answered host guard call rest
        match served.responses with
        | [] => (served, [])
        | response :: responses => ({ served with responses }, [response])
      else (link, [])

/-- The first wait is too short for a response.  In each of the others the
server processes two requests. -/
def transport : ClientTransport (SlowLink World) where
  isAsync := true
  send := fun message _ =>
    modify fun slow => { slow with link := slow.link.send message }
  delivered := ExceptT.mk fun slow =>
    if slow.waits = 0 then (.ok [], { slow with waits := 1 })
    else
      let now := instant (15 * slow.waits)
      let (first, received) := answerOldest host guard clientId now slow.link
      let (second, more) := answerOldest host guard clientId now first
      (.ok (received ++ more),
        { link := second, waits := slow.waits + 1 })
  sendBytes := fun _ => throw ⟨.osError, "not connected"⟩
  receiveExact := fun _ => throw ⟨.osError, "not connected"⟩
  close := return

variable {host guard clientId} {Admits : AgentState World → Call → Prop}
  (allows : ∀ state call, call.clientId = clientId →
    (AgentServer.serve host guard state call).1 ≠ [] → Admits state call)

include allows in
theorem answerOldest_moves
    (now : Readings) {link between : RequestLink World}
    {received : List Bytes}
    (moves : Moves host guard clientId Admits link received between) :
    Moves host guard clientId Admits link
      (received ++ (answerOldest host guard clientId now between).2)
      (answerOldest host guard clientId now between).1 := by
  unfold answerOldest
  split
  · rwa [List.append_nil]
  · next message rest oldest =>
      dsimp only
      split_ifs with processed
      · have served := moves.serve now oldest processed.1
          (allows _ _ rfl processed.2)
        split
        · rwa [List.append_nil]
        · next response responses first => exact served.deliver first
      · rwa [List.append_nil]

/-- It is a link with delays, whatever else other clients may do. -/
def delayed :
    DelayedLink host guard clientId Admits (transport host guard clientId) where
  view := SlowLink.link
  isAsync := rfl
  send := fun message requestId slow =>
    ⟨[], slow.link, { slow with link := slow.link.send message },
      .stay slow.link, rfl, rfl⟩
  delivered := by
    intro slow
    by_cases first : slow.waits = 0
    · refine ⟨[], { slow with waits := 1 }, ?_, .stay slow.link⟩
      exact if_pos first
    · refine ⟨_, _, if_neg first, ?_⟩
      have moves := answerOldest_moves allows (instant (15 * slow.waits))
        (.stay slow.link)
      rw [List.nil_append] at moves
      exact answerOldest_moves allows (instant (15 * slow.waits)) moves

end SlowLink

/-- A host that can append to the file of the sample. -/
def appendHost : Host Files :=
  recordedHost
    [appendData,
      ResponseBuilder.statusDict 200 none
        (.object [("filename", .string "notes.txt"), ("new_size", .int 1)])]
    []

/-- A client before its first request. -/
def appendClient : AgentClient (SlowLink Files) where
  world :=
    { link := {
        agent := {
          workspace := {
            world := Dict.empty.set "/sandbox/notes.txt" []
            sessions := Dict.empty }
          cache := Dict.empty } } }

/-- The request to append a byte. -/
def appendSpec : ClientRequestSpec :=
  AppendHandler.buildRequest "notes.txt" [0x7A]

/-- The message that asks for it. -/
def appendMessage : Bytes :=
  message opAppend 1 (payloadOf appendHost appendSpec)

/-- The slow link to the host. -/
abbrev slowTransport : ClientTransport (SlowLink MemoryHost.Files) :=
  SlowLink.transport appendHost policyGuard "10.0.0.1:5000"

/-- It answers every call of the client that it processes. -/
def slowLink :
    DelayedLink appendHost policyGuard "10.0.0.1:5000"
      (AnswersClient appendHost policyGuard "10.0.0.1:5000") slowTransport :=
  SlowLink.delayed fun _ _ _ answered _ => answered

/-- The request that is sent twice is carried out once. -/
theorem carried_out_once_slowLink :
    (requested SlowLink.link appendHost slowTransport appendSpec
        appendClient).calls.length = 2 ∧
      executions appendHost policyGuard "10.0.0.1:5000" appendMessage
        appendClient.world.link.agent
        (requested SlowLink.link appendHost slowTransport appendSpec
          appendClient).calls = 1 := by
  have returns : ((sendRequestSpec appendHost slowTransport appendSpec).run
      appendClient).1.toBool = true := by decide +kernel
  cases outcome : ((sendRequestSpec appendHost slowTransport appendSpec).run
      appendClient).1 with
  | error error =>
      rw [outcome] at returns
      exact absurd returns Bool.false_ne_true
  | ok decoded =>
      have once := carried_out_once slowLink
        (rfl : handlers.lookup opAppend = some .append) (by decide)
        (rfl : payloadOf appendHost appendSpec = .ok _)
        (rfl : encodeMessage opAppend 0 appendClient.nextId _ =
          .ok appendMessage)
        (Set.notMem_empty _) (settled_new rfl)
      exact ⟨by decide +kernel, (once.2 decoded outcome).1⟩

end Sample

end RudpAgentStack

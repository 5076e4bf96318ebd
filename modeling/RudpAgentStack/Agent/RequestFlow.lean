import RudpAgentStack.Agent.Server

/-!
# How a request flows through the two caches

A request is answered from the cache under its own key, or, a task, under the
key of the default client, or it is carried out.  The lemmas here say for each
of the three ways what the request returns and which cache entries it changes.
-/

namespace RudpAgentStack

open Foundation

variable {World : Type} (host : Host World) (guard : PolicyGuard)

/-! ## Answers from the cache -/

/-- The response with which a key is answered from the cache: the live entry,
unless it is empty. -/
def IdempotencyCache.answer?
    (cache : IdempotencyCache) (key : IdempotencyKey) (now : ℚ) :
    Option Bytes :=
  (TtlCache.find? idempotencyTtl cache key now).filter (decide <| · ≠ [])

namespace IdempotencyCache

theorem answer?_eq_some_iff
    {cache : IdempotencyCache} {key : IdempotencyKey} {now : ℚ}
    {response : Bytes} :
    cache.answer? key now = some response ↔
      TtlCache.find? idempotencyTtl cache key now = some response ∧
        response ≠ [] := by
  simp [answer?, Option.filter_eq_some_iff]

theorem answer?_empty (key : IdempotencyKey) (now : ℚ) :
    answer? .empty key now = none := rfl

/-- A non-empty response is the answer of its key until it expires. -/
theorem answer?_of_get?
    {cache : IdempotencyCache} {key : IdempotencyKey} {now : ℚ}
    {entry : CachedResponse}
    (stored : cache.get? key = some entry)
    (live : TtlCache.Live idempotencyTtl now entry)
    (nonempty : entry.value ≠ []) :
    cache.answer? key now = some entry.value :=
  answer?_eq_some_iff.mpr
    ⟨TtlCache.find?_eq_some_iff.mpr ⟨entry, stored, live, rfl⟩, nonempty⟩

/-- A key with an answer is answered with it, and the cache stays as it
is. -/
theorem getResponse_of_answer?
    {cache : IdempotencyCache} {clientId : Text} {requestId opcode : Int}
    {now : ℚ} {response : Bytes}
    (answer : cache.answer? (clientId, requestId, opcode) now =
      some response) :
    cache.getResponse clientId requestId opcode now =
      (some response, cache) := by
  obtain ⟨found, _⟩ := answer?_eq_some_iff.mp answer
  apply Prod.ext
  · simp [getResponse, found]
  · exact TtlCache.lookup_snd_of_find? found

/-- The response found for a key without an answer is empty. -/
theorem getResponse_of_answer?_none
    {cache : IdempotencyCache} {clientId : Text} {requestId opcode : Int}
    {now : ℚ}
    (unanswered : cache.answer? (clientId, requestId, opcode) now = none) :
    (cache.getResponse clientId requestId opcode now).1 = none ∨
      (cache.getResponse clientId requestId opcode now).1 = some [] := by
  simp only [getResponse, TtlCache.lookup_fst]
  cases found : TtlCache.find? idempotencyTtl cache
      (clientId, requestId, opcode) now with
  | none => exact .inl rfl
  | some response =>
      cases response with
      | nil => exact .inr rfl
      | cons byte bytes =>
          simp [answer?, found, Option.filter_some] at unanswered

end IdempotencyCache

/-! ## Tasks -/

namespace TaskHandler

variable
  {header : AppHeader} {payload : Bytes} {now : Readings} {world : World}
  {cache : IdempotencyCache}

/-- The key under which the dispatcher lets the task handler look. -/
def sharedKey (header : AppHeader) : IdempotencyKey :=
  requestKey defaultClient header

/-- The answer a request finds under the shared key: only a task whose payload
is a JSON object looks there. -/
def sharedAnswer?
    (header : AppHeader) (payload : Bytes) (now : Readings)
    (cache : IdempotencyCache) : Option Bytes :=
  match parseTask host payload with
  | .ok _ => cache.answer? (sharedKey header) now.taskLookup
  | .error _ => none

/-- A task answered under the shared key does nothing. -/
theorem handleTask_of_sharedAnswer?
    (world : World) {response : Bytes}
    (answer : sharedAnswer? host header payload now cache = some response) :
    (handleTask host guard header payload none now).run (world, cache) =
      (.ok response, world, cache) := by
  unfold sharedAnswer? at answer
  unfold handleTask
  cases parsed : parseTask host payload with
  | error error => simp [parsed] at answer
  | ok taskData =>
      simp only [parsed] at answer
      have nonempty := (IdempotencyCache.answer?_eq_some_iff.mp answer).2
      obtain ⟨byte, bytes, rfl⟩ := List.exists_cons_of_ne_nil nonempty
      simp [ExceptT.run, ExceptT.mk, taskClient,
        IdempotencyCache.getResponse_of_answer? answer]

/-- The cache after a look under the shared key. -/
def lookedUp (header : AppHeader) (now : Readings) (cache : IdempotencyCache) :
    IdempotencyCache :=
  (TtlCache.lookup idempotencyTtl cache (sharedKey header) now.taskLookup).2

/-- What carrying a request out does to the cache before its own response is
stored, given the result of the dispatcher. -/
inductive CacheEffect
    (header : AppHeader) (now : Readings) (cache : IdempotencyCache) :
    Except PyError Bytes → IdempotencyCache → Prop
  /-- The cache is not looked at. -/
  | untouched (result : Except PyError Bytes) :
      CacheEffect header now cache result cache
  /-- The shared key is looked up, without an answer. -/
  | looked (result : Except PyError Bytes) :
      CacheEffect header now cache result (lookedUp header now cache)
  /-- The shared key is looked up, without an answer, and the response is
  stored under it. -/
  | stored (response : Bytes)
      (unanswered : cache.answer? (sharedKey header) now.taskLookup = none) :
      CacheEffect header now cache (.ok response)
        (TtlCache.store (lookedUp header now cache) (sharedKey header)
          response now.taskStore)

/-- Result and world of a task that is performed do not depend on the
cache. -/
theorem performAndStore_run
    (header : AppHeader) (now : Readings) (world : World)
    (taskData : List (Text × Json)) (clientId : Text)
    (cache other : IdempotencyCache) :
    ∃ stored,
      (performAndStore host guard header taskData clientId now).run
          (world, cache) =
        (((performAndStore host guard header taskData clientId now).run
            (world, other)).1,
          ((performAndStore host guard header taskData clientId now).run
            (world, other)).2.1, stored) ∧
      (stored = cache ∨ ∃ response,
        ((performAndStore host guard header taskData clientId now).run
          (world, other)).1 = .ok response ∧
        stored = TtlCache.store cache (requestKey clientId header) response
          now.taskStore) := by
  unfold performAndStore
  simp only [ExceptT.run, ExceptT.mk]
  generalize performTask host guard header taskData clientId world = performed
  obtain ⟨result, world⟩ := performed
  cases result with
  | error error => exact ⟨cache, rfl, .inl rfl⟩
  | ok performed =>
      obtain ⟨responseBytes, sideEffects⟩ := performed
      cases sideEffects with
      | false => exact ⟨cache, rfl, .inl rfl⟩
      | true => exact ⟨_, rfl, .inr ⟨responseBytes, rfl, rfl⟩⟩

/-- A task whose shared key has no answer is performed. -/
theorem handleTask_of_parsed
    {taskData : List (Text × Json)}
    (parsed : parseTask host payload = .ok taskData)
    (unanswered : cache.answer? (sharedKey header) now.taskLookup = none) :
    (handleTask host guard header payload none now).run (world, cache) =
      (performAndStore host guard header taskData defaultClient now).run
        (world, lookedUp header now cache) := by
  unfold handleTask
  simp only [ExceptT.run, ExceptT.mk, parsed, taskClient]
  have found := IdempotencyCache.getResponse_of_answer?_none unanswered
  have left : (cache.getResponse defaultClient header.requestId header.opcode
      now.taskLookup).2 = lookedUp header now cache := rfl
  generalize cache.getResponse defaultClient header.requestId header.opcode
    now.taskLookup = looked at found left
  obtain ⟨cachedResult, lookedCache⟩ := looked
  obtain rfl : lookedCache = lookedUp header now cache := left
  rcases found with rfl | rfl <;> rfl

/-- A task without an answer is carried out as with an empty cache. -/
theorem handleTask_of_sharedAnswer?_none
    (world : World)
    (unanswered : sharedAnswer? host header payload now cache = none) :
    ∃ stored,
      (handleTask host guard header payload none now).run (world, cache) =
        (((handleTask host guard header payload none now).run
            (world, .empty)).1,
          ((handleTask host guard header payload none now).run
            (world, .empty)).2.1, stored) ∧
      CacheEffect header now cache
        ((handleTask host guard header payload none now).run
          (world, .empty)).1 stored := by
  unfold sharedAnswer? at unanswered
  cases parsed : parseTask host payload with
  | error error =>
      refine ⟨cache, ?_, .untouched _⟩
      simp [handleTask, ExceptT.run, ExceptT.mk, parsed]
  | ok taskData =>
      simp only [parsed] at unanswered
      rw [handleTask_of_parsed host guard parsed unanswered,
        handleTask_of_parsed host guard parsed
          (IdempotencyCache.answer?_empty (sharedKey header) now.taskLookup)]
      obtain ⟨stored, run, effect⟩ :=
        performAndStore_run host guard header now world taskData defaultClient
          (lookedUp header now cache) (lookedUp header now .empty)
      refine ⟨stored, run, ?_⟩
      rcases effect with rfl | ⟨response, succeeded, rfl⟩
      · exact .looked _
      · rw [succeeded]
        exact .stored response unanswered

end TaskHandler

/-! ## Dispatching -/

namespace Dispatcher

variable
  {header : AppHeader} {payload : Bytes} {now : Readings}
  {state : AgentState World}

/-- The answer a request finds under the shared key, where only tasks look. -/
def sharedAnswer?
    (header : AppHeader) (payload : Bytes) (now : Readings)
    (cache : IdempotencyCache) : Option Bytes :=
  if handlers.lookup header.opcode = some .task then
    TaskHandler.sharedAnswer? host header payload now cache
  else none

theorem answer?_of_sharedAnswer?
    {cache : IdempotencyCache} {response : Bytes}
    (answer : sharedAnswer? host header payload now cache = some response) :
    cache.answer? (TaskHandler.sharedKey header) now.taskLookup =
      some response := by
  unfold sharedAnswer? TaskHandler.sharedAnswer? at answer
  split at answer
  · cases parsed : TaskHandler.parseTask host payload with
    | error error => simp [parsed] at answer
    | ok taskData => simpa [parsed] using answer
  · cases answer

/-- The state with another cache. -/
def withCache (state : AgentState World) (cache : IdempotencyCache) :
    AgentState World :=
  { state with cache := cache }

/-- The state in which a handler is called. -/
def called
    (handler : Handler) (header : AppHeader) (payload : Bytes)
    (state : AgentState World) : AgentState World :=
  { state with calls := state.calls ++ [{ handler, header, payload }] }

/-- The envelope for what a handler returned or raised. -/
def envelope
    (header : AppHeader) (result : Except PyError HandlerResult) :
    Except PyError Bytes :=
  match result >>= respond host header with
  | .ok responseBytes => .ok responseBytes
  | .error error => respondError host header error

/-- A request with a handler is answered with the envelope for its result. -/
theorem dispatch_run
    {handler : Handler}
    (routed : handlers.lookup header.opcode = some handler) :
    (dispatch host guard header payload none now).run state =
      (envelope host header
          ((runHandler host guard handler header payload none now).run
            (called handler header payload state)).1,
        ((runHandler host guard handler header payload none now).run
          (called handler header payload state)).2) := by
  unfold dispatch envelope
  simp only [routed, Action.run_bind, Action.run_modify, Action.run_tryCatch,
    Action.run_liftM]
  change _ = (_, ((runHandler host guard handler header payload none now).run
    (called handler header payload state)).2)
  simp only [called]
  generalize (runHandler host guard handler header payload none now).run
    _ = handled
  obtain ⟨error | result, state⟩ := handled
  · rfl
  · cases responded : respond host header result <;>
      simp [responded, bind, Except.bind]

/-- A request without a handler changes nothing. -/
theorem dispatch_run_unknown
    (unknown : handlers.lookup header.opcode = none) :
    (dispatch host guard header payload none now).run state =
      (ResponseBuilder.buildErrorResponse host header.opcode header.requestId
        .badRequest ("Unknown Opcode: " ++ Text.ofInt header.opcode),
        state) := by
  unfold dispatch
  simp only [unknown, Action.run_liftM]

/-- A file handler does not look at the cache. -/
theorem runHandler_of_ne_task
    (header : AppHeader) (payload : Bytes) (now : Readings)
    {handler : Handler} (noTask : handler ≠ .task)
    (state : AgentState World) (cache : IdempotencyCache) :
    (runHandler host guard handler header payload none now).run
        (withCache state cache) =
      (((runHandler host guard handler header payload none now).run state).1,
        withCache
          ((runHandler host guard handler header payload none now).run state).2
          cache) := by
  cases handler with
  | task => exact absurd rfl noTask
  | list => rfl
  | putMeta => rfl
  | putChunk => rfl
  | get => rfl
  | append => rfl

/-- A file handler leaves the cache alone. -/
theorem runHandler_cache_of_ne_task
    (header : AppHeader) (payload : Bytes) (now : Readings)
    {handler : Handler} (noTask : handler ≠ .task)
    (state : AgentState World) :
    ((runHandler host guard handler header payload none now).run
      state).2.cache = state.cache := by
  cases handler with
  | task => exact absurd rfl noTask
  | list => rfl
  | putMeta => rfl
  | putChunk => rfl
  | get => rfl
  | append => rfl

theorem onWorldAndCache_run {α : Type}
    (action : Action (World × IdempotencyCache) α) (state : AgentState World) :
    (onWorldAndCache action).run state =
      ((action.run (state.workspace.world, state.cache)).1,
        { state with
          workspace := { state.workspace with
            world := (action.run (state.workspace.world, state.cache)).2.1 }
          cache := (action.run (state.workspace.world, state.cache)).2.2 }) :=
  rfl

/-- The task handler works on the world and the cache. -/
theorem runHandler_task (state : AgentState World) :
    (runHandler host guard .task header payload none now).run state =
      (((TaskHandler.handleTask host guard header payload none now).run
          (state.workspace.world, state.cache)).1.map .bytes,
        { state with
          workspace := { state.workspace with
            world := ((TaskHandler.handleTask host guard header payload none
              now).run (state.workspace.world, state.cache)).2.1 }
          cache := ((TaskHandler.handleTask host guard header payload none
            now).run (state.workspace.world, state.cache)).2.2 }) := by
  unfold runHandler
  simp only [Action.run_bind, onWorldAndCache_run]
  generalize (TaskHandler.handleTask host guard header payload none now).run
    (state.workspace.world, state.cache) = handled
  obtain ⟨error | envelope, world, cache⟩ := handled <;> rfl

/-- A task answered under the shared key calls its handler and changes nothing
else. -/
theorem dispatch_of_sharedAnswer?
    {response : Bytes}
    (answer : sharedAnswer? host header payload now state.cache =
      some response) :
    (dispatch host guard header payload none now).run state =
      (.ok response, called .task header payload state) := by
  unfold sharedAnswer? at answer
  split at answer
  · next routed =>
      have handled := TaskHandler.handleTask_of_sharedAnswer? host guard
        state.workspace.world answer
      rw [dispatch_run host guard routed, runHandler_task]
      simp only [called, handled]
      rfl
  · exact absurd answer nofun

/-- A request without an answer under the shared key is carried out as with an
empty cache. -/
theorem dispatch_of_sharedAnswer?_none
    (unanswered : sharedAnswer? host header payload now state.cache = none) :
    ∃ stored,
      (dispatch host guard header payload none now).run state =
        (((dispatch host guard header payload none now).run
            (withCache state .empty)).1,
          withCache ((dispatch host guard header payload none now).run
            (withCache state .empty)).2 stored) ∧
      TaskHandler.CacheEffect header now state.cache
        ((dispatch host guard header payload none now).run
          (withCache state .empty)).1 stored := by
  cases routed : handlers.lookup header.opcode with
  | none =>
      simp only [dispatch_run_unknown host guard routed]
      exact ⟨state.cache, rfl, .untouched _⟩
  | some handler =>
      by_cases task : handler = .task
      · subst task
        simp only [sharedAnswer?, routed, if_true] at unanswered
        obtain ⟨stored, handled, effect⟩ :=
          TaskHandler.handleTask_of_sharedAnswer?_none host guard
            state.workspace.world unanswered
        simp only [dispatch_run host guard routed, runHandler_task, called,
          withCache]
        refine ⟨stored, ?_, ?_⟩
        · rw [handled]
        · generalize (TaskHandler.handleTask host guard header payload none
            now).run (state.workspace.world, .empty) = fresh at effect
          obtain ⟨result, world, cache⟩ := fresh
          cases effect with
          | untouched result => exact .untouched _
          | looked result => exact .looked _
          | stored response unanswered => exact .stored response unanswered
      · have independent := runHandler_of_ne_task host guard header payload now
          task (called handler header payload state) .empty
        have kept := runHandler_cache_of_ne_task host guard header payload now
          task (called handler header payload state)
        have sameState :
            called handler header payload (withCache state .empty) =
              withCache (called handler header payload state) .empty := rfl
        simp only [dispatch_run host guard routed, sameState, independent]
        refine ⟨state.cache, ?_, .untouched _⟩
        apply Prod.ext
        · rfl
        · generalize (runHandler host guard handler header payload none now).run
            (called handler header payload state) = handled at kept ⊢
          obtain ⟨result, workspace, cache, calls⟩ := handled
          obtain rfl : cache = state.cache := kept
          rfl

/-- Every dispatch has one of the effects on the cache. -/
theorem dispatch_cacheEffect
    (header : AppHeader) (payload : Bytes) (now : Readings)
    (state : AgentState World) :
    TaskHandler.CacheEffect header now state.cache
      ((dispatch host guard header payload none now).run state).1
      ((dispatch host guard header payload none now).run state).2.cache := by
  cases answer : sharedAnswer? host header payload now state.cache with
  | some response =>
      rw [dispatch_of_sharedAnswer? host guard answer]
      exact .untouched _
  | none =>
      obtain ⟨stored, run, effect⟩ :=
        dispatch_of_sharedAnswer?_none host guard answer
      rw [run]
      exact effect

end Dispatcher

/-! ## Requests -/

namespace AgentServer

variable
  {clientId : Text} {header : AppHeader} {payload : Bytes} {now : Readings}
  {state : AgentState World}

/-- A request with an answer under its own key changes nothing and calls no
handler. -/
theorem processFrame_of_answer?
    {response : Bytes}
    (answer : state.cache.answer? (requestKey clientId header) now.lookup =
      some response) :
    processFrame host guard clientId header payload now state =
      (response, state) := by
  have nonempty := (IdempotencyCache.answer?_eq_some_iff.mp answer).2
  obtain ⟨byte, bytes, rfl⟩ := List.exists_cons_of_ne_nil nonempty
  simp [processFrame, IdempotencyCache.getResponse_of_answer? answer]

/-- The state after looking a request's own key up. -/
def ownLookedUp
    (clientId : Text) (header : AppHeader) (now : Readings)
    (state : AgentState World) : AgentState World :=
  Dispatcher.withCache state
    (TtlCache.lookup idempotencyTtl state.cache (requestKey clientId header)
      now.lookup).2

/-- A request without an answer under its own key is carried out. -/
theorem processFrame_of_answer?_none
    (unanswered :
      state.cache.answer? (requestKey clientId header) now.lookup = none) :
    processFrame host guard clientId header payload now state =
      carryOut host guard clientId header payload now
        (ownLookedUp clientId header now state) := by
  unfold processFrame
  have found := IdempotencyCache.getResponse_of_answer?_none unanswered
  have left : (state.cache.getResponse clientId header.requestId header.opcode
      now.lookup).2 = (ownLookedUp clientId header now state).cache := rfl
  generalize state.cache.getResponse clientId header.requestId header.opcode
    now.lookup = looked at found left
  obtain ⟨cachedResponse, lookedCache⟩ := looked
  simp only at found left
  subst left
  rcases found with rfl | rfl <;> rfl

/-- Storing its response, a request changes no other entry. -/
theorem get?_carryOut_of_ne
    {key : IdempotencyKey} (different : key ≠ requestKey clientId header) :
    (carryOut host guard clientId header payload now state).2.cache.get? key =
      ((Dispatcher.dispatch host guard header payload none now).run
        state).2.cache.get? key := by
  unfold carryOut
  generalize (Dispatcher.dispatch host guard header payload none now).run
    state = result
  obtain ⟨error | responseBytes, after⟩ := result
  · rfl
  · change (TtlCache.store after.cache (requestKey clientId header)
      responseBytes now.store).get? key = _
    rw [TtlCache.get?_store, if_neg different]

/-- A request answered under the shared key stores the answer under its own
key. -/
theorem carryOut_of_sharedAnswer?
    (clientId : Text) {response : Bytes}
    (answer : Dispatcher.sharedAnswer? host header payload now state.cache =
      some response) :
    carryOut host guard clientId header payload now state =
      (response, { Dispatcher.called .task header payload state with
        cache := TtlCache.store state.cache (requestKey clientId header)
          response now.store }) := by
  unfold carryOut
  rw [Dispatcher.dispatch_of_sharedAnswer? host guard answer]
  rfl

end AgentServer

end RudpAgentStack

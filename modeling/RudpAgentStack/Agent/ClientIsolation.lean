import RudpAgentStack.Agent.AtMostOnce

/-!
# Whose answer a task gets

A task that misses its own entry in the cache looks under the key of the
default client, which all clients share.  In runs that never meet an entry
there, every task is answered with its own result or with an earlier one of the
same client; where a task does meet an entry there, it is answered with the
result of another client.
-/

namespace RudpAgentStack

open Foundation

variable {World : Type} (host : Host World) (guard : PolicyGuard)

/-- The request is a task. -/
def AppHeader.IsTask (header : AppHeader) : Prop :=
  header.opcode = opTaskSearchReport ∨ header.opcode = opTaskFilterLines ∨
    header.opcode = opTaskHashAndStore

/-- Tasks are the requests routed to the task handler. -/
theorem AppHeader.isTask_iff (header : AppHeader) :
    header.IsTask ↔ handlers.lookup header.opcode = some .task := by
  constructor
  · rintro (opcode | opcode | opcode) <;> rw [opcode] <;> decide
  · intro routed
    by_contra noTask
    simp only [IsTask, not_or] at noTask
    obtain ⟨noSearch, noFilter, noHash⟩ := noTask
    simp only [handlers, List.lookup_cons, List.lookup_nil,
      beq_eq_false_iff_ne.mpr noSearch, beq_eq_false_iff_ne.mpr noFilter,
      beq_eq_false_iff_ne.mpr noHash] at routed
    repeat' split at routed
    all_goals simp at routed

namespace AgentServer

/-- The call is carried out on its own account: response, world, sessions and
handler calls are those of a server with the same files and sessions and
nothing in its cache. -/
structure Executed (state : AgentState World) (call : Call) : Prop where
  response : (serve host guard state call).1 =
    (serve host guard (Dispatcher.withCache state .empty) call).1
  workspace : (serve host guard state call).2.workspace =
    (serve host guard (Dispatcher.withCache state .empty) call).2.workspace
  calls : (serve host guard state call).2.calls =
    (serve host guard (Dispatcher.withCache state .empty) call).2.calls

/-- The call is a well-framed request with this client, request id and
opcode. -/
def Requests (call : Call) (key : IdempotencyKey) : Prop :=
  ∃ header, frame? call.data = some header ∧
    requestKey call.clientId header = key

/-- An earlier call with this key was carried out on its own account and
returned this response. -/
def Produced
    (start : AgentState World) (earlier : List Call) (key : IdempotencyKey)
    (response : Bytes) : Prop :=
  ∃ before call, before ++ [call] <+: earlier ∧ Requests call key ∧
    Executed host guard (run host guard start before) call ∧
    (serve host guard (run host guard start before) call).1 = response

/-- A request is carried out on its own account, or it is answered with the
response of an earlier call of the same client with the same request id and
opcode that was. -/
def OwnAnswer
    (start : AgentState World) (earlier : List Call) (call : Call) : Prop :=
  Executed host guard (run host guard start earlier) call ∨
    ∃ key, Requests call key ∧
      Produced host guard start earlier key
        (serve host guard (run host guard start earlier) call).1

/-- Cached responses of a client other than the default client were produced
by requests of that client. -/
def Owned (start : AgentState World) (earlier : List Call) : Prop :=
  ∀ key entry, key.1 ≠ TaskHandler.defaultClient →
    (run host guard start earlier).cache.get? key = some entry →
    Produced host guard start earlier key entry.value

/-- Cached responses under the key of the default client were produced by
tasks with that request id and opcode, which stored them not before. -/
def SharedOrigin (start : AgentState World) (earlier : List Call) : Prop :=
  ∀ key entry, key.1 = TaskHandler.defaultClient →
    (run host guard start earlier).cache.get? key = some entry →
    ∃ before call header, before ++ [call] <+: earlier ∧
      frame? call.data = some header ∧ TaskHandler.sharedKey header = key ∧
      (run host guard start before).cache.answer?
        (requestKey call.clientId header) call.now.lookup = none ∧
      Executed host guard (run host guard start before) call ∧
      (serve host guard (run host guard start before) call).1 = entry.value ∧
      entry.storedAt ≤ call.now.store

/-- The call is a framed task. -/
def IsTaskCall (call : Call) : Prop :=
  ∃ header, frame? call.data = some header ∧ header.IsTask

/-- If the call is a task, it finds an answer under its own key or none under
the key of the default client; a client with the id of the default client, for
which the two keys are the same, finds none. -/
def AvoidsSharedEntry (state : AgentState World) (call : Call) : Prop :=
  ∀ header, frame? call.data = some header → header.IsTask →
    (call.clientId = TaskHandler.defaultClient →
      state.cache.answer? (requestKey call.clientId header)
        call.now.lookup = none) ∧
      (state.cache.answer? (requestKey call.clientId header)
          call.now.lookup = none →
        TaskHandler.sharedAnswer? host header (call.data.drop headerSize)
          call.now state.cache = none)

/-! ## Requests that are carried out -/

variable
  {clientId : Text} {header : AppHeader} {payload : Bytes} {now : Readings}
  {state : AgentState World}

/-- Looking a request's own key up does not change what it finds under the
shared key. -/
theorem sharedAnswer?_ownLookedUp
    (clientId : Text) (header : AppHeader) (payload : Bytes) (now : Readings)
    (state : AgentState World) :
    Dispatcher.sharedAnswer? host header payload now
        (ownLookedUp clientId header now state).cache =
      Dispatcher.sharedAnswer? host header payload now state.cache := by
  unfold Dispatcher.sharedAnswer? TaskHandler.sharedAnswer?
    IdempotencyCache.answer? ownLookedUp
  simp only [Dispatcher.withCache,
    TtlCache.find?_lookup _ _ _ _ now.lookup_le]

/-- A call that finds no answer under its own key is carried out or answered
under the shared key. -/
theorem serve_of_unanswered
    {call : Call}
    (framed : frame? call.data = some header)
    (unanswered : state.cache.answer? (requestKey call.clientId header)
      call.now.lookup = none) :
    serve host guard state call =
      carryOut host guard call.clientId header (call.data.drop headerSize)
        call.now (ownLookedUp call.clientId header call.now state) := by
  rw [serve_of_framed host guard framed]
  exact processFrame_of_answer?_none host guard unanswered

/-- A request that finds no answer is carried out on its own account. -/
theorem executed_of_unanswered
    {call : Call}
    (framed : frame? call.data = some header)
    (unanswered : state.cache.answer? (requestKey call.clientId header)
      call.now.lookup = none)
    (unshared : Dispatcher.sharedAnswer? host header
      (call.data.drop headerSize) call.now state.cache = none) :
    Executed host guard state call := by
  rw [← sharedAnswer?_ownLookedUp host call.clientId] at unshared
  obtain ⟨stored, dispatched, _⟩ :=
    Dispatcher.dispatch_of_sharedAnswer?_none host guard unshared
  have sameStart :
      Dispatcher.withCache (ownLookedUp call.clientId header call.now state)
        .empty = Dispatcher.withCache state .empty := rfl
  have freshLookedUp :
      ownLookedUp call.clientId header call.now
        (Dispatcher.withCache state .empty) =
          Dispatcher.withCache state .empty := rfl
  have freshUnanswered :
      (Dispatcher.withCache state .empty).cache.answer?
        (requestKey call.clientId header) call.now.lookup = none :=
    IdempotencyCache.answer?_empty _ _
  rw [sameStart] at dispatched
  have served := serve_of_unanswered host guard framed unanswered
  have servedFresh :=
    serve_of_unanswered host guard framed freshUnanswered
  rw [freshLookedUp] at servedFresh
  unfold carryOut at served servedFresh
  rw [dispatched] at served
  generalize (Dispatcher.dispatch host guard header
    (call.data.drop headerSize) none call.now).run
    (Dispatcher.withCache state .empty) = fresh at served servedFresh
  obtain ⟨error | responseBytes, after⟩ := fresh <;>
    constructor <;> rw [served, servedFresh] <;> rfl

/-! ## Where cached responses come from -/

variable {key : IdempotencyKey} {entry : CachedResponse}

/-- A dispatch stores nothing but its response under the shared key. -/
theorem origin_of_cacheEffect
    {cache stored : IdempotencyCache} {result : Except PyError Bytes}
    (effect : TaskHandler.CacheEffect header now cache result stored)
    (present : stored.get? key = some entry) :
    cache.get? key = some entry ∨
      (key = TaskHandler.sharedKey header ∧ result = .ok entry.value ∧
        entry.storedAt = now.taskStore) := by
  cases effect with
  | untouched => exact .inl present
  | looked => exact .inl (TtlCache.get?_of_get?_lookup present)
  | stored response unanswered =>
      rw [TtlCache.get?_store] at present
      split at present
      · next shared =>
          cases present
          exact .inr ⟨shared, rfl, rfl⟩
      · exact .inl (TtlCache.get?_of_get?_lookup present)

/-- What a dispatch leaves under a key that is not shared was there before. -/
theorem get?_of_cacheEffect
    {cache stored : IdempotencyCache} {result : Except PyError Bytes}
    (effect : TaskHandler.CacheEffect header now cache result stored)
    (present : stored.get? key = some entry)
    (unshared : key ≠ TaskHandler.sharedKey header) :
    cache.get? key = some entry :=
  (origin_of_cacheEffect effect present).resolve_right
    fun stored => unshared stored.1

/-- What a request leaves under a key that is not shared was there before, or
it is the request's own response. -/
theorem get?_of_get?_processFrame
    (present : (processFrame host guard clientId header payload now
      state).2.cache.get? key = some entry)
    (unshared : key ≠ TaskHandler.sharedKey header) :
    state.cache.get? key = some entry ∨
      (key = requestKey clientId header ∧
        state.cache.answer? key now.lookup = none ∧
        entry.value =
          (processFrame host guard clientId header payload now state).1) := by
  cases answer :
      state.cache.answer? (requestKey clientId header) now.lookup with
  | some response =>
      rw [processFrame_of_answer? host guard answer] at present
      exact .inl present
  | none =>
      rw [processFrame_of_answer?_none host guard answer] at present ⊢
      have effect := Dispatcher.dispatch_cacheEffect host guard header payload
        now (ownLookedUp clientId header now state)
      unfold carryOut at present ⊢
      generalize (Dispatcher.dispatch host guard header payload none now).run
        (ownLookedUp clientId header now state) = result at effect present ⊢
      have earlier : result.2.cache.get? key = some entry →
          state.cache.get? key = some entry := fun left =>
        TtlCache.get?_of_get?_lookup (get?_of_cacheEffect effect left unshared)
      obtain ⟨error | responseBytes, after⟩ := result
      · exact .inl (earlier present)
      · change (TtlCache.store after.cache (requestKey clientId header)
          responseBytes now.store).get? key = _ at present
        rw [TtlCache.get?_store] at present
        split at present
        · next own =>
            refine .inr ⟨own, own ▸ answer, ?_⟩
            cases present
            rfl
        · exact .inl (earlier present)

/-- What holds before a run and is kept by each of its calls holds
throughout. -/
theorem throughout_run
    {calls : List Call} {Invariant : List Call → Prop}
    (start : Invariant [])
    (next : ∀ earlier call, earlier ++ [call] <+: calls →
      Invariant earlier → Invariant (earlier ++ [call])) :
    ∀ earlier, earlier <+: calls → Invariant earlier := by
  intro earlier
  induction earlier using List.reverseRecOn with
  | nil => exact fun _ => start
  | append_singleton earlier call inductionHypothesis =>
      intro isPrefix
      exact next earlier call isPrefix
        (inductionHypothesis ((List.prefix_append _ _).trans isPrefix))

variable {start : AgentState World} {earlier : List Call} {call : Call}

variable {host guard} in
theorem Produced.extend
    {response : Bytes} {later : List Call}
    (produced : Produced host guard start earlier key response)
    (isPrefix : earlier <+: later) :
    Produced host guard start later key response := by
  obtain ⟨before, other, inEarlier, rest⟩ := produced
  exact ⟨before, other, inEarlier.trans isPrefix, rest⟩

variable {host guard} in
/-- A call that avoids the shared entry and finds no answer of its own is
carried out on its own account. -/
theorem AvoidsSharedEntry.executed
    (avoids : AvoidsSharedEntry host state call)
    (framed : frame? call.data = some header)
    (unanswered : state.cache.answer? (requestKey call.clientId header)
      call.now.lookup = none) :
    Executed host guard state call := by
  apply executed_of_unanswered host guard framed unanswered
  unfold Dispatcher.sharedAnswer?
  split
  · next routed =>
      exact (avoids header framed (header.isTask_iff.mpr routed)).2 unanswered
  · rfl

variable {host guard} in
/-- Step lemma: a call that avoids the shared entry keeps the origin of cached
responses. -/
theorem Owned.next
    (owned : Owned host guard start earlier)
    (avoids : AvoidsSharedEntry host (run host guard start earlier) call) :
    Owned host guard start (earlier ++ [call]) := by
  intro key entry notDefault present
  rw [run_append_singleton] at present
  cases framed : frame? call.data with
  | none =>
      rw [serve_of_unframed host guard framed] at present
      exact (owned key entry notDefault present).extend
        (List.prefix_append _ _)
  | some header =>
      have unshared : key ≠ TaskHandler.sharedKey header := by
        rintro rfl
        exact notDefault rfl
      rw [serve_of_framed host guard framed] at present
      have origin := get?_of_get?_processFrame host guard present unshared
      rcases origin with before | ⟨own, unanswered, response⟩
      · exact (owned key entry notDefault before).extend
          (List.prefix_append _ _)
      · refine ⟨earlier, call, List.prefix_rfl, ⟨header, framed, own.symm⟩,
          avoids.executed framed (own ▸ unanswered), ?_⟩
        rw [response, serve_of_framed host guard framed]

/-- In every run on a new server in which each task avoids the shared entry,
each task is carried out on its own account or answered with the response of
an earlier request of the same client, request id and opcode that was. -/
theorem tasks_answered_on_own_account
    (world : World) (calls : List Call)
    (avoids : ∀ earlier call, earlier ++ [call] <+: calls →
      AvoidsSharedEntry host (run host guard (new world) earlier) call) :
    ∀ earlier call, earlier ++ [call] <+: calls → IsTaskCall call →
      OwnAnswer host guard (new world) earlier call := by
  have owned : ∀ earlier, earlier <+: calls →
      Owned host guard (new world) earlier := by
    apply throughout_run
    · intro key entry _ present
      cases present
    · exact fun earlier call isPrefix owned =>
        owned.next (avoids earlier call isPrefix)
  intro earlier call isPrefix task
  obtain ⟨header, framed, isTask⟩ := task
  have avoidsNow := avoids earlier call isPrefix
  cases answer : (run host guard (new world) earlier).cache.answer?
      (requestKey call.clientId header) call.now.lookup with
  | none => exact .inl (avoidsNow.executed framed answer)
  | some response =>
      obtain ⟨found, _⟩ := IdempotencyCache.answer?_eq_some_iff.mp answer
      obtain ⟨entry, present, _, value⟩ := TtlCache.find?_eq_some_iff.mp found
      have notDefault : call.clientId ≠ TaskHandler.defaultClient := by
        intro isDefault
        have unanswered := (avoidsNow header framed isTask).1 isDefault
        rw [answer] at unanswered
        cases unanswered
      have produced := owned earlier
        ((List.prefix_append _ _).trans isPrefix) _ entry notDefault present
      refine .inr ⟨_, ⟨header, framed, rfl⟩, ?_⟩
      rw [serve_of_framed host guard framed,
        processFrame_of_answer? host guard answer]
      exact value ▸ produced

/-- A client filters the file of the sample under request id 1. -/
def firstFilter : Call :=
  ⟨"10.0.0.1:5000", Sample.filterRequest 1 "a.txt", Sample.instant 0⟩

/-- Another client does so a second later, for a file of its own. -/
def secondFilter (requestId : Int) : Call :=
  ⟨"10.0.0.2:5000", Sample.filterRequest requestId "b.txt", Sample.instant 1⟩

/-- The server of the sample after some calls. -/
def sampleRun (calls : List Call) : AgentState MemoryHost.Files :=
  run Sample.host Sample.policyGuard (new Sample.files) calls

/-- Under different request ids both tasks are carried out. -/
theorem tasks_answered_on_own_account_twoClients :
    OwnAnswer Sample.host Sample.policyGuard (new Sample.files) []
        firstFilter ∧
      OwnAnswer Sample.host Sample.policyGuard (new Sample.files)
        [firstFilter] (secondFilter 2) := by
  have framedFirst : frame? firstFilter.data =
      some ⟨1, 0x11, 0, 0, 1, 62⟩ := by decide +kernel
  have framedSecond : frame? (secondFilter 2).data =
      some ⟨1, 0x11, 0, 0, 2, 62⟩ := by decide +kernel
  have answers := tasks_answered_on_own_account Sample.host
    Sample.policyGuard Sample.files [firstFilter, secondFilter 2] ?_
  · exact ⟨answers [] _ (by simp) ⟨_, framedFirst, .inr (.inl rfl)⟩,
      answers [_] _ (by simp) ⟨_, framedSecond, .inr (.inl rfl)⟩⟩
  · intro earlier call isPrefix header framed _
    match earlier with
    | [] =>
        obtain rfl : call = firstFilter := by simpa using isPrefix
        obtain rfl := Option.some.inj (framedFirst.symm.trans framed)
        exact ⟨fun isDefault => absurd isDefault (by decide +kernel),
          fun _ => by decide +kernel⟩
    | [other] =>
        obtain ⟨rfl, rfl⟩ : other = firstFilter ∧ call = secondFilter 2 := by
          simpa using isPrefix
        obtain rfl := Option.some.inj (framedSecond.symm.trans framed)
        exact ⟨fun isDefault => absurd isDefault (by decide +kernel),
          fun _ => by decide +kernel⟩
    | _ :: _ :: _ => simp at isPrefix

/-- Under the same request id, within two minutes, the second client is told
that the file of the first was written, and its own file never is. -/
theorem task_answered_for_other_client :
    IsTaskCall (secondFilter 1) ∧
      (serve Sample.host Sample.policyGuard (sampleRun [firstFilter])
          (secondFilter 1)).1 =
        (serve Sample.host Sample.policyGuard (sampleRun []) firstFilter).1 ∧
      (sampleRun [firstFilter, secondFilter 1]).workspace.world.get?
        "/sandbox/b.txt" = none ∧
      ¬ OwnAnswer Sample.host Sample.policyGuard (new Sample.files)
        [firstFilter] (secondFilter 1) := by
  have framed : frame? (secondFilter 1).data =
      some ⟨1, 0x11, 0, 0, 1, 62⟩ := by decide +kernel
  have notWritten : (serve Sample.host Sample.policyGuard
      (sampleRun [firstFilter]) (secondFilter 1)).2.workspace.world.get?
        "/sandbox/b.txt" = none := by decide +kernel
  refine ⟨⟨_, framed, .inr (.inl rfl)⟩, by decide +kernel, notWritten, ?_⟩
  rintro (executed | ⟨key, requested, before, call, isPrefix, earlier, _⟩)
  · have writtenAlone : (serve Sample.host Sample.policyGuard
        (Dispatcher.withCache (sampleRun [firstFilter]) .empty)
          (secondFilter 1)).2.workspace.world.get? "/sandbox/b.txt" =
            some [0x78] := by decide +kernel
    have sameWorkspace := executed.workspace
    rw [← sampleRun] at sameWorkspace
    rw [sameWorkspace, writtenAlone] at notWritten
    cases notWritten
  · obtain ⟨header, _, rfl⟩ := requested
    obtain ⟨otherHeader, _, sameKey⟩ := earlier
    obtain rfl : call = firstFilter := by
      cases before with
      | nil => simpa using isPrefix
      | cons other rest => simp at isPrefix
    have sameClient : firstFilter.clientId = (secondFilter 1).clientId :=
      congrArg Prod.fst sameKey
    exact absurd sameClient (by decide +kernel)

/-! ## Answers from the shared entry -/

/-- What a request of another client than the default client leaves under the
key of that client was there before, or it is the response of a task that was
carried out. -/
theorem get?_shared_of_get?_processFrame
    (present : (processFrame host guard clientId header payload now
      state).2.cache.get? key = some entry)
    (shared : key.1 = TaskHandler.defaultClient)
    (notDefault : clientId ≠ TaskHandler.defaultClient) :
    state.cache.get? key = some entry ∨
      (TaskHandler.sharedKey header = key ∧
        state.cache.answer? (requestKey clientId header) now.lookup = none ∧
        Dispatcher.sharedAnswer? host header payload now state.cache = none ∧
        entry.value =
          (processFrame host guard clientId header payload now state).1 ∧
        entry.storedAt = now.taskStore) := by
  have different : key ≠ requestKey clientId header := by
    rintro rfl
    exact notDefault shared
  cases answer :
      state.cache.answer? (requestKey clientId header) now.lookup with
  | some response =>
      rw [processFrame_of_answer? host guard answer] at present
      exact .inl present
  | none =>
      rw [processFrame_of_answer?_none host guard answer] at present ⊢
      rw [get?_carryOut_of_ne host guard different] at present
      have looked :
          (ownLookedUp clientId header now state).cache.get? key =
              some entry →
            state.cache.get? key = some entry :=
        fun left => TtlCache.get?_of_get?_lookup left
      cases shared : Dispatcher.sharedAnswer? host header payload now
          (ownLookedUp clientId header now state).cache with
      | some response =>
          rw [Dispatcher.dispatch_of_sharedAnswer? host guard shared] at present
          exact .inl (looked present)
      | none =>
          rw [sharedAnswer?_ownLookedUp] at shared
          have effect := Dispatcher.dispatch_cacheEffect host guard header
            payload now (ownLookedUp clientId header now state)
          unfold carryOut
          generalize (Dispatcher.dispatch host guard header payload none
            now).run (ownLookedUp clientId header now state) = result
            at effect present ⊢
          rcases origin_of_cacheEffect effect present with
            left | ⟨sharedKey, succeeded, storedAt⟩
          · exact .inl (looked left)
          · obtain ⟨result, after⟩ := result
            obtain rfl : result = .ok entry.value := succeeded
            exact .inr ⟨sharedKey.symm, rfl, shared, rfl, storedAt⟩

variable {host guard} in
/-- Step lemma: a call of another client than the default client keeps the
origin of the shared responses. -/
theorem SharedOrigin.next
    (origin : SharedOrigin host guard start earlier)
    (notDefault : call.clientId ≠ TaskHandler.defaultClient) :
    SharedOrigin host guard start (earlier ++ [call]) := by
  intro key entry shared present
  have extend :
      (run host guard start earlier).cache.get? key = some entry →
        ∃ before other header, before ++ [other] <+: earlier ++ [call] ∧
          frame? other.data = some header ∧
          TaskHandler.sharedKey header = key ∧
          (run host guard start before).cache.answer?
            (requestKey other.clientId header) other.now.lookup = none ∧
          Executed host guard (run host guard start before) other ∧
          (serve host guard (run host guard start before) other).1 =
            entry.value ∧
          entry.storedAt ≤ other.now.store := by
    intro left
    obtain ⟨before, other, header, inEarlier, rest⟩ :=
      origin key entry shared left
    exact ⟨before, other, header,
      inEarlier.trans (List.prefix_append _ _), rest⟩
  rw [run_append_singleton] at present
  cases framed : frame? call.data with
  | none =>
      rw [serve_of_unframed host guard framed] at present
      exact extend present
  | some header =>
      rw [serve_of_framed host guard framed] at present
      rcases get?_shared_of_get?_processFrame host guard present shared
          notDefault with
        left | ⟨sharedKey, unanswered, unshared, response, storedAt⟩
      · exact extend left
      · refine ⟨earlier, call, header, List.prefix_rfl, framed, sharedKey,
          unanswered, executed_of_unanswered host guard framed unanswered
            unshared, ?_,
          storedAt ▸ call.now.taskStore_le⟩
        rw [response, serve_of_framed host guard framed]

/-- A non-empty response that a client's own request stored answers every later
request with the same key while it is live. -/
theorem answer?_of_earlier_request
    {before between : List Call} {other : Call}
    {otherHeader : AppHeader} {response : Bytes}
    (chronological : Chronological (other :: between ++ [call]))
    (framedOther : frame? other.data = some otherHeader)
    (unanswered : (run host guard start before).cache.answer?
      (requestKey other.clientId otherHeader) other.now.lookup = none)
    (returned : (serve host guard (run host guard start before) other).1 =
      response)
    (nonempty : response ≠ [])
    (inTime : call.now.lookup < other.now.store + idempotencyTtl) :
    (run host guard start (before ++ [other] ++ between)).cache.answer?
      (requestKey other.clientId otherHeader) call.now.lookup =
        some response := by
  subst returned
  rw [run_append, run_append_singleton]
  rw [serve_of_framed host guard framedOther] at nonempty ⊢
  obtain ⟨storedAt, present, fresh⟩ :=
    exists_stored_of_processFrame host guard nonempty
  obtain rfl := fresh unanswered
  rw [Chronological, List.cons_append, List.pairwise_cons] at chronological
  exact answer?_run_of_live host guard present nonempty chronological.2
    (TtlCache.live_iff_lt_add.mpr inTime)

/-- A request that finds no answer under its own key but one under the shared
key is answered with the response of another client's task, and nothing of it
is carried out.  The clients have other ids than the default client. -/
theorem shared_answer_of_other_client
    (world : World) (calls : List Call)
    (chronological : Chronological calls)
    (notDefault : ∀ call ∈ calls,
      call.clientId ≠ TaskHandler.defaultClient) :
    ∀ earlier call header response, earlier ++ [call] <+: calls →
      frame? call.data = some header →
      (run host guard (new world) earlier).cache.answer?
        (requestKey call.clientId header) call.now.lookup = none →
      Dispatcher.sharedAnswer? host header (call.data.drop headerSize)
        call.now (run host guard (new world) earlier).cache =
          some response →
      let state := run host guard (new world) earlier
      (serve host guard state call).1 = response ∧
        (serve host guard state call).2.workspace = state.workspace ∧
        ∃ before other otherHeader, before ++ [other] <+: earlier ∧
          frame? other.data = some otherHeader ∧
          otherHeader.requestId = header.requestId ∧
          otherHeader.opcode = header.opcode ∧
          other.clientId ≠ call.clientId ∧
          Executed host guard (run host guard (new world) before) other ∧
          (serve host guard (run host guard (new world) before) other).1 =
            response := by
  have origins : ∀ earlier, earlier <+: calls →
      SharedOrigin host guard (new world) earlier := by
    apply throughout_run
    · intro key entry _ present
      cases present
    · exact fun earlier call isPrefix origin =>
        origin.next (notDefault call (isPrefix.subset (by simp)))
  intro earlier call header response isPrefix framed unanswered shared state
  rw [← sharedAnswer?_ownLookedUp host call.clientId] at shared
  have answered := carryOut_of_sharedAnswer? host guard call.clientId shared
  rw [serve_of_unanswered host guard framed unanswered, answered]
  refine ⟨rfl, rfl, ?_⟩
  rw [sharedAnswer?_ownLookedUp] at shared
  have shared := Dispatcher.answer?_of_sharedAnswer? host shared
  obtain ⟨found, nonempty⟩ := IdempotencyCache.answer?_eq_some_iff.mp shared
  obtain ⟨entry, present, live, rfl⟩ := TtlCache.find?_eq_some_iff.mp found
  obtain ⟨before, other, otherHeader, inEarlier, framedOther, sameKey,
      otherUnanswered, executed, returned, storedAt⟩ :=
    origins earlier ((List.prefix_append _ _).trans isPrefix) _ entry rfl
      present
  simp only [TaskHandler.sharedKey, requestKey, Prod.mk.injEq, true_and]
    at sameKey
  refine ⟨before, other, otherHeader, inEarlier, framedOther, sameKey.1,
    sameKey.2, ?_, executed, returned⟩
  intro sameClient
  -- The own entry of that client would still be live.
  obtain ⟨between, rfl⟩ := inEarlier
  have sinceOther : Chronological (other :: between ++ [call]) := by
    have split : before ++ [other] ++ between ++ [call] =
        before ++ (other :: between ++ [call]) := by simp
    rw [split] at isPrefix
    exact chronological.sublist
      ((List.sublist_append_right _ _).trans isPrefix.sublist)
  have inTime : call.now.lookup < other.now.store + idempotencyTtl := by
    calc
      call.now.lookup ≤ call.now.taskLookup := call.now.lookup_le
      _ < entry.storedAt + idempotencyTtl := TtlCache.live_iff_lt_add.mp live
      _ ≤ other.now.store + idempotencyTtl := by gcongr
  have ownAnswer := answer?_of_earlier_request host guard sinceOther
    framedOther otherUnanswered returned nonempty inTime
  simp only [requestKey, sameClient, sameKey] at ownAnswer
  simp only [requestKey, ownAnswer] at unanswered
  cases unanswered

end AgentServer

end RudpAgentStack

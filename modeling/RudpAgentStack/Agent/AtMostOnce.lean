import RudpAgentStack.Agent.MemoryHost
import RudpAgentStack.Agent.RequestFlow

/-!
# Requests are carried out at most once while their response is cached

While the response of a request is in the cache, its entry survives every other
request, and a repetition of the request returns the response and does nothing
else.
-/

namespace RudpAgentStack

open Foundation

/-- A call of `process_request`. -/
structure Call where
  clientId : Text
  data : Bytes
  now : Readings
  deriving DecidableEq

/-- The calls of a list take place one after the other. -/
def Chronological (calls : List Call) : Prop :=
  calls.Pairwise fun earlier later => earlier.now.store ≤ later.now.lookup

instance (calls : List Call) : Decidable (Chronological calls) :=
  inferInstanceAs (Decidable (List.Pairwise _ _))

/-- An entry that is live when the last call of a list takes place is live
during the calls before. -/
theorem Chronological.live_before
    {between : List Call} {last : Call} {entry : CachedResponse}
    (chronological : Chronological (between ++ [last]))
    (live : TtlCache.Live idempotencyTtl last.now.lookup entry) :
    ∀ call ∈ between, TtlCache.Live idempotencyTtl call.now.store entry := by
  intro call member
  rw [Chronological, List.pairwise_append] at chronological
  exact live.of_le
    (chronological.2.2 call member last (List.mem_singleton_self _))

variable {World : Type} (host : Host World) (guard : PolicyGuard)

namespace AgentServer

/-- Response and state after one call. -/
def serve (state : AgentState World) (call : Call) :
    Bytes × AgentState World :=
  processRequest host guard call.clientId call.data call.now state

/-- A call whose data holds a frame is a request. -/
theorem serve_of_framed
    {call : Call} {header : AppHeader}
    (framed : frame? call.data = some header) (state : AgentState World) :
    serve host guard state call =
      processFrame host guard call.clientId header (call.data.drop headerSize)
        call.now state := by
  simp only [serve, processRequest, framed]

/-- A call whose data holds no frame changes nothing. -/
theorem serve_of_unframed
    {call : Call} (unframed : frame? call.data = none)
    (state : AgentState World) :
    (serve host guard state call).2 = state := by
  simp only [serve, processRequest, unframed]

/-- A call changes the state only where it is carried out: it holds a frame,
and no answer is found under its own key. -/
theorem serve_keeps
    (Invariant : AgentState World → Prop) {state : AgentState World}
    {call : Call} (holds : Invariant state)
    (carriedOut : ∀ header, frame? call.data = some header →
      state.cache.answer? (requestKey call.clientId header)
        call.now.lookup = none →
      Invariant (serve host guard state call).2) :
    Invariant (serve host guard state call).2 := by
  cases framed : frame? call.data with
  | none => rwa [serve_of_unframed host guard framed]
  | some header =>
  cases own : state.cache.answer? (requestKey call.clientId header)
      call.now.lookup with
  | some response =>
      rwa [serve_of_framed host guard framed,
        processFrame_of_answer? host guard own]
  | none => exact carriedOut header framed own

/-- The state after a list of calls. -/
def run (state : AgentState World) (calls : List Call) : AgentState World :=
  calls.foldl (fun state call => (serve host guard state call).2) state

@[simp] theorem run_append_singleton
    (state : AgentState World) (calls : List Call) (call : Call) :
    run host guard state (calls ++ [call]) =
      (serve host guard (run host guard state calls) call).2 := by
  simp [run]

theorem run_append
    (state : AgentState World) (first second : List Call) :
    run host guard state (first ++ second) =
      run host guard (run host guard state first) second := by
  simp [run]

/-- What holds before a run and is kept by every call holds after it. -/
theorem run_keeps
    (Invariant : AgentState World → Prop) {state : AgentState World}
    (start : Invariant state)
    (next : ∀ state call, Invariant state →
      Invariant (serve host guard state call).2)
    (calls : List Call) : Invariant (run host guard state calls) := by
  induction calls generalizing state with
  | nil => exact start
  | cons call calls inductionHypothesis =>
      exact inductionHypothesis (next state call start)

end AgentServer

/-! ## Live entries stay -/

variable {key : IdempotencyKey} {entry : CachedResponse}

/-- A live response survives what a dispatch does to the cache. -/
theorem TaskHandler.CacheEffect.get?_of_live
    {header : AppHeader} {now : Readings} {cache stored : IdempotencyCache}
    {result : Except PyError Bytes}
    (effect : CacheEffect header now cache result stored)
    (present : cache.get? key = some entry)
    (nonempty : entry.value ≠ [])
    (live : TtlCache.Live idempotencyTtl now.taskLookup entry) :
    stored.get? key = some entry := by
  have looked : (lookedUp header now cache).get? key = some entry :=
    TtlCache.get?_lookup_of_live present live _
  cases effect with
  | untouched => exact present
  | looked => exact looked
  | stored response unanswered =>
      have different : key ≠ sharedKey header := by
        rintro rfl
        rw [IdempotencyCache.answer?_of_get? present live nonempty]
          at unanswered
        cases unanswered
      rw [TtlCache.get?_store, if_neg different]
      exact looked

namespace AgentServer

/-- Step lemma: a response that is live until the end of a request survives
it. -/
theorem get?_processFrame_of_live
    {clientId : Text} {header : AppHeader} {payload : Bytes} {now : Readings}
    {state : AgentState World}
    (present : state.cache.get? key = some entry)
    (nonempty : entry.value ≠ [])
    (live : TtlCache.Live idempotencyTtl now.store entry) :
    (processFrame host guard clientId header payload now
      state).2.cache.get? key = some entry := by
  have liveAtLookup : TtlCache.Live idempotencyTtl now.lookup entry :=
    live.of_le
      (now.lookup_le.trans (now.taskLookup_le.trans now.taskStore_le))
  have liveAtTaskLookup : TtlCache.Live idempotencyTtl now.taskLookup entry :=
    live.of_le (now.taskLookup_le.trans now.taskStore_le)
  cases answer :
      state.cache.answer? (requestKey clientId header) now.lookup with
  | some response =>
      rw [processFrame_of_answer? host guard answer]
      exact present
  | none =>
      have different : key ≠ requestKey clientId header := by
        rintro rfl
        rw [IdempotencyCache.answer?_of_get? present liveAtLookup nonempty]
          at answer
        cases answer
      have looked :
          (ownLookedUp clientId header now state).cache.get? key =
            some entry :=
        TtlCache.get?_lookup_of_live present liveAtLookup _
      have dispatched :=
        (Dispatcher.dispatch_cacheEffect host guard header payload now
          (ownLookedUp clientId header now state)).get?_of_live looked
          nonempty liveAtTaskLookup
      rw [processFrame_of_answer?_none host guard answer,
        get?_carryOut_of_ne host guard different]
      exact dispatched

theorem get?_serve_of_live
    {state : AgentState World} {call : Call}
    (present : state.cache.get? key = some entry)
    (nonempty : entry.value ≠ [])
    (live : TtlCache.Live idempotencyTtl call.now.store entry) :
    (serve host guard state call).2.cache.get? key = some entry := by
  cases framed : frame? call.data with
  | none =>
      rw [serve_of_unframed host guard framed]
      exact present
  | some header =>
      rw [serve_of_framed host guard framed]
      exact get?_processFrame_of_live host guard present nonempty live

/-- Run lemma: a response that is live until the end of a run survives it. -/
theorem get?_run_of_live
    {state : AgentState World} {calls : List Call}
    (present : state.cache.get? key = some entry)
    (nonempty : entry.value ≠ [])
    (live : ∀ call ∈ calls,
      TtlCache.Live idempotencyTtl call.now.store entry) :
    (run host guard state calls).cache.get? key = some entry := by
  induction calls generalizing state with
  | nil => exact present
  | cons call calls inductionHypothesis =>
      rw [List.forall_mem_cons] at live
      exact inductionHypothesis
        (get?_serve_of_live host guard present nonempty live.1) live.2

/-- What is live at a call answers its key there, whatever was called
before. -/
theorem answer?_run_of_live
    {state : AgentState World} {between : List Call} {last : Call}
    (present : state.cache.get? key = some entry)
    (nonempty : entry.value ≠ [])
    (chronological : Chronological (between ++ [last]))
    (live : TtlCache.Live idempotencyTtl last.now.lookup entry) :
    (run host guard state between).cache.answer? key last.now.lookup =
      some entry.value := by
  have kept := get?_run_of_live host guard present nonempty
    (chronological.live_before live)
  exact IdempotencyCache.answer?_of_get? kept live nonempty

/-! ## Repetitions -/

/-- A non-empty response is in the cache when it is returned: it was there
before, or it has just been stored. -/
theorem exists_stored_of_processFrame
    {clientId : Text} {header : AppHeader} {payload : Bytes} {now : Readings}
    {state : AgentState World}
    (nonempty :
      (processFrame host guard clientId header payload now state).1 ≠ []) :
    ∃ storedAt,
      (processFrame host guard clientId header payload now
          state).2.cache.get? (requestKey clientId header) =
        some ⟨(processFrame host guard clientId header payload now state).1,
          storedAt⟩ ∧
      (state.cache.answer? (requestKey clientId header) now.lookup = none →
        storedAt = now.store) := by
  cases answer :
      state.cache.answer? (requestKey clientId header) now.lookup with
  | some response =>
      obtain ⟨found, _⟩ := IdempotencyCache.answer?_eq_some_iff.mp answer
      obtain ⟨entry, present, _, rfl⟩ := TtlCache.find?_eq_some_iff.mp found
      rw [processFrame_of_answer? host guard answer]
      exact ⟨entry.storedAt, present, nofun⟩
  | none =>
      refine ⟨now.store, ?_, fun _ => rfl⟩
      rw [processFrame_of_answer?_none host guard answer] at nonempty ⊢
      unfold carryOut at nonempty ⊢
      generalize (Dispatcher.dispatch host guard header payload none now).run
        (ownLookedUp clientId header now state) = result at nonempty ⊢
      obtain ⟨error | responseBytes, after⟩ := result
      · exact absurd rfl nonempty
      · exact Dict.get?_set_self _ _ _

/-- While the response of a request is in the cache, a repetition of the
request returns it and leaves the server as it is: no handler is called, and
the world, the upload sessions and the cache stay the same.  The calls before
the repetition, of this and of other clients, are arbitrary. -/
theorem repetition_answered_from_cache
    {state : AgentState World} {call : Call} {header : AppHeader}
    (framed : frame? call.data = some header)
    (nonempty : (serve host guard state call).1 ≠ []) :
    ∃ storedAt,
      (serve host guard state call).2.cache.get?
          (requestKey call.clientId header) =
        some ⟨(serve host guard state call).1, storedAt⟩ ∧
      (state.cache.answer? (requestKey call.clientId header)
          call.now.lookup = none → storedAt = call.now.store) ∧
      ∀ (between : List Call) (again : Call) (againHeader : AppHeader),
        Chronological (call :: between ++ [again]) →
        frame? again.data = some againHeader →
        requestKey again.clientId againHeader =
          requestKey call.clientId header →
        again.now.lookup < storedAt + idempotencyTtl →
        serve host guard
            (run host guard (serve host guard state call).2 between) again =
          ((serve host guard state call).1,
            run host guard (serve host guard state call).2 between) := by
  rw [serve_of_framed host guard framed] at nonempty ⊢
  obtain ⟨storedAt, present, fresh⟩ :=
    exists_stored_of_processFrame host guard nonempty
  refine ⟨storedAt, present, fresh, ?_⟩
  intro between again againHeader chronological framedAgain sameKey inTime
  rw [Chronological, List.cons_append, List.pairwise_cons] at chronological
  have answer := answer?_run_of_live host guard present nonempty
    chronological.2 (TtlCache.live_iff_lt_add.mpr inTime)
  rw [← sameKey] at answer
  rw [serve_of_framed host guard framedAgain]
  exact processFrame_of_answer? host guard answer

/-- A client appends a byte, another client filters the file under the same
request id, and the first client sends its request again, 119 seconds later and
with another byte.  Nothing more is appended. -/
theorem repetition_answered_from_cache_append :
    let call : Call :=
      ⟨"10.0.0.1:5000", Sample.appendRequest 7 [0x7A], Sample.instant 0⟩
    let other : Call :=
      ⟨"10.0.0.2:5000", Sample.filterRequest 7 "a.txt", Sample.instant 60⟩
    let again : Call :=
      ⟨"10.0.0.1:5000", Sample.appendRequest 7 [0x21], Sample.instant 119⟩
    let served :=
      serve Sample.host Sample.policyGuard (new Sample.files) call
    let later := run Sample.host Sample.policyGuard served.2 [other]
    serve Sample.host Sample.policyGuard later again = (served.1, later) ∧
      later.workspace.world.get? "/sandbox/notes.txt" =
        some [0x78, 0x0A, 0x79, 0x0A, 0x7A] := by
  intro call other again served later
  have framed : frame? call.data =
      some ⟨1, 4, 0, 0, 7, (call.data.drop headerSize).length⟩ := by
    decide +kernel
  have nonempty : served.1 ≠ [] := by decide +kernel
  obtain ⟨storedAt, _, fresh, repeated⟩ :=
    repetition_answered_from_cache Sample.host Sample.policyGuard framed
      nonempty
  have storedNow : storedAt = call.now.store := fresh (by decide +kernel)
  refine ⟨repeated [other] again
    ⟨1, 4, 0, 0, 7, (again.data.drop headerSize).length⟩ ?_ ?_ ?_ ?_, ?_⟩
  · decide +kernel
  · decide +kernel
  · decide +kernel
  · rw [storedNow]
    decide +kernel
  · decide +kernel

end AgentServer

end RudpAgentStack

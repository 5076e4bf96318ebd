import RudpAgentStack.Agent.Idempotency
import RudpAgentStack.Foundation.StoreLog

/-!
# Runs of the idempotency cache

The calls of `get_response`, `store_response` and `cleanup` in the order they
are made.  The cache answers every request as the log of the stored responses
says, so that neither the deletions of `get_response` nor those of `cleanup`
are ever seen.
-/

namespace RudpAgentStack

open Foundation

/-- A call of a method of the cache, with the reading of the clock. -/
inductive CacheCall
  | getResponse (clientId : Text) (requestId opcode : Int) (now : ℚ)
  | storeResponse
      (clientId : Text) (requestId opcode : Int) (responseData : Bytes)
      (now : ℚ)
  | cleanup (now : ℚ)
  deriving DecidableEq

namespace CacheCall

/-- The time of the call. -/
def now : CacheCall → ℚ
  | .getResponse _ _ _ now => now
  | .storeResponse _ _ _ _ now => now
  | .cleanup now => now

/-- Time does not run backwards from one call to the next. -/
def Chronological (calls : List CacheCall) : Prop :=
  (calls.map now).Pairwise (· ≤ ·)

/-- The cache after a call. -/
def perform (cache : IdempotencyCache) : CacheCall → IdempotencyCache
  | .getResponse clientId requestId opcode now =>
      (cache.getResponse clientId requestId opcode now).2
  | .storeResponse clientId requestId opcode responseData now =>
      cache.storeResponse clientId requestId opcode responseData now
  | .cleanup now => cache.cleanup now

/-- The cache after a list of calls. -/
def performAll
    (cache : IdempotencyCache) (calls : List CacheCall) : IdempotencyCache :=
  calls.foldl perform cache

/-- What the calls of `get_response` in a list return. -/
def answers (cache : IdempotencyCache) : List CacheCall → List (Option Bytes)
  | [] => []
  | .getResponse clientId requestId opcode now :: calls =>
      let (answer, after) := cache.getResponse clientId requestId opcode now
      answer :: answers after calls
  | call :: calls => answers (call.perform cache) calls

/-- The response that a call stores. -/
def stored? : CacheCall → Option (IdempotencyKey × CachedResponse)
  | .storeResponse clientId requestId opcode responseData now =>
      some ((clientId, requestId, opcode), ⟨responseData, now⟩)
  | _ => none

/-- The responses that the calls store, in their order. -/
def storesOf (calls : List CacheCall) :
    StoreLog IdempotencyKey Bytes ℚ :=
  calls.filterMap stored?

/-- A call of `cleanup`. -/
def isCleanup : CacheCall → Bool
  | .cleanup _ => true
  | _ => false

/-- The calls without those of `cleanup`. -/
def withoutCleanups (calls : List CacheCall) : List CacheCall :=
  calls.filter fun call => !call.isCleanup

/-- What the log of stored responses recalls for the calls of `get_response`
in a list that writes on to it. -/
def recalled (log : StoreLog IdempotencyKey Bytes ℚ) :
    List CacheCall → List (Option Bytes)
  | [] => []
  | .getResponse clientId requestId opcode now :: calls =>
      log.remembered idempotencyTtl (clientId, requestId, opcode) now ::
        recalled log calls
  | .storeResponse clientId requestId opcode responseData now :: calls =>
      recalled (log ++ [((clientId, requestId, opcode), ⟨responseData, now⟩)])
        calls
  | .cleanup _ :: calls => recalled log calls

theorem performAll_concat
    (cache : IdempotencyCache) (calls : List CacheCall) (call : CacheCall) :
    performAll cache (calls ++ [call]) =
      call.perform (performAll cache calls) :=
  List.foldl_concat ..

theorem storesOf_append (calls more : List CacheCall) :
    storesOf (calls ++ more) = storesOf calls ++ storesOf more :=
  List.filterMap_append ..

/-- Most calls leave the log as it is. -/
theorem append_storesOf_of_none
    (log : StoreLog IdempotencyKey Bytes ℚ) {call : CacheCall}
    (storesNothing : call.stored? = none) : log ++ storesOf [call] = log := by
  rw [storesOf, List.filterMap_cons_none storesNothing, List.filterMap_nil,
    List.append_nil]

/-- The calls before a call are made at no later time. -/
theorem Chronological.before
    {earlier later : List CacheCall} {call : CacheCall}
    (chronological : Chronological (earlier ++ call :: later)) :
    Chronological earlier ∧ ∀ other ∈ earlier, other.now ≤ call.now := by
  rw [Chronological, List.map_append, List.pairwise_append] at chronological
  obtain ⟨chronological, _, before⟩ := chronological
  refine ⟨chronological, fun other member => ?_⟩
  exact before _ (List.mem_map_of_mem member) _ List.mem_cons_self

/-- The calls after a call are made at no earlier time. -/
theorem Chronological.after
    {later : List CacheCall} {call : CacheCall}
    (chronological : Chronological (call :: later)) :
    Chronological later ∧ ∀ other ∈ later, call.now ≤ other.now := by
  rw [Chronological, List.map_cons, List.pairwise_cons] at chronological
  obtain ⟨after, chronological⟩ := chronological
  refine ⟨chronological, fun other member => ?_⟩
  exact after _ (List.mem_map_of_mem member)

/-! ## Following the log -/

section Following

variable {log : StoreLog IdempotencyKey Bytes ℚ} {cache : IdempotencyCache}
  {now : ℚ}

/-- Step lemma: after every call the cache follows the log with what the call
stores. -/
theorem followedBy_perform
    (followed : log.FollowedBy idempotencyTtl cache now)
    (call : CacheCall) (le : now ≤ call.now) :
    (log ++ storesOf [call]).FollowedBy idempotencyTtl (call.perform cache)
      call.now := by
  cases call with
  | getResponse clientId requestId opcode time =>
      rw [append_storesOf_of_none log rfl]
      exact followed.lookup (clientId, requestId, opcode) le
  | storeResponse clientId requestId opcode responseData time =>
      exact followed.store (clientId, requestId, opcode) responseData le
  | cleanup time =>
      rw [append_storesOf_of_none log rfl]
      exact followed.sweep le

/-- Run lemma: a cache that was empty follows the log of all that was
stored. -/
theorem followedBy_performAll
    {calls : List CacheCall} (chronological : Chronological calls)
    (latest : ∀ call ∈ calls, call.now ≤ now) :
    (storesOf calls).FollowedBy idempotencyTtl (performAll .empty calls)
      now := by
  induction calls using List.reverseRecOn generalizing now with
  | nil => exact .empty idempotencyTtl now
  | append_singleton calls call inductionHypothesis =>
      obtain ⟨chronological, before⟩ := chronological.before
      rw [List.forall_mem_append, List.forall_mem_singleton] at latest
      have followed : (storesOf calls).FollowedBy idempotencyTtl
          (performAll .empty calls) call.now :=
        inductionHypothesis chronological before
      rw [performAll_concat, storesOf_append]
      exact (followedBy_perform followed call le_rfl).mono latest.2

/-- From a cache that follows its log, the answers are those recalled. -/
theorem answers_eq_recalled
    {calls : List CacheCall} (chronological : Chronological calls)
    (followed : log.FollowedBy idempotencyTtl cache now)
    (earliest : ∀ call ∈ calls, now ≤ call.now) :
    answers cache calls = recalled log calls := by
  induction calls generalizing log cache now with
  | nil => rfl
  | cons call calls inductionHypothesis =>
      obtain ⟨chronological, after⟩ := chronological.after
      have following := followedBy_perform followed call
        (earliest call List.mem_cons_self)
      have answered := inductionHypothesis chronological following after
      cases call with
      | getResponse clientId requestId opcode time =>
          rw [append_storesOf_of_none log rfl] at answered
          have answer := followed.lookup_fst (clientId, requestId, opcode)
            (earliest _ List.mem_cons_self)
          exact congrArg₂ List.cons answer answered
      | storeResponse clientId requestId opcode responseData time =>
          exact answered
      | cleanup time =>
          rw [append_storesOf_of_none log rfl] at answered
          exact answered

end Following

/-- The answers of an empty cache are those that an empty log recalls. -/
theorem answers_empty
    {calls : List CacheCall} (chronological : Chronological calls) :
    answers .empty calls = recalled [] calls := by
  cases calls with
  | nil => rfl
  | cons call calls =>
      refine answers_eq_recalled chronological
        (StoreLog.FollowedBy.empty idempotencyTtl call.now) ?_
      rw [List.forall_mem_cons]
      exact ⟨le_rfl, chronological.after.2⟩

/-- The log does not know the calls of `cleanup`. -/
theorem recalled_withoutCleanups
    (log : StoreLog IdempotencyKey Bytes ℚ) (calls : List CacheCall) :
    recalled log (withoutCleanups calls) = recalled log calls := by
  induction calls generalizing log with
  | nil => rfl
  | cons call calls inductionHypothesis =>
      cases call with
      | getResponse clientId requestId opcode time =>
          exact congrArg (_ :: ·) (inductionHypothesis log)
      | storeResponse clientId requestId opcode responseData time =>
          exact inductionHypothesis _
      | cleanup time => exact inductionHypothesis log

/-- In every sequence of calls, `get_response` returns the response stored last
under the key if that was less than the time to live ago, and nothing
otherwise; calls of `cleanup` put in or left out anywhere change no answer. -/
theorem getResponse_eq_lastStored
    {calls : List CacheCall} (chronological : Chronological calls) :
    (∀ earlier later clientId requestId opcode now,
      calls = earlier ++ .getResponse clientId requestId opcode now :: later →
      ((performAll .empty earlier).getResponse clientId requestId opcode
          now).1 =
        match (storesOf earlier).lastStored (clientId, requestId, opcode) with
        | some stored =>
            if now - stored.storedAt < idempotencyTtl then some stored.value
            else none
        | none => none) ∧
      ∀ others, Chronological others →
        withoutCleanups others = withoutCleanups calls →
        answers .empty others = answers .empty calls := by
  constructor
  · rintro earlier later clientId requestId opcode now rfl
    obtain ⟨chronological, before⟩ := chronological.before
    have followed : (storesOf earlier).FollowedBy idempotencyTtl
        (performAll .empty earlier) now :=
      followedBy_performAll chronological before
    apply (followed.lookup_fst (clientId, requestId, opcode) le_rfl).trans
    unfold StoreLog.remembered
    cases (storesOf earlier).lastStored (clientId, requestId, opcode) with
    | none => rfl
    | some stored => rfl
  · intro others othersChronological same
    rw [answers_empty chronological, answers_empty othersChronological,
      ← recalled_withoutCleanups [] others, same, recalled_withoutCleanups]

end CacheCall

namespace Sample

/-- The first of two clients has a response stored twice, the second time when
the first is about to expire, and asks for it; so does the second client. -/
def cacheCalls : List CacheCall :=
  [.storeResponse "c1" 7 1 [0x61] 0, .cleanup 60,
    .storeResponse "c1" 7 1 [0x62] 119, .cleanup 120,
    .getResponse "c1" 7 1 238, .getResponse "c2" 7 1 238,
    .getResponse "c1" 7 1 239]

end Sample

/-- A stored response is found for less than the time to live, the expired
store before it notwithstanding, and leaving the calls of `cleanup` out
changes nothing. -/
theorem getResponse_eq_lastStored_restored :
    (((CacheCall.performAll .empty (Sample.cacheCalls.take 4)).getResponse
        "c1" 7 1 238).1 = some [0x62] ∧
      ((CacheCall.performAll .empty (Sample.cacheCalls.take 6)).getResponse
        "c1" 7 1 239).1 = none) ∧
      CacheCall.answers .empty
          (CacheCall.withoutCleanups Sample.cacheCalls) =
        CacheCall.answers .empty Sample.cacheCalls := by
  have chronological : CacheCall.Chronological Sample.cacheCalls := by
    unfold CacheCall.Chronological
    decide +kernel
  have asStored := CacheCall.getResponse_eq_lastStored chronological
  refine ⟨⟨?_, ?_⟩, ?_⟩
  · apply (asStored.1 (Sample.cacheCalls.take 4) (Sample.cacheCalls.drop 5)
      "c1" 7 1 238 rfl).trans
    decide +kernel
  · apply (asStored.1 (Sample.cacheCalls.take 6) [] "c1" 7 1 239 rfl).trans
    decide +kernel
  · apply asStored.2
    · unfold CacheCall.Chronological
      decide +kernel
    · decide +kernel

end RudpAgentStack

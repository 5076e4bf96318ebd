import RudpAgentStack.Foundation.TtlCache

/-!
# The log of an expiring cache

What a cache is for is said by the list of all stores ever made: a lookup
recalls the last value stored under the key, if that was stored recently
enough.  The log forgets nothing and knows neither lookups nor sweeps.  A cache
that follows its log goes on doing so over every operation, as long as time
does not run backwards.
-/

namespace Foundation

universe u v w

/-- The stores made in a cache, the oldest first. -/
abbrev StoreLog (Key : Type u) (Value : Type v) (Time : Type w) :=
  List (Key × Stamped Value Time)

namespace StoreLog

variable {Key : Type u} {Value : Type v} {Time : Type w} [DecidableEq Key]

/-- The most recent store under a key. -/
def lastStored (log : StoreLog Key Value Time) (key : Key) :
    Option (Stamped Value Time) :=
  (log.filterMap fun made => if made.1 = key then some made.2 else none).getLast?

@[simp] theorem lastStored_nil (key : Key) :
    lastStored ([] : StoreLog Key Value Time) key = none := rfl

theorem lastStored_concat
    (log : StoreLog Key Value Time) (key : Key) (entry : Stamped Value Time)
    (other : Key) :
    lastStored (log ++ [(key, entry)]) other =
      if key = other then some entry else lastStored log other := by
  unfold lastStored
  rw [List.filterMap_append]
  split
  · next same => simp [same]
  · next different => simp [different]

section Remembered

variable [AddCommGroup Time] [LinearOrder Time]

/-- What a lookup should find: the most recently stored value, when less than
the time to live has passed since. -/
def remembered
    (ttl : Time) (log : StoreLog Key Value Time) (key : Key) (now : Time) :
    Option Value :=
  match lastStored log key with
  | some entry =>
      if now - entry.storedAt < ttl then some entry.value else none
  | none => none

/-- From a time on, the cache finds what its log recalls. -/
def FollowedBy
    (ttl : Time) (log : StoreLog Key Value Time)
    (cache : TtlCache Key Value Time) (now : Time) : Prop :=
  ∀ key later, now ≤ later →
    TtlCache.find? ttl cache key later = remembered ttl log key later

/-- Storing a value decides what is recalled under its key, and nothing
else. -/
theorem remembered_concat
    (ttl : Time) (log : StoreLog Key Value Time)
    (key : Key) (value : Value) (storedAt : Time) (other : Key) (now : Time) :
    remembered ttl (log ++ [(key, ⟨value, storedAt⟩)]) other now =
      if other = key then
        if TtlCache.Live ttl now ⟨value, storedAt⟩ then some value else none
      else remembered ttl log other now := by
  unfold remembered
  rw [lastStored_concat]
  by_cases same : other = key
  · rw [if_pos same, if_pos same.symm]
    rfl
  · rw [if_neg same, if_neg (Ne.symm same)]

variable {ttl now later : Time} {log : StoreLog Key Value Time}
  {cache : TtlCache Key Value Time}

/-- An empty cache follows an empty log. -/
theorem FollowedBy.empty (ttl now : Time) :
    FollowedBy ttl ([] : StoreLog Key Value Time) .empty now := by
  intro key later _
  simp [TtlCache.find?, TtlCache.liveEntry, remembered]

theorem FollowedBy.mono
    (followed : FollowedBy ttl log cache now) (le : now ≤ later) :
    FollowedBy ttl log cache later :=
  fun key other after => followed key other (le.trans after)

/-- The answer of a lookup is the one that the log recalls. -/
theorem FollowedBy.lookup_fst
    (followed : FollowedBy ttl log cache now) (key : Key) (le : now ≤ later) :
    (TtlCache.lookup ttl cache key later).1 = remembered ttl log key later := by
  rw [TtlCache.lookup_fst]
  exact followed key later le

/-- A store is written to the log. -/
theorem FollowedBy.store
    (followed : FollowedBy ttl log cache now) (key : Key) (value : Value)
    (le : now ≤ later) :
    FollowedBy ttl (log ++ [(key, ⟨value, later⟩)])
      (TtlCache.store cache key value later) later := by
  intro other time after
  rw [TtlCache.find?_store, remembered_concat,
    followed other time (le.trans after)]

variable [IsOrderedAddMonoid Time]

/-- A lookup is not. -/
theorem FollowedBy.lookup
    (followed : FollowedBy ttl log cache now) (key : Key) (le : now ≤ later) :
    FollowedBy ttl log (TtlCache.lookup ttl cache key later).2 later := by
  intro other time after
  rw [TtlCache.find?_lookup ttl cache key other after]
  exact followed other time (le.trans after)

/-- Nor is a sweep. -/
theorem FollowedBy.sweep
    (followed : FollowedBy ttl log cache now) (le : now ≤ later) :
    FollowedBy ttl log (TtlCache.sweep ttl cache later) later := by
  intro other time after
  rw [TtlCache.find?_sweep ttl cache other after]
  exact followed other time (le.trans after)

end Remembered

end StoreLog

end Foundation

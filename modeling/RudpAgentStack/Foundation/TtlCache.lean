import RudpAgentStack.Foundation.Dict
import Mathlib.Algebra.Order.Group.Defs

/-!
# Caches whose entries expire

Every entry carries the time at which it was stored and may be found for a
fixed time to live.  A lookup that meets an expired entry deletes it.  The
deletion is never visible: once time has passed, what later lookups find does
not depend on the lookups and sweeps made before (`find?_lookup`,
`find?_sweep`), only on the stores (`find?_store`).
-/

namespace Foundation

universe u v w

/-- A value with the time at which it was stored. -/
structure Stamped (Value : Type u) (Time : Type v) where
  /-- The value. -/
  value : Value
  /-- When it was stored. -/
  storedAt : Time
  deriving DecidableEq

/-- A cache: the last value stored under each key, with its time. -/
abbrev TtlCache (Key : Type u) (Value : Type v) (Time : Type w) :=
  Dict Key (Stamped Value Time)

namespace TtlCache

variable {Key : Type u} {Value : Type v} {Time : Type w}
  [DecidableEq Key] [AddCommGroup Time] [LinearOrder Time]

/-- An entry may still be found. -/
def Live (ttl now : Time) (entry : Stamped Value Time) : Prop :=
  now - entry.storedAt < ttl

instance (ttl now : Time) (entry : Stamped Value Time) :
    Decidable (Live ttl now entry) :=
  inferInstanceAs (Decidable (_ < _))

/-- The entry of a key, unless it has expired. -/
def liveEntry
    (ttl : Time) (cache : TtlCache Key Value Time) (key : Key) (now : Time) :
    Option (Stamped Value Time) :=
  (cache.get? key).filter (decide <| Live ttl now ·)

/-- What is found under a key at a given time. -/
def find?
    (ttl : Time) (cache : TtlCache Key Value Time) (key : Key) (now : Time) :
    Option Value :=
  (liveEntry ttl cache key now).map Stamped.value

/-- Look a key up, deleting its entry when that has expired. -/
def lookup
    (ttl : Time) (cache : TtlCache Key Value Time) (key : Key) (now : Time) :
    Option Value × TtlCache Key Value Time :=
  match cache.get? key with
  | some entry =>
      if Live ttl now entry then (some entry.value, cache)
      else (none, cache.del key)
  | none => (none, cache)

/-- Store a value under a key. -/
def store
    (cache : TtlCache Key Value Time) (key : Key) (value : Value)
    (now : Time) : TtlCache Key Value Time :=
  cache.set key ⟨value, now⟩

/-- Delete every expired entry. -/
def sweep
    (ttl : Time) (cache : TtlCache Key Value Time) (now : Time) :
    TtlCache Key Value Time :=
  cache.filter fun _ entry => decide (Live ttl now entry)

/-! ## What lookups find -/

@[simp] theorem lookup_fst
    (ttl : Time) (cache : TtlCache Key Value Time) (key : Key) (now : Time) :
    (lookup ttl cache key now).1 = find? ttl cache key now := by
  unfold lookup find? liveEntry
  cases cache.get? key with
  | none => rfl
  | some entry =>
      by_cases live : Live ttl now entry <;> simp [live, Option.filter_some]

/-- A key is found when its entry is live. -/
theorem find?_eq_some_iff
    {ttl : Time} {cache : TtlCache Key Value Time} {key : Key} {now : Time}
    {value : Value} :
    find? ttl cache key now = some value ↔
      ∃ entry, cache.get? key = some entry ∧ Live ttl now entry ∧
        entry.value = value := by
  simp [find?, liveEntry, Option.filter_eq_some_iff, and_assoc]

/-- A hit leaves the cache as it is. -/
theorem lookup_snd_of_find?
    {ttl : Time} {cache : TtlCache Key Value Time} {key : Key} {now : Time}
    {value : Value}
    (found : find? ttl cache key now = some value) :
    (lookup ttl cache key now).2 = cache := by
  obtain ⟨entry, stored, live, _⟩ := find?_eq_some_iff.mp found
  simp [lookup, stored, live]

/-- A lookup deletes nothing but the expired entry of its own key. -/
theorem get?_lookup
    (ttl : Time) (cache : TtlCache Key Value Time) (key : Key) (now : Time)
    (other : Key) :
    (lookup ttl cache key now).2.get? other =
      if other = key then liveEntry ttl cache key now
      else cache.get? other := by
  unfold lookup liveEntry
  by_cases same : other = key
  · rw [if_pos same, same]
    cases stored : cache.get? key with
    | none => simp [stored]
    | some entry =>
        by_cases live : Live ttl now entry <;>
          simp [live, stored, Dict.get?_del, Option.filter_some]
  · rw [if_neg same]
    cases cache.get? key with
    | none => rfl
    | some entry =>
        by_cases live : Live ttl now entry <;>
          simp [live, same, Dict.get?_del]

/-- A live entry survives every lookup made at that time. -/
theorem get?_lookup_of_live
    {ttl : Time} {cache : TtlCache Key Value Time} {now : Time} {other : Key}
    {entry : Stamped Value Time}
    (stored : cache.get? other = some entry)
    (live : Live ttl now entry)
    (key : Key) :
    (lookup ttl cache key now).2.get? other = some entry := by
  rw [get?_lookup]
  split
  · next same => simp [liveEntry, ← same, stored, live, Option.filter_some]
  · exact stored

/-- What is stored after a lookup was stored before it. -/
theorem get?_of_get?_lookup
    {ttl : Time} {cache : TtlCache Key Value Time} {key : Key} {now : Time}
    {other : Key} {entry : Stamped Value Time}
    (stored : (lookup ttl cache key now).2.get? other = some entry) :
    cache.get? other = some entry := by
  rw [get?_lookup] at stored
  split at stored
  · next same =>
      rw [same]
      exact (Option.filter_eq_some_iff.mp stored).1
  · exact stored

omit [AddCommGroup Time] [LinearOrder Time] in
theorem get?_store
    (cache : TtlCache Key Value Time) (key : Key) (value : Value) (now : Time)
    (other : Key) :
    (store cache key value now).get? other =
      if other = key then some ⟨value, now⟩ else cache.get? other := by
  simp [store, Dict.get?_set]

/-- A stored value is found while its time to live lasts. -/
theorem find?_store
    (ttl : Time) (cache : TtlCache Key Value Time)
    (key : Key) (value : Value) (storedAt : Time) (other : Key) (now : Time) :
    find? ttl (store cache key value storedAt) other now =
      if other = key then
        if Live ttl now ⟨value, storedAt⟩ then some value else none
      else find? ttl cache other now := by
  unfold find? liveEntry
  rw [get?_store]
  split
  · next same =>
      rw [Option.filter_some]
      by_cases live : Live ttl now ⟨value, storedAt⟩ <;> simp [live]
  · rfl

section Ordered

variable [IsOrderedAddMonoid Time]

/-- An expired entry stays expired. -/
theorem Live.of_le
    {ttl now later : Time} {entry : Stamped Value Time}
    (live : Live ttl later entry) (le : now ≤ later) : Live ttl now entry :=
  lt_of_le_of_lt (sub_le_sub_right le _) live

/-- An entry is live before its time of storing plus the time to live. -/
theorem live_iff_lt_add
    {ttl now : Time} {entry : Stamped Value Time} :
    Live ttl now entry ↔ now < entry.storedAt + ttl := by
  rw [Live, sub_lt_iff_lt_add']

/-- Keeping the entries live now does not affect those live later. -/
private theorem filter_live_filter
    {ttl now later : Time} (le : now ≤ later)
    (entry : Option (Stamped Value Time)) :
    (entry.filter (decide <| Live ttl now ·)).filter
        (decide <| Live ttl later ·) =
      entry.filter (decide <| Live ttl later ·) := by
  rw [Option.filter_filter]
  congr 1
  funext entry
  by_cases live : Live ttl later entry
  · simp [live, live.of_le le]
  · simp [live]

/-- Deleting an expired entry changes no later lookup. -/
theorem find?_lookup
    (ttl : Time) (cache : TtlCache Key Value Time) (key other : Key)
    {now later : Time} (le : now ≤ later) :
    find? ttl (lookup ttl cache key now).2 other later =
      find? ttl cache other later := by
  unfold find? liveEntry
  rw [get?_lookup]
  split
  · next same => rw [liveEntry, filter_live_filter le, same]
  · rfl

/-- Sweeping changes no later lookup. -/
theorem find?_sweep
    (ttl : Time) (cache : TtlCache Key Value Time) (other : Key)
    {now later : Time} (le : now ≤ later) :
    find? ttl (sweep ttl cache now) other later =
      find? ttl cache other later := by
  unfold find? liveEntry sweep
  rw [Dict.get?_filter, filter_live_filter le]

end Ordered

end TtlCache

end Foundation

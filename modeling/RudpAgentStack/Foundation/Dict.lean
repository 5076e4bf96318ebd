import Mathlib.Data.List.Basic
import Mathlib.Data.List.Nodup
import Mathlib.Data.Finset.Card

/-!
# Insertion-ordered dictionaries

A dictionary keeps its entries in the order in which their keys were first
inserted, as the dictionaries of scripting languages do.  That no key occurs
twice is a field of the structure.  Overwriting a key keeps its position, and
deletion closes the gap.  Every operation is characterised by its effect on
lookups, and size facts are obtained from the finite set of keys.
-/

namespace Foundation

universe u v w

/-- A finite map that remembers the order in which its keys were inserted. -/
structure Dict (Key : Type u) (Value : Type v) where
  /-- The entries, oldest key first. -/
  entries : List (Key × Value)
  /-- No key occurs twice. -/
  nodup : (entries.map Prod.fst).Nodup
  deriving DecidableEq

namespace Dict

variable {Key : Type u} {Value : Type v}

/-- The dictionary without entries. -/
def empty : Dict Key Value := ⟨[], List.nodup_nil⟩

/-- The keys, in insertion order. -/
def keys (dict : Dict Key Value) : List Key := dict.entries.map Prod.fst

/-- The values, in the insertion order of their keys. -/
def values (dict : Dict Key Value) : List Value := dict.entries.map Prod.snd

/-- Number of entries. -/
def size (dict : Dict Key Value) : Nat := dict.entries.length

instance : Membership Key (Dict Key Value) := ⟨fun dict key => key ∈ dict.keys⟩

instance [DecidableEq Key] (key : Key) (dict : Dict Key Value) :
    Decidable (key ∈ dict) :=
  inferInstanceAs (Decidable (key ∈ dict.keys))

/-- Keep the entries that satisfy a predicate. -/
def filter
    (keep : Key → Value → Bool) (dict : Dict Key Value) : Dict Key Value where
  entries := dict.entries.filter fun entry => keep entry.1 entry.2
  nodup := dict.nodup.sublist (List.filter_sublist.map _)

theorem mem_keys_iff (dict : Dict Key Value) (key : Key) :
    key ∈ dict ↔ key ∈ dict.keys := Iff.rfl

@[simp] theorem not_mem_empty (key : Key) :
    key ∉ (empty : Dict Key Value) := List.not_mem_nil

@[simp] theorem size_empty : (empty : Dict Key Value).size = 0 := rfl

theorem size_filter_le
    (dict : Dict Key Value) (keep : Key → Value → Bool) :
    (dict.filter keep).size ≤ dict.size :=
  List.length_filter_le _ _

/-- Filtering twice is filtering for both. -/
theorem filter_filter
    (dict : Dict Key Value) (first second : Key → Value → Bool) :
    (dict.filter first).filter second =
      dict.filter fun key value => first key value && second key value := by
  simp only [filter, List.filter_filter, mk.injEq]
  apply List.filter_congr
  intro entry _
  exact Bool.and_comm _ _

/-- Only the empty dictionary has no keys. -/
theorem size_eq_zero_iff (dict : Dict Key Value) :
    dict.size = 0 ↔ ∀ key, key ∉ dict := by
  simp only [size, List.length_eq_zero_iff, mem_keys_iff, keys]
  constructor
  · intro noEntries
    simp [noEntries]
  · intro noKeys
    apply List.eq_nil_iff_forall_not_mem.mpr
    intro entry member
    exact noKeys entry.1 (List.mem_map.mpr ⟨entry, member, rfl⟩)

theorem eq_of_entries
    {first second : Dict Key Value} (same : first.entries = second.entries) :
    first = second := by
  cases first
  cases second
  cases same
  rfl

section DecidableKeys

variable [DecidableEq Key]

/-- The value stored under a key, if any. -/
def get? (dict : Dict Key Value) (key : Key) : Option Value :=
  dict.entries.lookup key

/-- Entries after storing a value: an existing key keeps its position, a new
one goes to the end. -/
def setEntries
    (entries : List (Key × Value)) (key : Key) (value : Value) :
    List (Key × Value) :=
  if key ∈ entries.map Prod.fst then
    entries.map fun entry => if entry.1 = key then (key, value) else entry
  else entries ++ [(key, value)]

theorem nodup_setEntries
    {entries : List (Key × Value)}
    (nodup : (entries.map Prod.fst).Nodup)
    (key : Key) (value : Value) :
    ((setEntries entries key value).map Prod.fst).Nodup := by
  unfold setEntries
  split
  · have sameKeys :
        (entries.map fun entry =>
          if entry.1 = key then (key, value) else entry).map Prod.fst =
        entries.map Prod.fst := by
      rw [List.map_map]
      apply List.map_congr_left
      intro entry _
      by_cases same : entry.1 = key <;> simp [same]
    rw [sameKeys]
    exact nodup
  · next absent =>
      rw [List.map_append, List.nodup_append]
      refine ⟨nodup, by simp, ?_⟩
      intro left leftMember right rightMember
      simp only [List.map_cons, List.map_nil, List.mem_singleton] at rightMember
      rintro rfl
      exact absent (rightMember ▸ leftMember)

/-- Store a value under a key. -/
def set (dict : Dict Key Value) (key : Key) (value : Value) :
    Dict Key Value where
  entries := setEntries dict.entries key value
  nodup := nodup_setEntries dict.nodup key value

/-- Remove a key. -/
def del (dict : Dict Key Value) (key : Key) : Dict Key Value :=
  dict.filter fun other _ => decide (other ≠ key)

/-! ## Lookups -/

private theorem lookup_eq_some_iff_mem
    {entries : List (Key × Value)}
    (nodup : (entries.map Prod.fst).Nodup)
    (key : Key) (value : Value) :
    entries.lookup key = some value ↔ (key, value) ∈ entries := by
  induction entries with
  | nil => simp
  | cons entry entries inductionHypothesis =>
      obtain ⟨otherKey, otherValue⟩ := entry
      rw [List.map_cons, List.nodup_cons] at nodup
      by_cases same : key = otherKey
      · subst same
        have absent : (key, value) ∉ entries := fun member =>
          nodup.1 (List.mem_map.mpr ⟨(key, value), member, rfl⟩)
        simp [absent, eq_comm]
      · have different : (key == otherKey) = false := by simpa using same
        rw [List.lookup_cons, different]
        simp [inductionHypothesis nodup.2, same]

/-- A lookup finds exactly the stored entries. -/
theorem get?_eq_some_iff
    (dict : Dict Key Value) (key : Key) (value : Value) :
    dict.get? key = some value ↔ (key, value) ∈ dict.entries :=
  lookup_eq_some_iff_mem dict.nodup key value

/-- A key is present exactly when its lookup succeeds. -/
theorem mem_iff_exists_get? (dict : Dict Key Value) (key : Key) :
    key ∈ dict ↔ ∃ value, dict.get? key = some value := by
  simp only [mem_keys_iff, keys, get?_eq_some_iff, List.mem_map]
  constructor
  · rintro ⟨⟨_, value⟩, member, rfl⟩
    exact ⟨value, member⟩
  · rintro ⟨value, member⟩
    exact ⟨(key, value), member, rfl⟩

/-- A key is absent exactly when its lookup fails. -/
theorem get?_eq_none_iff (dict : Dict Key Value) (key : Key) :
    dict.get? key = none ↔ key ∉ dict := by
  rw [mem_iff_exists_get?, ← Option.isSome_iff_exists]
  simp

theorem mem_of_get? {dict : Dict Key Value} {key : Key} {value : Value}
    (found : dict.get? key = some value) : key ∈ dict :=
  (dict.mem_iff_exists_get? key).mpr ⟨value, found⟩

@[simp] theorem get?_empty (key : Key) :
    (empty : Dict Key Value).get? key = none := rfl

@[simp] theorem get?_filter
    (dict : Dict Key Value) (keep : Key → Value → Bool) (key : Key) :
    (dict.filter keep).get? key = (dict.get? key).filter (keep key) := by
  apply Option.ext
  intro value
  rw [get?_eq_some_iff, Option.filter_eq_some_iff, get?_eq_some_iff]
  simp [filter]

/-- The lookups of a dictionary after one store. -/
theorem get?_set
    (dict : Dict Key Value) (key : Key) (value : Value) (other : Key) :
    (dict.set key value).get? other =
      if other = key then some value else dict.get? other := by
  apply Option.ext
  intro candidate
  rw [get?_eq_some_iff]
  simp only [set, setEntries]
  by_cases present : key ∈ dict.entries.map Prod.fst
  · rw [if_pos present]
    by_cases same : other = key
    · subst same
      simp only [List.mem_map, if_true, Option.some.injEq]
      constructor
      · rintro ⟨entry, _, equal⟩
        by_cases sameKey : entry.1 = other
        · simp only [sameKey, if_true, Prod.mk.injEq, true_and] at equal
          exact equal
        · simp only [sameKey, if_false] at equal
          exact absurd (congrArg Prod.fst equal) sameKey
      · rintro rfl
        obtain ⟨entry, member, keyEquality⟩ := List.mem_map.mp present
        exact ⟨entry, member, by simp [keyEquality]⟩
    · simp only [if_neg same, List.mem_map, get?_eq_some_iff]
      constructor
      · rintro ⟨entry, member, equal⟩
        by_cases sameKey : entry.1 = key
        · simp only [sameKey, if_true, Prod.mk.injEq] at equal
          exact absurd equal.1.symm same
        · simp only [sameKey, if_false] at equal
          exact equal ▸ member
      · intro member
        exact ⟨(other, candidate), member, by simp [same]⟩
  · rw [if_neg present]
    simp only [List.mem_append, List.mem_singleton, Prod.mk.injEq]
    by_cases same : other = key
    · subst same
      have absent : (other, candidate) ∉ dict.entries := fun member =>
        present (List.mem_map.mpr ⟨(other, candidate), member, rfl⟩)
      simp [absent, eq_comm]
    · simp [same, get?_eq_some_iff]

@[simp] theorem get?_set_self
    (dict : Dict Key Value) (key : Key) (value : Value) :
    (dict.set key value).get? key = some value := by
  simp [get?_set]

theorem get?_set_of_ne
    (dict : Dict Key Value) (value : Value) {key other : Key}
    (different : other ≠ key) :
    (dict.set key value).get? other = dict.get? other := by
  simp [get?_set, different]

/-- Replace every value by a function of it. -/
def mapValues (transform : Value → Value) (dict : Dict Key Value) :
    Dict Key Value where
  entries := dict.entries.map fun entry => (entry.1, transform entry.2)
  nodup := by simpa [Function.comp_def] using dict.nodup

@[simp] theorem get?_mapValues
    (transform : Value → Value) (dict : Dict Key Value) (key : Key) :
    (dict.mapValues transform).get? key = (dict.get? key).map transform := by
  apply Option.ext
  intro value
  simp only [get?_eq_some_iff, Option.map_eq_some_iff, mapValues,
    List.mem_map, Prod.mk.injEq]
  constructor
  · rintro ⟨⟨other, old⟩, member, rfl, rfl⟩
    exact ⟨old, member, rfl⟩
  · rintro ⟨old, member, rfl⟩
    exact ⟨(key, old), member, rfl, rfl⟩

/-- What all values produce, each item with the key of its value. -/
def collect {Item : Type w} (produce : Value → List Item)
    (dict : Dict Key Value) : List (Item × Key) :=
  dict.entries.flatMap fun entry =>
    (produce entry.2).map fun item => (item, entry.1)

/-- Among what all values produce, one key stands for the items of its own
value. -/
theorem filter_collect {Item : Type w}
    (produce : Value → List Item) (dict : Dict Key Value) (key : Key) :
    ((dict.collect produce).filter fun entry => entry.2 = key).map Prod.fst =
      (dict.get? key).elim [] produce := by
  obtain ⟨entries, nodup⟩ := dict
  simp only [collect, get?]
  induction entries with
  | nil => rfl
  | cons entry rest inductionHypothesis =>
      obtain ⟨other, value⟩ := entry
      rw [List.map_cons, List.nodup_cons] at nodup
      have inRest := inductionHypothesis nodup.2
      rw [List.flatMap_cons, List.filter_append, List.map_append, inRest,
        List.lookup_cons]
      by_cases same : key = other
      · subst same
        have absent : rest.lookup key = none := by
          rw [List.lookup_eq_none_iff]
          intro entry member
          have different : key ≠ entry.1 := by
            rintro rfl
            exact nodup.1 (List.mem_map.mpr ⟨entry, member, rfl⟩)
          simpa using different
        simp [absent, List.filter_map, Function.comp_def]
      · have different : other ≠ key := fun equal => same equal.symm
        rw [beq_false_of_ne same]
        simp [different, List.filter_map, Function.comp_def]

theorem get?_del (dict : Dict Key Value) (key other : Key) :
    (dict.del key).get? other =
      if other = key then none else dict.get? other := by
  by_cases same : other = key <;>
    cases found : dict.get? other <;>
    simp [del, same, found]

/-! ## Membership -/

theorem mem_set
    (dict : Dict Key Value) (key : Key) (value : Value) (other : Key) :
    other ∈ dict.set key value ↔ other = key ∨ other ∈ dict := by
  simp only [mem_iff_exists_get?, get?_set]
  by_cases same : other = key <;> simp [same]

theorem mem_del (dict : Dict Key Value) (key other : Key) :
    other ∈ dict.del key ↔ other ≠ key ∧ other ∈ dict := by
  simp only [mem_iff_exists_get?, get?_del]
  by_cases same : other = key <;> simp [same]

/-- Filtering by key keeps exactly the keys that satisfy the predicate. -/
theorem mem_filter_key
    (dict : Dict Key Value) (keep : Key → Bool) (key : Key) :
    key ∈ dict.filter (fun other _ => keep other) ↔
      keep key = true ∧ key ∈ dict := by
  simp only [mem_iff_exists_get?, get?_filter, Option.filter_eq_some_iff]
  constructor
  · rintro ⟨value, found, kept⟩
    exact ⟨kept, value, found⟩
  · rintro ⟨kept, value, found⟩
    exact ⟨value, found, kept⟩

/-! ## Entries and sizes -/

/-- Storing under a new key appends the entry. -/
theorem entries_set_of_not_mem
    {dict : Dict Key Value} {key : Key}
    (absent : key ∉ dict) (value : Value) :
    (dict.set key value).entries = dict.entries ++ [(key, value)] := by
  simp only [set, setEntries]
  exact if_neg absent

/-- Overwriting a key replaces its value in place. -/
theorem entries_set_of_mem
    {dict : Dict Key Value} {key : Key}
    (present : key ∈ dict) (value : Value) :
    (dict.set key value).entries = dict.entries.map fun entry =>
      if entry.1 = key then (key, value) else entry := by
  simp only [set, setEntries]
  exact if_pos present

/-- Storing the value that is there changes nothing. -/
theorem set_of_get?
    {dict : Dict Key Value} {key : Key} {value : Value}
    (found : dict.get? key = some value) : dict.set key value = dict := by
  apply eq_of_entries
  rw [entries_set_of_mem (mem_of_get? found)]
  refine (List.map_congr_left ?_).trans (List.map_id _)
  rintro ⟨other, stored⟩ member
  rw [← get?_eq_some_iff] at member
  by_cases same : other = key
  · subst same
    rw [found, Option.some.injEq] at member
    simp [member]
  · simp [same]

/-- The later of two stores under a key counts. -/
@[simp] theorem set_set
    (dict : Dict Key Value) (key : Key) (first second : Value) :
    (dict.set key first).set key second = dict.set key second := by
  apply eq_of_entries
  rw [entries_set_of_mem ((mem_set dict key first key).mpr (.inl rfl))]
  by_cases present : key ∈ dict
  · rw [entries_set_of_mem present, entries_set_of_mem present, List.map_map]
    apply List.map_congr_left
    intro entry _
    by_cases same : entry.1 = key <;> simp [same]
  · rw [entries_set_of_not_mem present, entries_set_of_not_mem present,
      List.map_append, List.map_singleton, if_pos rfl]
    congr 1
    refine (List.map_congr_left ?_).trans (List.map_id _)
    intro entry member
    apply if_neg
    rintro rfl
    exact present (List.mem_map.mpr ⟨entry, member, rfl⟩)

/-- Removing a key removes what was stored last. -/
@[simp] theorem del_set
    (dict : Dict Key Value) (key : Key) (value : Value) :
    (dict.set key value).del key = dict.del key := by
  apply eq_of_entries
  simp only [del, filter]
  by_cases present : key ∈ dict
  · rw [entries_set_of_mem present, List.filter_map]
    refine (List.map_congr_left ?_).trans ((List.map_id _).trans ?_)
    · intro entry member
      apply if_neg
      rintro rfl
      simp at member
    · apply List.filter_congr
      intro entry _
      by_cases same : entry.1 = key <;> simp [same]
  · rw [entries_set_of_not_mem present, List.filter_append]
    simp

/-- Store a value under a key, or remove the key. -/
def assign (dict : Dict Key Value) (key : Key) : Option Value → Dict Key Value
  | some value => dict.set key value
  | none => dict.del key

theorem get?_assign
    (dict : Dict Key Value) (key : Key) (value : Option Value) (other : Key) :
    (dict.assign key value).get? other =
      if other = key then value else dict.get? other := by
  cases value with
  | some value => apply get?_set
  | none => apply get?_del

@[simp] theorem get?_assign_self
    (dict : Dict Key Value) (key : Key) (value : Option Value) :
    (dict.assign key value).get? key = value := by
  simp [get?_assign]

@[simp] theorem assign_set
    (dict : Dict Key Value) (key : Key) (first : Value)
    (second : Option Value) :
    (dict.set key first).assign key second = dict.assign key second := by
  cases second with
  | some second => apply set_set
  | none => apply del_set

/-- Removing a key that is not there changes nothing. -/
theorem del_of_get?
    {dict : Dict Key Value} {key : Key} (absent : dict.get? key = none) :
    dict.del key = dict := by
  apply eq_of_entries
  simp only [del, filter]
  rw [List.filter_eq_self]
  intro entry member
  have present : entry.1 ∈ dict := List.mem_map.mpr ⟨entry, member, rfl⟩
  rw [get?_eq_none_iff] at absent
  apply decide_eq_true
  rintro rfl
  exact absent present

@[simp] theorem assign_get? (dict : Dict Key Value) (key : Key) :
    dict.assign key (dict.get? key) = dict := by
  cases found : dict.get? key with
  | some value => exact set_of_get? found
  | none => exact del_of_get? found

theorem size_set_of_not_mem
    {dict : Dict Key Value} {key : Key}
    (absent : key ∉ dict) (value : Value) :
    (dict.set key value).size = dict.size + 1 := by
  simp [size, entries_set_of_not_mem absent]

theorem size_set_of_mem
    {dict : Dict Key Value} {key : Key}
    (present : key ∈ dict) (value : Value) :
    (dict.set key value).size = dict.size := by
  simp [size, entries_set_of_mem present]

theorem size_set_le (dict : Dict Key Value) (key : Key) (value : Value) :
    (dict.set key value).size ≤ dict.size + 1 := by
  by_cases present : key ∈ dict
  · rw [size_set_of_mem present]
    omega
  · rw [size_set_of_not_mem present]

/-- The entry of a present key is the only one with this key. -/
theorem entries_filter_key
    {dict : Dict Key Value} {key : Key} {value : Value}
    (found : dict.get? key = some value) :
    (dict.entries.filter fun entry => decide (entry.1 = key)) =
      [(key, value)] := by
  have member := (dict.get?_eq_some_iff key value).mp found
  have alike : ∀ entry ∈ dict.entries.filter fun entry =>
      decide (entry.1 = key), entry = (key, value) := by
    rintro ⟨other, stored⟩ kept
    obtain ⟨inside, same⟩ := List.mem_filter.mp kept
    obtain rfl : other = key := of_decide_eq_true same
    rw [← dict.get?_eq_some_iff, found, Option.some.injEq] at inside
    rw [inside]
  have entriesNodup : dict.entries.Nodup := List.Nodup.of_map _ dict.nodup
  have repeated := List.eq_replicate_of_mem alike
  have single := entriesNodup.filter fun entry => decide (entry.1 = key)
  rw [repeated, List.nodup_replicate] at single
  have inside : (key, value) ∈ dict.entries.filter fun entry =>
      decide (entry.1 = key) := List.mem_filter.mpr ⟨member, by simp⟩
  have positive := List.length_pos_of_mem inside
  rw [repeated, show (dict.entries.filter fun entry =>
    decide (entry.1 = key)).length = 1 by omega]
  rfl

/-- Removing a present key removes one entry. -/
theorem size_del_add_one
    {dict : Dict Key Value} {key : Key}
    (present : key ∈ dict) :
    (dict.del key).size + 1 = dict.size := by
  obtain ⟨value, found⟩ := (dict.mem_iff_exists_get? key).mp present
  have alone := congrArg List.length (entries_filter_key found)
  rw [← List.countP_eq_length_filter, List.length_singleton] at alone
  have parts := List.length_eq_countP_add_countP
    (l := dict.entries) fun entry => decide (entry.1 = key)
  have kept : (dict.del key).size =
      dict.entries.countP fun entry => decide ¬ entry.1 = key := by
    rw [List.countP_eq_length_filter]
    rfl
  simp only [decide_eq_true_eq] at parts
  simp only [size] at kept ⊢
  omega

/-- Removing a present key makes the dictionary smaller. -/
theorem size_del_lt
    {dict : Dict Key Value} {key : Key}
    (present : key ∈ dict) :
    (dict.del key).size < dict.size := by
  have := size_del_add_one present
  omega

/-- The number of entries is the number of distinct keys. -/
theorem size_eq_card (dict : Dict Key Value) :
    dict.size = dict.keys.toFinset.card := by
  rw [keys, List.toFinset_card_of_nodup dict.nodup, List.length_map, size]

/-- A dictionary whose keys are exactly a finite set has that many entries. -/
theorem size_eq_card_of_mem_iff
    {dict : Dict Key Value} (keySet : Finset Key)
    (exactly : ∀ key, key ∈ dict ↔ key ∈ keySet) :
    dict.size = keySet.card := by
  rw [size_eq_card]
  congr 1
  ext key
  rw [List.mem_toFinset]
  exact exactly key

/-- A dictionary that has all keys of a finite set has at least that many
entries. -/
theorem card_le_size_of_mem
    {dict : Dict Key Value} (keySet : Finset Key)
    (present : ∀ key ∈ keySet, key ∈ dict) :
    keySet.card ≤ dict.size := by
  rw [size_eq_card]
  apply Finset.card_le_card
  intro key member
  exact List.mem_toFinset.mpr (present key member)

/-- A dictionary whose keys all lie in a finite set has at most that many
entries. -/
theorem size_le_card_of_mem
    {dict : Dict Key Value} (keySet : Finset Key)
    (within : ∀ key, key ∈ dict → key ∈ keySet) :
    dict.size ≤ keySet.card := by
  rw [size_eq_card]
  apply Finset.card_le_card
  intro key member
  exact within key (List.mem_toFinset.mp member)

end DecidableKeys

end Dict

end Foundation

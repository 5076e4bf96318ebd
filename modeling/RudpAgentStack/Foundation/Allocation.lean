import Mathlib.Data.Finset.Insert
import Mathlib.Data.Finset.Erase
import Mathlib.Logic.Function.Basic

/-!
# Resources and their holders

Every holder holds at most one resource, and no resource has two holders.  The
set of resources in use is kept next to the holdings, and is exactly the set of
those that are held.
-/

namespace Foundation

universe u v

variable {Holder : Type u} {Resource : Type v}

/-- No resource has two holders, and those in use are those that are held. -/
structure Allocated
    (held : Holder → Option Resource) (used : Finset Resource) : Prop where
  exclusive : ∀ {holder other resource},
    held holder = some resource → held other = some resource → holder = other
  mem_used_iff : ∀ resource,
    resource ∈ used ↔ ∃ holder, held holder = some resource

namespace Allocated

theorem empty :
    Allocated (fun _ => none : Holder → Option Resource) ∅ := by
  refine ⟨nofun, fun resource => ?_⟩
  simp

variable [DecidableEq Holder] [DecidableEq Resource]
  {held : Holder → Option Resource} {used : Finset Resource}

/-- A resource that is not in use is given to a holder that has none. -/
theorem claim
    (allocated : Allocated held used) {holder : Holder} {resource : Resource}
    (free : resource ∉ used) (without : held holder = none) :
    Allocated (Function.update held holder (some resource))
      (insert resource used) := by
  have unheld : ∀ other, held other ≠ some resource := fun other holds =>
    free ((allocated.mem_used_iff resource).mpr ⟨other, holds⟩)
  constructor
  · intro first second found firstHolds secondHolds
    rw [Function.update_apply] at firstHolds secondHolds
    split at firstHolds <;> split at secondHolds
    · next isFirst isSecond => exact isFirst.trans isSecond.symm
    · cases firstHolds
      exact absurd secondHolds (unheld second)
    · cases secondHolds
      exact absurd firstHolds (unheld first)
    · exact allocated.exclusive firstHolds secondHolds
  · intro other
    rw [Finset.mem_insert, allocated.mem_used_iff]
    constructor
    · rintro (rfl | ⟨owner, holds⟩)
      · exact ⟨holder, Function.update_self _ _ _⟩
      · refine ⟨owner, ?_⟩
        rw [Function.update_of_ne, holds]
        rintro rfl
        rw [without] at holds
        cases holds
    · rintro ⟨owner, holds⟩
      rw [Function.update_apply] at holds
      split at holds
      · exact .inl (Option.some.inj holds).symm
      · exact .inr ⟨owner, holds⟩

/-- A holder gives its resource back. -/
theorem release
    (allocated : Allocated held used) {holder : Holder} {resource : Resource}
    (holds : held holder = some resource) :
    Allocated (Function.update held holder none) (used.erase resource) := by
  constructor
  · intro first second found firstHolds secondHolds
    rw [Function.update_apply] at firstHolds secondHolds
    split at firstHolds <;> split at secondHolds
    · cases firstHolds
    · cases firstHolds
    · cases secondHolds
    · exact allocated.exclusive firstHolds secondHolds
  · intro other
    rw [Finset.mem_erase, allocated.mem_used_iff]
    constructor
    · rintro ⟨different, owner, ownerHolds⟩
      refine ⟨owner, ?_⟩
      rw [Function.update_of_ne, ownerHolds]
      rintro rfl
      exact different (Option.some.inj (ownerHolds.symm.trans holds))
    · rintro ⟨owner, ownerHolds⟩
      rw [Function.update_apply] at ownerHolds
      split at ownerHolds
      · cases ownerHolds
      · next notHolder =>
          refine ⟨?_, owner, ownerHolds⟩
          rintro rfl
          exact notHolder (allocated.exclusive ownerHolds holds)

end Allocated

end Foundation

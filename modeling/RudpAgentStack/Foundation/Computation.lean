import Mathlib.Tactic.Common

/-!
# Computations that may raise

A computation on a state returns a value or raises an exception, and keeps its
effects when it raises.  `Ends` describes how a computation ends from a given
state, with one equation for each construct of a program.  `Keeps` describes
computations that keep an invariant, with one rule for each construct.
-/

namespace Foundation

variable {ε σ α β : Type}

theorem run_bind
    (first : ExceptT ε (StateM σ) α) (rest : α → ExceptT ε (StateM σ) β)
    (state : σ) :
    (first >>= rest).run state =
      match first.run state with
      | (.ok value, after) => (rest value).run after
      | (.error error, after) => (.error error, after) := by
  rw [ExceptT.run_bind]
  change StateT.run (_ >>= _) state = _
  have sameRun : StateT.run (ExceptT.run first) state = first.run state := rfl
  rw [StateT.run_bind, sameRun]
  generalize first.run state = result
  obtain ⟨error | value, after⟩ := result <;> rfl

/-- A sequence returns when both of its parts do. -/
theorem run_bind_eq_ok_iff
    {first : ExceptT ε (StateM σ) α} {rest : α → ExceptT ε (StateM σ) β}
    {state final : σ} {result : β} :
    (first >>= rest).run state = (.ok result, final) ↔
      ∃ value after, first.run state = (.ok value, after) ∧
        (rest value).run after = (.ok result, final) := by
  rw [run_bind]
  generalize first.run state = outcome
  obtain ⟨error | value, after⟩ := outcome
  · constructor
    · nofun
    · rintro ⟨value, between, returned, _⟩
      cases returned
  · constructor
    · exact fun run => ⟨value, after, rfl, run⟩
    · rintro ⟨_, _, ⟨⟩, run⟩
      exact run

/-- A sequence raises when one of its parts does. -/
theorem run_bind_eq_error_iff
    {first : ExceptT ε (StateM σ) α} {rest : α → ExceptT ε (StateM σ) β}
    {state final : σ} {error : ε} :
    (first >>= rest).run state = (.error error, final) ↔
      first.run state = (.error error, final) ∨
      ∃ value after, first.run state = (.ok value, after) ∧
        (rest value).run after = (.error error, final) := by
  rw [run_bind]
  generalize first.run state = outcome
  obtain ⟨raised | value, after⟩ := outcome
  · constructor
    · intro same
      cases same
      exact .inl rfl
    · rintro (same | ⟨value, between, returned, _⟩)
      · cases same
        rfl
      · cases returned
  · constructor
    · exact fun run => .inr ⟨value, after, rfl, run⟩
    · rintro (raised | ⟨_, _, ⟨⟩, run⟩)
      · cases raised
      · exact run

theorem run_lift_eq_ok_iff
    {result : Except ε α} {state after : σ} {value : α} :
    (liftM result : ExceptT ε (StateM σ) α).run state = (.ok value, after) ↔
      result = .ok value ∧ state = after := by
  change (result, state) = (Except.ok value, after) ↔ _
  rw [Prod.mk.injEq]

theorem run_pure_eq_ok_iff {state after : σ} {value result : α} :
    (pure value : ExceptT ε (StateM σ) α).run state = (.ok result, after) ↔
      value = result ∧ state = after := by
  change (Except.ok value, state) = (Except.ok result, after) ↔ _
  rw [Prod.mk.injEq, Except.ok.injEq]

/-- An exception is handled in the state in which it was raised. -/
theorem run_tryCatch
    (body : ExceptT ε (StateM σ) α) (handler : ε → ExceptT ε (StateM σ) α)
    (state : σ) :
    (tryCatch body handler).run state =
      match body.run state with
      | (.ok value, after) => (.ok value, after)
      | (.error error, after) => (handler error).run after := by
  rw [ExceptT.run_tryCatch]
  change StateT.run (_ >>= _) state = _
  have sameRun : StateT.run (ExceptT.run body) state = body.run state := rfl
  rw [StateT.run_bind, sameRun]
  generalize body.run state = result
  obtain ⟨error | value, after⟩ := result <;> rfl

/-- A guarded computation returns when its body does, or its handler. -/
theorem run_tryCatch_eq_ok_iff
    {body : ExceptT ε (StateM σ) α} {handler : ε → ExceptT ε (StateM σ) α}
    {state final : σ} {result : α} :
    (tryCatch body handler).run state = (.ok result, final) ↔
      body.run state = (.ok result, final) ∨
      ∃ error after, body.run state = (.error error, after) ∧
        (handler error).run after = (.ok result, final) := by
  rw [run_tryCatch]
  generalize body.run state = outcome
  obtain ⟨raised | value, after⟩ := outcome
  · constructor
    · exact fun run => .inr ⟨raised, after, rfl, run⟩
    · rintro (returned | ⟨_, _, ⟨⟩, run⟩)
      · cases returned
      · exact run
  · constructor
    · exact .inl
    · rintro (returned | ⟨_, _, raised, _⟩)
      · exact returned
      · cases raised

/-- From a state, a computation returns a value or raises an exception, and
leaves a state, as described. -/
def Ends
    (action : ExceptT ε (StateM σ) α) (state : σ)
    (returned : α → σ → Prop) (raised : ε → σ → Prop) : Prop :=
  match action.run state with
  | (.ok value, after) => returned value after
  | (.error error, after) => raised error after

namespace Ends

variable
  {action : ExceptT ε (StateM σ) α} {state : σ}
  {returned : α → σ → Prop} {raised : ε → σ → Prop}

theorem of_run_ok
    {value : α} {after : σ}
    (run : action.run state = (.ok value, after)) :
    Ends action state returned raised ↔ returned value after := by
  unfold Ends
  rw [run]

theorem of_run_error
    {error : ε} {after : σ}
    (run : action.run state = (.error error, after)) :
    Ends action state returned raised ↔ raised error after := by
  unfold Ends
  rw [run]

/-- How a computation ends, as a description of its two kinds of result. -/
theorem iff_forall :
    Ends action state returned raised ↔
      (∀ value after, action.run state = (.ok value, after) →
        returned value after) ∧
      (∀ error after, action.run state = (.error error, after) →
        raised error after) := by
  unfold Ends
  generalize action.run state = result
  obtain ⟨error | value, after⟩ := result
  · constructor
    · intro holds
      refine ⟨nofun, ?_⟩
      rintro _ _ ⟨⟩
      exact holds
    · exact fun holds => holds.2 error after rfl
  · constructor
    · intro holds
      refine ⟨?_, nofun⟩
      rintro _ _ ⟨⟩
      exact holds
    · exact fun holds => holds.1 value after rfl

theorem mono
    {returned' : α → σ → Prop} {raised' : ε → σ → Prop}
    (ends : Ends action state returned raised)
    (onReturn : ∀ value after, returned value after → returned' value after)
    (onRaise : ∀ error after, raised error after → raised' error after) :
    Ends action state returned' raised' := by
  unfold Ends at ends ⊢
  generalize action.run state = result at ends ⊢
  obtain ⟨error | value, after⟩ := result
  · exact onRaise error after ends
  · exact onReturn value after ends

theorem and
    {returned' : α → σ → Prop} {raised' : ε → σ → Prop}
    (ends : Ends action state returned raised)
    (ends' : Ends action state returned' raised') :
    Ends action state
      (fun value after => returned value after ∧ returned' value after)
      (fun error after => raised error after ∧ raised' error after) := by
  unfold Ends at ends ends' ⊢
  generalize action.run state = result at ends ends' ⊢
  obtain ⟨error | value, after⟩ := result <;> exact ⟨ends, ends'⟩

/-- What holds however a computation ends holds of the state it leaves. -/
theorem run {left : σ → Prop}
    (ends : Ends action state (fun _ after => left after)
      (fun _ after => left after)) :
    left (action.run state).2 := by
  unfold Ends at ends
  generalize action.run state = result at ends
  obtain ⟨error | value, after⟩ := result <;> exact ends

theorem of_run {left : σ → Prop} (holds : left (action.run state).2) :
    Ends action state (fun _ after => left after)
      (fun _ after => left after) := by
  unfold Ends
  generalize action.run state = result at holds
  obtain ⟨error | value, after⟩ := result <;> exact holds

/-! ## Equations -/

@[simp] theorem pure_iff (value : α) :
    Ends (pure value : ExceptT ε (StateM σ) α) state returned raised ↔
      returned value state := Iff.rfl

@[simp] theorem throw_iff (error : ε) :
    Ends (throw error : ExceptT ε (StateM σ) α) state returned raised ↔
      raised error state := Iff.rfl

@[simp] theorem lift_iff (result : Except ε α) :
    Ends (liftM result : ExceptT ε (StateM σ) α) state returned raised ↔
      match result with
      | .ok value => returned value state
      | .error error => raised error state := by
  cases result <;> rfl

@[simp] theorem get_iff {returned : σ → σ → Prop} :
    Ends (get : ExceptT ε (StateM σ) σ) state returned raised ↔
      returned state state := Iff.rfl

@[simp] theorem modify_iff
    (change : σ → σ) {returned : PUnit → σ → Prop} :
    Ends (modify change : ExceptT ε (StateM σ) PUnit) state returned raised ↔
      returned PUnit.unit (change state) := Iff.rfl

/-- A sequence ends as its second part does where its first part returns, and
as its first part does where that raises. -/
@[simp] theorem bind_iff
    (rest : α → ExceptT ε (StateM σ) β) {returned : β → σ → Prop} :
    Ends (action >>= rest) state returned raised ↔
      Ends action state
        (fun value after => Ends (rest value) after returned raised)
        raised := by
  unfold Ends
  rw [run_bind]
  generalize action.run state = result
  obtain ⟨error | value, after⟩ := result <;> rfl

/-- A guarded computation ends as its handler does where its body raises. -/
@[simp] theorem tryCatch_iff (handler : ε → ExceptT ε (StateM σ) α) :
    Ends (tryCatch action handler) state returned raised ↔
      Ends action state returned
        (fun error after => Ends (handler error) after returned raised) := by
  unfold Ends
  rw [run_tryCatch]
  generalize action.run state = result
  obtain ⟨error | value, after⟩ := result <;> rfl

@[simp] theorem map_iff
    (change : α → β) {returned : β → σ → Prop} :
    Ends (change <$> action) state returned raised ↔
      Ends action state (fun value after => returned (change value) after)
        raised := by
  rw [← bind_pure_comp, bind_iff]
  simp only [pure_iff]

/-! ## Rules -/

/-- Forget how a computation raises. -/
theorem returns (ends : Ends action state returned raised) :
    Ends action state returned (fun _ _ => True) :=
  ends.mono (fun _ _ holds => holds) (fun _ _ _ => trivial)

theorem bind
    {rest : α → ExceptT ε (StateM σ) β} {between : α → σ → Prop}
    {returned : β → σ → Prop}
    (first : Ends action state between raised)
    (second : ∀ value after, between value after →
      Ends (rest value) after returned raised) :
    Ends (action >>= rest) state returned raised :=
  (bind_iff rest).mpr (first.mono second fun _ _ holds => holds)

theorem tryCatch
    {handler : ε → ExceptT ε (StateM σ) α} {caught : ε → σ → Prop}
    (body : Ends action state returned caught)
    (handled : ∀ error after, caught error after →
      Ends (handler error) after returned raised) :
    Ends (tryCatchThe ε action handler) state returned raised :=
  (tryCatch_iff handler).mpr (body.mono (fun _ _ holds => holds) handled)

theorem bind_lift
    {result : Except ε α} {rest : α → ExceptT ε (StateM σ) β}
    {returned : β → σ → Prop}
    (onReturn : ∀ value, result = .ok value →
      Ends (rest value) state returned raised)
    (onRaise : ∀ error, result = .error error → raised error state) :
    Ends (liftM result >>= rest) state returned raised := by
  rw [bind_iff, lift_iff]
  cases result with
  | ok value => exact onReturn value rfl
  | error error => exact onRaise error rfl

/-- Where it is fine for the first part of a sequence to raise, the second part
decides. -/
theorem bind_iff_forall
    {rest : α → ExceptT ε (StateM σ) β} {returned : β → σ → Prop}
    (harmless : Ends action state (fun _ _ => True) raised) :
    Ends (action >>= rest) state returned raised ↔
      ∀ value after, action.run state = (.ok value, after) →
        Ends (rest value) after returned raised := by
  rw [bind_iff, iff_forall]
  exact and_iff_left (iff_forall.mp harmless).2

@[simp] theorem true_iff :
    Ends action state (fun _ _ => True) (fun _ _ => True) ↔ True := by
  unfold Ends
  generalize action.run state = result
  obtain ⟨error | value, after⟩ := result <;> simp

end Ends

/-! ## Invariants -/

/-- Started where the invariant holds, a computation keeps it, and it returns
and raises only what is described. -/
def Keeps
    (invariant : σ → Prop) (action : ExceptT ε (StateM σ) α)
    (returned : α → Prop) (raised : ε → Prop) : Prop :=
  ∀ state, invariant state →
    Ends action state (fun value after => returned value ∧ invariant after)
      (fun error after => raised error ∧ invariant after)

namespace Keeps

variable
  {invariant : σ → Prop} {action : ExceptT ε (StateM σ) α}
  {returned : α → Prop} {raised : ε → Prop}

theorem mono
    {returned' : α → Prop} {raised' : ε → Prop}
    (keeps : Keeps invariant action returned raised)
    (onReturn : ∀ value, returned value → returned' value)
    (onRaise : ∀ error, raised error → raised' error) :
    Keeps invariant action returned' raised' := fun state holds =>
  (keeps state holds).mono
    (fun value _ ends => ⟨onReturn value ends.1, ends.2⟩)
    (fun error _ ends => ⟨onRaise error ends.1, ends.2⟩)

/-- The state a computation leaves satisfies the invariant. -/
theorem run
    (keeps : Keeps invariant action returned raised)
    {state : σ} (holds : invariant state) :
    invariant (action.run state).2 := by
  have ends := keeps state holds
  unfold Ends at ends
  generalize action.run state = result at ends
  obtain ⟨error | value, after⟩ := result <;> exact ends.2

theorem of_pure {value : α} (returns : returned value) :
    Keeps invariant (pure value) returned raised := fun _ holds =>
  ⟨returns, holds⟩

theorem of_throw {error : ε} (raises : raised error) :
    Keeps invariant (throw error : ExceptT ε (StateM σ) α) returned raised :=
  fun _ holds => ⟨raises, holds⟩

theorem of_lift
    {result : Except ε α}
    (onReturn : ∀ value, result = .ok value → returned value)
    (onRaise : ∀ error, result = .error error → raised error) :
    Keeps invariant (liftM result : ExceptT ε (StateM σ) α) returned
      raised := by
  intro state holds
  rw [Ends.lift_iff]
  cases result with
  | ok value => exact ⟨onReturn value rfl, holds⟩
  | error error => exact ⟨onRaise error rfl, holds⟩

/-- Asking for the state tells that the invariant holds of it. -/
theorem of_get :
    Keeps invariant (get : ExceptT ε (StateM σ) σ) invariant raised :=
  fun _ holds => ⟨holds, holds⟩

theorem of_modify
    {change : σ → σ}
    (keeps : ∀ state, invariant state → invariant (change state)) :
    Keeps invariant (modify change : ExceptT ε (StateM σ) PUnit)
      (fun _ => True) raised := fun state holds =>
  ⟨trivial, keeps state holds⟩

theorem bind
    {rest : α → ExceptT ε (StateM σ) β} {returned' : β → Prop}
    (first : Keeps invariant action returned raised)
    (second : ∀ value, returned value →
      Keeps invariant (rest value) returned' raised) :
    Keeps invariant (action >>= rest) returned' raised := by
  intro state holds
  rw [Ends.bind_iff]
  exact (first state holds).mono
    (fun value after ends => second value ends.1 after ends.2)
    (fun _ _ ends => ends)

theorem tryCatch
    {handler : ε → ExceptT ε (StateM σ) α} {caught : ε → Prop}
    (body : Keeps invariant action returned caught)
    (handled : ∀ error, caught error →
      Keeps invariant (handler error) returned raised) :
    Keeps invariant (MonadExcept.tryCatch action handler) returned
      raised := by
  intro state holds
  rw [show MonadExcept.tryCatch action handler =
    tryCatchThe ε action handler from rfl]
  refine (Ends.tryCatch_iff handler).mpr ((body state holds).mono
    (fun _ _ ends => ends)
    (fun error after ends => handled error ends.1 after ends.2))

theorem mapM
    {items : List β} {body : β → ExceptT ε (StateM σ) α}
    (each : ∀ item ∈ items, Keeps invariant (body item) returned raised) :
    Keeps invariant (items.mapM body)
      (fun values => ∀ value ∈ values, returned value) raised := by
  induction items with
  | nil =>
      rw [List.mapM_nil]
      exact of_pure nofun
  | cons item items inductionHypothesis =>
      rw [List.forall_mem_cons] at each
      rw [List.mapM_cons]
      refine each.1.bind fun value returns => ?_
      refine (inductionHypothesis each.2).bind fun values allReturn => ?_
      exact of_pure (List.forall_mem_cons.mpr ⟨returns, allReturn⟩)

end Keeps

end Foundation

import RudpAgentStack.Foundation.Computation

/-!
# Computations with exceptions of another type

A computation that raises detailed exceptions is adapted to one that raises
plainer ones.  Adapting commutes with every construct of a program, so a
program with detailed exceptions can be compared, line by line, with the one
it details.
-/

namespace Foundation

variable {ε ε' ε'' σ α β : Type} (change : ε → ε')

/-- Computations with the same runs are equal. -/
theorem ext_run
    {first second : ExceptT ε (StateM σ) α}
    (same : ∀ state, first.run state = second.run state) : first = second := by
  apply ExceptT.ext
  apply StateT.ext
  exact same

/-- An adapted computation returns what it did, and raises the changed
exceptions. -/
theorem adapt_run (action : ExceptT ε (StateM σ) α) (state : σ) :
    (action.adapt change).run state =
      ((action.run state).1.mapError change, (action.run state).2) := rfl

@[simp] theorem adapt_pure (value : α) :
    (pure value : ExceptT ε (StateM σ) α).adapt change = pure value := rfl

@[simp] theorem adapt_throw (error : ε) :
    (throw error : ExceptT ε (StateM σ) α).adapt change =
      throw (change error) := rfl

@[simp] theorem adapt_lift (result : Except ε α) :
    (liftM result : ExceptT ε (StateM σ) α).adapt change =
      liftM (result.mapError change) := rfl

@[simp] theorem adapt_get :
    (get : ExceptT ε (StateM σ) σ).adapt change = get := rfl

@[simp] theorem adapt_modify (update : σ → σ) :
    (modify update : ExceptT ε (StateM σ) PUnit).adapt change =
      modify update := rfl

@[simp] theorem adapt_bind
    (first : ExceptT ε (StateM σ) α) (rest : α → ExceptT ε (StateM σ) β) :
    (first >>= rest).adapt change =
      first.adapt change >>= fun value => (rest value).adapt change := by
  apply ext_run
  intro state
  rw [adapt_run, run_bind, run_bind, adapt_run]
  generalize first.run state = outcome
  obtain ⟨error | value, after⟩ := outcome <;> rfl

@[simp] theorem adapt_ite
    (condition : Prop) [Decidable condition]
    (first second : ExceptT ε (StateM σ) α) :
    (if condition then first else second).adapt change =
      if condition then first.adapt change else second.adapt change := by
  split <;> rfl

/-- Exceptions are changed twice. -/
@[simp] theorem adapt_adapt
    (further : ε' → ε'') (action : ExceptT ε (StateM σ) α) :
    (action.adapt change).adapt further =
      action.adapt fun error => further (change error) := by
  apply ext_run
  intro state
  rw [adapt_run, adapt_run, adapt_run]
  generalize action.run state = outcome
  obtain ⟨error | value, after⟩ := outcome <;> rfl

/-- Nothing is changed. -/
@[simp] theorem adapt_id (action : ExceptT ε (StateM σ) α) :
    (action.adapt fun error => error) = action := by
  apply ext_run
  intro state
  rw [adapt_run]
  generalize action.run state = outcome
  obtain ⟨error | value, after⟩ := outcome <;> rfl

end Foundation

import Mathlib.Logic.Relation

/-!
# Guarded transition machines

A machine has one starting state, a guard on its actions and a deterministic
successor function.  All nondeterminism of a modelled system is carried by its
actions.  The module packages the induction over runs once: an invariant that
holds at the start and survives every enabled action holds in every reachable
state, and a simulation transports reachability to a more abstract machine.
-/

namespace Foundation

universe u v w x

/-- A transition machine whose actions are guarded and whose successors are
determined by the chosen action. -/
structure Machine (State : Type u) (Action : Type v) where
  /-- The starting state. -/
  start : State
  /-- The actions that may be taken in a state. -/
  Enabled : State → Action → Prop
  /-- The state after an action. -/
  next : State → Action → State

namespace Machine

variable {State : Type u} {Action : Type v}
  {AbstractState : Type w} {AbstractAction : Type x}

/-- States reached from the start through enabled actions. -/
inductive Reachable (machine : Machine State Action) : State → Prop
  | start : machine.Reachable machine.start
  | next {state : State} {action : Action} :
      machine.Reachable state →
      machine.Enabled state action →
      machine.Reachable (machine.next state action)

/-- The invariant rule.  The step premise may use that the state before the
action is itself reachable. -/
theorem Reachable.invariant
    {machine : Machine State Action}
    (Invariant : State → Prop)
    (initial : Invariant machine.start)
    (preserved : ∀ state action, machine.Reachable state →
      Invariant state → machine.Enabled state action →
      Invariant (machine.next state action))
    {state : State}
    (reachable : machine.Reachable state) :
    Invariant state := by
  induction reachable with
  | start => exact initial
  | next reachable enabled inductionHypothesis =>
      exact preserved _ _ reachable inductionHypothesis enabled

/-- The machine that may only take actions meeting an additional condition. -/
def restrict
    (machine : Machine State Action)
    (Condition : State → Action → Prop) : Machine State Action where
  start := machine.start
  Enabled := fun state action =>
    machine.Enabled state action ∧ Condition state action
  next := machine.next

instance
    (machine : Machine State Action)
    (Condition : State → Action → Prop)
    [∀ state action, Decidable (machine.Enabled state action)]
    [∀ state action, Decidable (Condition state action)]
    (state : State) (action : Action) :
    Decidable ((machine.restrict Condition).Enabled state action) :=
  inferInstanceAs (Decidable (_ ∧ _))

/-- Take a list of actions one after the other, without consulting the
guard. -/
def exec (machine : Machine State Action) : State → List Action → State :=
  List.foldl machine.next

@[simp] theorem exec_append_singleton
    (machine : Machine State Action)
    (state : State) (actions : List Action) (action : Action) :
    machine.exec state (actions ++ [action]) =
      machine.next (machine.exec state actions) action := by
  simp [exec]

/-- Every action of a list is enabled at its turn. -/
def Admits (machine : Machine State Action) : State → List Action → Prop
  | _, [] => True
  | state, action :: actions =>
      machine.Enabled state action ∧
        machine.Admits (machine.next state action) actions

/-- Admission can be computed when the guard can. -/
instance decidableAdmits
    (machine : Machine State Action)
    [∀ state action, Decidable (machine.Enabled state action)] :
    ∀ state actions, Decidable (machine.Admits state actions)
  | _, [] => .isTrue trivial
  | state, action :: actions =>
      have := decidableAdmits machine (machine.next state action) actions
      inferInstanceAs (Decidable (_ ∧ _))

/-- The first part of an admitted list of actions is admitted. -/
theorem admits_of_append
    (machine : Machine State Action)
    {state : State} {actions later : List Action}
    (admitted : machine.Admits state (actions ++ later)) :
    machine.Admits state actions := by
  induction actions generalizing state with
  | nil => trivial
  | cons action actions inductionHypothesis =>
      exact ⟨admitted.1, inductionHypothesis admitted.2⟩

/-- An admitted list is extended by what is enabled after it. -/
theorem admits_append_singleton
    (machine : Machine State Action)
    {state : State} {actions : List Action} {action : Action} :
    machine.Admits state (actions ++ [action]) ↔
      machine.Admits state actions ∧
        machine.Enabled (machine.exec state actions) action := by
  induction actions generalizing state with
  | nil => simp [Admits, exec]
  | cons first actions inductionHypothesis =>
      simp only [List.cons_append, Admits, inductionHypothesis, and_assoc]
      rfl

/-- Executing an admitted list of actions stays among the reachable states. -/
theorem Reachable.exec
    {machine : Machine State Action}
    {state : State}
    (reachable : machine.Reachable state)
    {actions : List Action}
    (admitted : machine.Admits state actions) :
    machine.Reachable (machine.exec state actions) := by
  induction actions generalizing state with
  | nil => exact reachable
  | cons action actions inductionHypothesis =>
      obtain ⟨enabled, rest⟩ := admitted
      exact inductionHypothesis (reachable.next enabled) rest

/-- One enabled action leads from the first state to the second. -/
def Step (machine : Machine State Action) (before after : State) : Prop :=
  ∃ action, machine.Enabled before action ∧
    after = machine.next before action

/-- Finitely many enabled actions lead from the first state to the second. -/
def Steps (machine : Machine State Action) : State → State → Prop :=
  Relation.ReflTransGen machine.Step

/-- Reachability is closed under finitely many further steps. -/
theorem Reachable.steps
    {machine : Machine State Action}
    {before after : State}
    (reachable : machine.Reachable before)
    (steps : machine.Steps before after) :
    machine.Reachable after := by
  induction steps with
  | refl => exact reachable
  | tail _ step inductionHypothesis =>
      obtain ⟨action, enabled, rfl⟩ := step
      exact inductionHypothesis.next enabled

/-- An abstraction function simulates a concrete machine by an abstract one
when it matches the starting states and every concrete step by finitely many
abstract ones. -/
structure Simulation
    (concrete : Machine State Action)
    (abstract : Machine AbstractState AbstractAction) where
  /-- The abstraction function. -/
  abstraction : State → AbstractState
  /-- The starting states agree. -/
  start : abstraction concrete.start = abstract.start
  /-- Every reachable step is matched. -/
  step : ∀ state action, concrete.Reachable state →
    concrete.Enabled state action →
    abstract.Steps (abstraction state)
      (abstraction (concrete.next state action))

/-- A simulation maps reachable states to reachable states. -/
theorem Simulation.reachable
    {concrete : Machine State Action}
    {abstract : Machine AbstractState AbstractAction}
    (simulation : Simulation concrete abstract)
    {state : State}
    (reachable : concrete.Reachable state) :
    abstract.Reachable (simulation.abstraction state) := by
  refine Reachable.invariant
    (fun state => abstract.Reachable (simulation.abstraction state))
    ?_ ?_ reachable
  · rw [simulation.start]
    exact .start
  · intro state action reachable inductionHypothesis enabled
    exact inductionHypothesis.steps
      (simulation.step state action reachable enabled)

end Machine

end Foundation

import RudpAgentStack.Foundation.Machine
import Mathlib.Data.List.Induction

/-!
# Noninterference by components

A component of a machine is a machine of its own that follows a projection of
the state.  Actions that concern it are its steps, whatever the rest of the
state is; other actions leave the projection as it is.  Then the projection of
a run does not change when the actions that do not concern the component are
deleted.
-/

namespace Foundation

namespace Machine

universe u v w

variable {State : Type u} {Action : Type v} {ComponentState : Type w}

/-- A machine that follows a projection of another one's state.  Only actions
that do not concern it may need the guard. -/
structure Component
    (machine : Machine State Action)
    (component : Machine ComponentState Action)
    (project : State → ComponentState) (Concerns : Action → Prop) : Prop where
  /-- The starting states agree. -/
  start : project machine.start = component.start
  /-- An action that concerns the component is its own step. -/
  concerned : ∀ state action, Concerns action →
    project (machine.next state action) =
      component.next (project state) action
  /-- Any other action leaves the component as it is. -/
  unconcerned : ∀ state action, machine.Reachable state →
    machine.Enabled state action → ¬ Concerns action →
    project (machine.next state action) = project state

namespace Component

variable {machine : Machine State Action}
  {component : Machine ComponentState Action}
  {project : State → ComponentState} {Concerns : Action → Prop}

/-- A run of actions that all concern the component is a run of it. -/
theorem project_exec_of_forall
    (isComponent : machine.Component component project Concerns)
    {actions : List Action} (concerned : ∀ action ∈ actions, Concerns action)
    (state : State) :
    project (machine.exec state actions) =
      component.exec (project state) actions := by
  induction actions using List.reverseRecOn with
  | nil => rfl
  | append_singleton actions action inductionHypothesis =>
      have before := inductionHypothesis fun earlier member =>
        concerned earlier (by simp [member])
      rw [exec_append_singleton, exec_append_singleton, ← before]
      exact isComponent.concerned _ action (concerned action (by simp))

/-- A run of the machine is a run of the component over the actions that
concern it. -/
theorem project_exec [DecidablePred Concerns]
    (isComponent : machine.Component component project Concerns)
    {state : State} (reachable : machine.Reachable state)
    {actions : List Action} (admitted : machine.Admits state actions) :
    project (machine.exec state actions) =
      component.exec (project state)
        (actions.filter fun action => Concerns action) := by
  induction actions using List.reverseRecOn with
  | nil => rfl
  | append_singleton actions action inductionHypothesis =>
      have earlier := machine.admits_of_append admitted
      have enabled := (machine.admits_append_singleton.mp admitted).2
      have before := inductionHypothesis earlier
      rw [exec_append_singleton, List.filter_append]
      by_cases concerns : Concerns action
      · rw [isComponent.concerned _ action concerns, before]
        simp [concerns]
      · rw [isComponent.unconcerned _ action (reachable.exec earlier) enabled
          concerns, before]
        simp [concerns]

/-- Deleting the actions that do not concern the component does not show in
the projection. -/
theorem noninterference [DecidablePred Concerns]
    (isComponent : machine.Component component project Concerns)
    {actions : List Action}
    (admitted : machine.Admits machine.start actions) :
    project (machine.exec machine.start actions) =
      project (machine.exec machine.start
        (actions.filter fun action => Concerns action)) := by
  calc project (machine.exec machine.start actions)
      = component.exec (project machine.start)
          (actions.filter fun action => Concerns action) :=
        isComponent.project_exec .start admitted
    _ = project (machine.exec machine.start
          (actions.filter fun action => Concerns action)) :=
        (isComponent.project_exec_of_forall (by simp) machine.start).symm

end Component

end Machine

end Foundation

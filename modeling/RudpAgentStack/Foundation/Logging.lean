import RudpAgentStack.Foundation.Computation

/-!
# Computations with a log

A computation on a state, carried out on the state together with a log.  The
log is only observed: it changes neither the result nor the state.
-/

namespace Foundation

variable {ε State Event α : Type}

/-- A state with the events so far. -/
structure Logged (State Event : Type) where
  state : State
  log : List Event := []

/-- Carry a computation out, adding events to the log. -/
def logging (events : List Event) (action : ExceptT ε (StateM State) α) :
    ExceptT ε (StateM (Logged State Event)) α :=
  ExceptT.mk fun logged =>
    let result := action.run logged.state
    (result.1, ⟨result.2, logged.log ++ events⟩)

theorem logging_run
    (events : List Event) (action : ExceptT ε (StateM State) α)
    (logged : Logged State Event) :
    (logging events action).run logged =
      ((action.run logged.state).1,
        ⟨(action.run logged.state).2, logged.log ++ events⟩) := rfl

/-- Carry a computation out, adding the event of how it ends to the log. -/
def loggingResult
    (event : Except ε α → Event) (action : ExceptT ε (StateM State) α) :
    ExceptT ε (StateM (Logged State Event)) α :=
  ExceptT.mk fun logged =>
    let result := action.run logged.state
    (result.1, ⟨result.2, logged.log ++ [event result.1]⟩)

theorem loggingResult_run
    (event : Except ε α → Event) (action : ExceptT ε (StateM State) α)
    (logged : Logged State Event) :
    (loggingResult event action).run logged =
      ((action.run logged.state).1,
        ⟨(action.run logged.state).2,
          logged.log ++ [event (action.run logged.state).1]⟩) := rfl

end Foundation

import RudpAgentStack.Foundation.Computation
import RudpAgentStack.Foundation.Json

/-!
# Errors

The error codes of `common/errors.py`, and the exceptions that carry a failure
to the code that answers with one of them.  A computation keeps its effects
when it raises.
-/

namespace RudpAgentStack

open Foundation

/-- `ErrorCode` -/
inductive ErrorCode
  | ok
  | created
  | badRequest
  | forbidden
  | notFound
  | conflict
  | payloadTooLarge
  | internalServerError
  deriving DecidableEq

/-- The number of an error code. -/
def ErrorCode.value : ErrorCode → Int
  | .ok => 200
  | .created => 201
  | .badRequest => 400
  | .forbidden => 403
  | .notFound => 404
  | .conflict => 409
  | .payloadTooLarge => 413
  | .internalServerError => 500

/-- The classes of exceptions the program tells apart. -/
inductive ErrorKind
  | valueError
  /-- `json.JSONDecodeError`, a `ValueError`. -/
  | jsonDecodeError
  /-- `UnicodeDecodeError`, a `ValueError`. -/
  | unicodeDecodeError
  /-- `UnicodeEncodeError`, a `ValueError`. -/
  | unicodeEncodeError
  /-- `FileNotFoundError`, an `OSError`. -/
  | fileNotFoundError
  | osError
  | structError
  | typeError
  | attributeError
  | keyError
  | nameError
  | recursionError
  deriving DecidableEq

/-- Caught by `except ValueError`. -/
def ErrorKind.isValueError : ErrorKind → Bool
  | .valueError | .jsonDecodeError | .unicodeDecodeError
  | .unicodeEncodeError => true
  | _ => false

/-- Caught by `except OSError`. -/
def ErrorKind.isOsError : ErrorKind → Bool
  | .fileNotFoundError | .osError => true
  | _ => false

/-- An exception with its text. -/
structure PyError where
  kind : ErrorKind
  message : Text
  deriving DecidableEq

/-- `raise ValueError(message)` -/
def valueError {α : Type} (message : Text) : Except PyError α :=
  .error ⟨.valueError, message⟩

/-- A computation on a state that may raise. -/
abbrev Action (State α : Type) : Type := ExceptT PyError (StateM State) α

namespace Action

variable {State α β : Type}

theorem run_bind
    (first : Action State α) (rest : α → Action State β) (state : State) :
    (first >>= rest).run state =
      match first.run state with
      | (.ok value, state) => (rest value).run state
      | (.error error, state) => (.error error, state) := by
  rw [Foundation.run_bind]
  generalize first.run state = result
  obtain ⟨error | value, state⟩ := result <;> rfl

/-- An exception is handled in the state in which it was raised. -/
theorem run_tryCatch
    (body : Action State α) (handler : PyError → Action State α)
    (state : State) :
    (tryCatch body handler).run state =
      match body.run state with
      | (.ok value, state) => (.ok value, state)
      | (.error error, state) => (handler error).run state := by
  rw [Foundation.run_tryCatch]
  generalize body.run state = result
  obtain ⟨error | value, state⟩ := result <;> rfl

theorem run_liftM (result : Except PyError α) (state : State) :
    (liftM result : Action State α).run state = (result, state) := rfl

theorem run_modify (change : State → State) (state : State) :
    (modify change : Action State PUnit).run state =
      (.ok PUnit.unit, change state) := rfl

end Action

end RudpAgentStack

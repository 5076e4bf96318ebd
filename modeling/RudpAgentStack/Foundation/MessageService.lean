import Mathlib.Data.List.Basic

/-!
# Services behind two queues

A service processes messages one after the other and answers each of them at
once or not at all.  Between a client and the service are the messages that
wait to be processed and the answers that wait to be received.  However the
queues move, nothing is lost, added or overtaken: what was waiting is what has
been processed and what still waits, and likewise for the answers.
-/

namespace Foundation

/-- A service.  Its state may also change for other reasons. -/
structure MessageService (State Message Reading Other : Type) where
  /-- Process a message, with what is read from the outside meanwhile. -/
  respond : State → Message → Reading → Option Message × State
  other : State → Other → State

namespace MessageService

variable {State Message Reading Other : Type}

/-! ## Runs -/

/-- What changes the state of a service. -/
inductive Step (Message Reading Other : Type)
  | process (message : Message) (reading : Reading)
  | other (step : Other)

/-- The message that a step processes. -/
def Step.message? : Step Message Reading Other → Option Message
  | .process message _ => some message
  | .other _ => none

/-- The messages that are processed, the oldest first. -/
def processed (steps : List (Step Message Reading Other)) : List Message :=
  steps.filterMap Step.message?

variable (service : MessageService State Message Reading Other)

/-- The state after a step. -/
def after (state : State) : Step Message Reading Other → State
  | .process message reading => (service.respond state message reading).2
  | .other step => service.other state step

/-- The state after some steps. -/
def run (state : State) (steps : List (Step Message Reading Other)) : State :=
  steps.foldl service.after state

/-- The answer of a step. -/
def answer? (state : State) : Step Message Reading Other → Option Message
  | .process message reading => (service.respond state message reading).1
  | .other _ => none

/-- The answers of some steps, the oldest first. -/
def answers : State → List (Step Message Reading Other) → List Message
  | _, [] => []
  | state, step :: steps =>
      (service.answer? state step).toList ++
        answers (service.after state step) steps

variable (state : State)

@[simp] theorem run_append (steps later : List (Step Message Reading Other)) :
    service.run state (steps ++ later) =
      service.run (service.run state steps) later :=
  List.foldl_append

@[simp] theorem answers_append
    (steps later : List (Step Message Reading Other)) :
    service.answers state (steps ++ later) =
      service.answers state steps ++
        service.answers (service.run state steps) later := by
  induction steps generalizing state with
  | nil => rfl
  | cons step steps inductionHypothesis =>
      rw [List.cons_append, answers, inductionHypothesis, answers,
        List.append_assoc]
      rfl

@[simp] theorem processed_append
    (steps later : List (Step Message Reading Other)) :
    processed (steps ++ later) = processed steps ++ processed later :=
  List.filterMap_append

/-- There are no more answers than messages. -/
theorem length_answers_le (steps : List (Step Message Reading Other)) :
    (service.answers state steps).length ≤ (processed steps).length := by
  induction steps generalizing state with
  | nil => exact Nat.le_refl _
  | cons step steps inductionHypothesis =>
      have later := inductionHypothesis (service.after state step)
      cases step with
      | process message reading =>
          have once : (service.answer? state
              (.process message reading)).toList.length ≤ 1 :=
            Option.length_toList_le
          rw [answers, List.length_append, processed, List.filterMap_cons_some
            (rfl : Step.message? (.process message reading) = some message)]
          simp only [processed, List.length_cons] at later ⊢
          omega
      | other step =>
          rw [answers, List.length_append, processed, List.filterMap_cons_none
            (rfl : Step.message? (.other step) = none)]
          simpa [processed, answer?] using later

/-! ## The queues -/

/-- The state of the service, the messages that wait to be processed and the
answers that wait to be received, the oldest first. -/
structure Queues (State Message : Type) where
  state : State
  requests : List Message := []
  answers : List Message := []

namespace Queues

/-- The client sends a message. -/
def send (queues : Queues State Message) (message : Message) :
    Queues State Message :=
  { queues with requests := queues.requests ++ [message] }

/-- The service has processed the oldest message. -/
def served
    (service : MessageService State Message Reading Other)
    (queues : Queues State Message) (message : Message) (reading : Reading)
    (rest : List Message) : Queues State Message where
  state := (service.respond queues.state message reading).2
  requests := rest
  answers := queues.answers ++
    (service.respond queues.state message reading).1.toList

end Queues

section Flows

variable (Admits : State → Step Message Reading Other → Prop)

/-- What may happen by itself, with the answers that are received.  Only steps
that are admitted in the state of the service take place. -/
inductive Flows :
    Queues State Message → List Message → Queues State Message → Prop
  | stay (queues : Queues State Message) : Flows queues [] queues
  | serve {queues between : Queues State Message}
      {received rest : List Message} {message : Message} (reading : Reading) :
      Flows queues received between →
      between.requests = message :: rest →
      Admits between.state (.process message reading) →
      Flows queues received (between.served service message reading rest)
  | other {queues between : Queues State Message} {received : List Message}
      (step : Other) :
      Flows queues received between →
      Admits between.state (.other step) →
      Flows queues received
        { between with state := service.other between.state step }
  | deliver {queues between : Queues State Message}
      {received rest : List Message} {answer : Message} :
      Flows queues received between →
      between.answers = answer :: rest →
      Flows queues (received ++ [answer]) { between with answers := rest }

/-- Each step is admitted in the state it is taken in. -/
def AdmitsAll : State → List (Step Message Reading Other) → Prop
  | _, [] => True
  | state, step :: steps =>
      Admits state step ∧ AdmitsAll (service.after state step) steps

instance decidableAdmitsAll
    [∀ state step, Decidable (Admits state step)] :
    ∀ state steps, Decidable (service.AdmitsAll Admits state steps)
  | _, [] => .isTrue trivial
  | state, step :: steps =>
      have := decidableAdmitsAll (service.after state step) steps
      inferInstanceAs (Decidable (_ ∧ _))

end Flows

variable {service} {Admits : State → Step Message Reading Other → Prop}
  {queues between later : Queues State Message}
  {received more : List Message}

theorem AdmitsAll.append
    {state : State} {steps more : List (Step Message Reading Other)}
    (admitted : service.AdmitsAll Admits state steps)
    (further : service.AdmitsAll Admits (service.run state steps) more) :
    service.AdmitsAll Admits state (steps ++ more) := by
  induction steps generalizing state with
  | nil => exact further
  | cons step steps inductionHypothesis =>
      exact ⟨admitted.1, inductionHypothesis admitted.2 further⟩

/-- Several answers are received. -/
theorem Flows.deliverAll
    (flows : service.Flows Admits queues received between)
    (answers : List Message) {rest : List Message}
    (oldest : between.answers = answers ++ rest) :
    service.Flows Admits queues (received ++ answers)
      { between with answers := rest } := by
  induction answers generalizing received between with
  | nil =>
      have same : between.answers = rest := oldest
      rw [List.append_nil, ← same]
      exact flows
  | cons answer answers inductionHypothesis =>
      have later := inductionHypothesis (flows.deliver oldest) rfl
      rwa [List.append_assoc] at later

/-- One thing happens after the other. -/
theorem Flows.trans
    (flows : service.Flows Admits queues received between)
    (further : service.Flows Admits between more later) :
    service.Flows Admits queues (received ++ more) later := by
  induction further with
  | stay => rwa [List.append_nil]
  | serve reading _ oldest admitted inductionHypothesis =>
      exact inductionHypothesis.serve reading oldest admitted
  | other step _ admitted inductionHypothesis =>
      exact inductionHypothesis.other step admitted
  | deliver _ oldest inductionHypothesis =>
      rw [← List.append_assoc]
      exact inductionHypothesis.deliver oldest

/-- The steps of the service account for everything that has left the
queues. -/
theorem Flows.conserves
    (flows : service.Flows Admits queues received later) :
    ∃ steps, service.AdmitsAll Admits queues.state steps ∧
      later.state = service.run queues.state steps ∧
      queues.requests = processed steps ++ later.requests ∧
      queues.answers ++ service.answers queues.state steps =
        received ++ later.answers := by
  induction flows with
  | stay => exact ⟨[], trivial, rfl, rfl, List.append_nil _⟩
  | @serve between received rest message reading _ oldest admitted
      inductionHypothesis =>
      obtain ⟨steps, allowed, state, requests, answers⟩ :=
        inductionHypothesis
      rw [state] at admitted
      refine ⟨steps ++ [.process message reading],
        allowed.append ⟨admitted, trivial⟩, ?_, ?_, ?_⟩
      · rw [run_append, ← state]
        rfl
      · rw [requests, oldest, processed_append, List.append_assoc]
        rfl
      · rw [answers_append, ← List.append_assoc, answers, List.append_assoc,
          ← state]
        simp only [MessageService.answers, List.append_nil]
        rfl
  | @other between received step _ admitted inductionHypothesis =>
      obtain ⟨steps, allowed, state, requests, answers⟩ :=
        inductionHypothesis
      rw [state] at admitted
      refine ⟨steps ++ [.other step], allowed.append ⟨admitted, trivial⟩,
        ?_, ?_, ?_⟩
      · rw [run_append, ← state]
        rfl
      · rw [requests, processed_append]
        exact congrArg (· ++ between.requests) (List.append_nil _).symm
      · rw [answers_append, ← List.append_assoc, answers, List.append_assoc]
        exact congrArg (received ++ ·) (List.append_nil _)
  | deliver _ oldest inductionHypothesis =>
      obtain ⟨steps, allowed, state, requests, answers⟩ :=
        inductionHypothesis
      refine ⟨steps, allowed, state, requests, ?_⟩
      rw [answers, oldest, List.append_assoc]
      rfl

/-! ## What is pending -/

/-- What has been sent and not received, if what has been received is the
beginning of what was sent. -/
def pending (sent received : List Message) : List Message :=
  sent.drop received.length

theorem append_pending {sent received : List Message}
    (beginning : received <+: sent) :
    received ++ pending sent received = sent := by
  obtain ⟨rest, rfl⟩ := beginning
  rw [pending, List.drop_left]

theorem pending_append {sent received : List Message}
    (beginning : received <+: sent) (more : List Message) :
    pending (sent ++ more) received = pending sent received ++ more :=
  List.drop_append_of_le_length beginning.length_le

/-- More is received. -/
theorem pending_of_received {sent received more : List Message}
    (beginning : received ++ more <+: sent) :
    pending sent received = more ++ pending sent (received ++ more) := by
  obtain ⟨rest, rfl⟩ := beginning
  have direct := @List.drop_left _ (received ++ more) rest
  rw [pending, pending, direct, List.append_assoc, List.drop_left]

end MessageService

end Foundation

import RudpAgentStack.Foundation.Machine
import Mathlib.Data.List.Infix

/-!
# The reliable message channel

The abstract purpose of a reliable transport: whatever is submitted at one end
comes out of the other end once, whole and in order.  A channel state is the
list of submitted messages and the list of messages handed over so far.
-/

namespace Foundation

universe u

/-- Messages submitted to a channel and messages it has handed over. -/
structure Channel (Message : Type u) where
  /-- Every submitted message, in order. -/
  submitted : List Message
  /-- Every message handed over, in order. -/
  received : List Message

namespace Channel

variable {Message : Type u}

/-- The two things that can happen to a channel. -/
inductive Action (Message : Type u)
  | submit (message : Message)
  | handOver

/-- The channel hands messages over one by one, in submission order. -/
def machine (Message : Type u) :
    Machine (Channel Message) (Action Message) where
  start := { submitted := [], received := [] }
  Enabled := fun channel action =>
    match action with
    | .submit _ => True
    | .handOver => channel.received.length < channel.submitted.length
  next := fun channel action =>
    match action with
    | .submit message =>
        { channel with submitted := channel.submitted ++ [message] }
    | .handOver =>
        { channel with
          received := channel.submitted.take (channel.received.length + 1) }

/-- What a reachable channel has handed over is a prefix of what was
submitted. -/
theorem received_prefix
    {channel : Channel Message}
    (reachable : (machine Message).Reachable channel) :
    channel.received <+: channel.submitted := by
  refine Machine.Reachable.invariant
    (fun channel => channel.received <+: channel.submitted) ?_ ?_ reachable
  · exact List.prefix_rfl
  · intro channel action _ inductionHypothesis _
    cases action with
    | submit message =>
        exact inductionHypothesis.trans (List.prefix_append _ _)
    | handOver => exact List.take_prefix _ _

/-- Submitting one more message is a channel step. -/
theorem steps_submit
    (channel : Channel Message) (message : Message) :
    (machine Message).Steps channel
      { channel with submitted := channel.submitted ++ [message] } :=
  .single ⟨.submit message, trivial, rfl⟩

/-- Handing over any number of further submitted messages in order takes
finitely many channel steps. -/
theorem steps_handOver
    {submitted received received' : List Message}
    (extends_ : received <+: received')
    (submittedPrefix : received' <+: submitted) :
    (machine Message).Steps ⟨submitted, received⟩ ⟨submitted, received'⟩ := by
  obtain ⟨suffix, rfl⟩ := extends_
  induction suffix using List.reverseRecOn with
  | nil =>
      rw [List.append_nil]
      exact .refl
  | append_singleton suffix message inductionHypothesis =>
      have shorter : received ++ suffix <+: submitted := by
        refine List.IsPrefix.trans ?_ submittedPrefix
        rw [← List.append_assoc]
        exact List.prefix_append _ _
      refine .tail (inductionHypothesis shorter) ⟨.handOver, ?_, ?_⟩
      · have lengths := submittedPrefix.length_le
        simp only [List.length_append, List.length_singleton] at lengths
        simp only [machine, List.length_append]
        omega
      · have taken := List.prefix_iff_eq_take.mp submittedPrefix
        simp only [machine, Channel.mk.injEq, true_and]
        rw [taken]
        congr 1
        simp only [List.length_append, List.length_singleton]
        omega

end Channel

end Foundation

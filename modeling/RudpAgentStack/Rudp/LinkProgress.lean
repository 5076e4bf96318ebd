import RudpAgentStack.Rudp.SequenceSpace

/-!
# A link can always deliver what was enqueued

From every reachable state there is a way to go on, by deliveries alone, after
which every enqueued message has come out at the other end.  No timer has to
expire for it: the expected segment or an acknowledgement that opens the
window is always among the datagrams on the network.
-/

namespace RudpAgentStack

open Foundation

namespace Link

/-- The delivery of a datagram, in either direction. -/
def IsDelivery : Action → Prop
  | .deliverSegment _ => True
  | .deliverAck _ _ => True
  | _ => False

/-- The link while only deliveries happen. -/
def deliveries : Machine Link Action :=
  machine.restrict fun _ action => IsDelivery action

/-- Deliveries enqueue nothing. -/
theorem messages_of_steps {link link' : Link}
    (steps : deliveries.Steps link link') :
    link'.sending.messages = link.sending.messages := by
  induction steps with
  | refl => rfl
  | tail _ step inductionHypothesis =>
      obtain ⟨action, enabled, rfl⟩ := step
      rw [← inductionHypothesis]
      cases action with
      | enqueueData data msgId currentTime => exact enabled.2.elim
      | checkTimeouts currentTime => exact enabled.2.elim
      | deliverSegment datagram =>
          simp only [deliveries, Machine.restrict, machine, next]
          split <;> rfl
      | deliverAck datagram currentTime =>
          simp only [deliveries, Machine.restrict, machine, next]
          split <;> rfl

theorem reachable_of_steps {link link' : Link}
    (reachable : machine.Reachable link)
    (steps : deliveries.Steps link link') :
    machine.Reachable link' := by
  induction steps with
  | refl => exact reachable
  | tail _ step inductionHypothesis =>
      obtain ⟨action, enabled, rfl⟩ := step
      exact inductionHypothesis.next enabled.1

section Progress

variable {link : Link}

/-- A transmitted segment that is expected can be delivered. -/
theorem exists_step_of_transmitted
    (reachable : machine.Reachable link) (inRange : link.InRange)
    (numbered : link.sending.sender.nextSeq < 2 ^ 32)
    (transmitted : link.receiving.receiver.expectedSeq <
      link.sending.sender.nextUnsent) :
    ∃ link', deliveries.Step link link' ∧
      link.receiving.receiver.expectedSeq <
        link'.receiving.receiver.expectedSeq := by
  have agrees := agrees_of_reachable reachable
  have bound := agrees.consistent.window.nextSeq ▸
    agrees.consistent.window.nextUnsent_le
  obtain ⟨packet, handed, seqNum⟩ := agrees.consistent.complete _
    agrees.settled.tracks.expectedSeq_nonneg transmitted
  obtain ⟨datagram, checksum, packed, read⟩ :=
    (agrees.packs_iff inRange handed).mpr (by omega)
  refine ⟨_, ⟨.deliverSegment datagram, ⟨⟨packet, handed, packed⟩, trivial⟩,
    rfl⟩, ?_⟩
  simp only [deliveries, Machine.restrict, machine, next, read]
  exact agrees.settled.expectedSeq_lt_next seqNum

/-- When everything transmitted has been taken, acknowledging it lets the
sender transmit more. -/
theorem exists_step_of_taken
    (reachable : machine.Reachable link)
    (numbered : link.sending.sender.nextSeq < 2 ^ 32)
    (pending : link.receiving.receiver.expectedSeq <
      link.sending.sender.nextSeq)
    (taken : link.receiving.receiver.expectedSeq =
      link.sending.sender.nextUnsent) :
    ∃ link', deliveries.Step link link' ∧
      link'.receiving = link.receiving ∧
      link'.receiving.receiver.expectedSeq <
        link'.sending.sender.nextUnsent := by
  have agrees := agrees_of_reachable reachable
  have behind := agrees.base_le
  obtain ⟨_, found, _⟩ := agrees.exists_oldest (by omega)
  have oldest := (agrees.consistent.window.mem_unacked _).mp
    (Dict.mem_of_get? found)
  have nonneg := agrees.consistent.window.low_nonneg
  rcases agrees.acknowledged with zero | ⟨ack, inFlight, ackNum⟩
  · omega
  obtain ⟨datagram, checksum, packed, read⟩ :=
    (agrees.acks ack inFlight).packs_iff.mpr (by omega)
  have enabled : deliveries.Enabled link (.deliverAck datagram 0) :=
    ⟨⟨ack, inFlight, packed⟩, trivial⟩
  have acknowledged : deliveries.next link (.deliverAck datagram 0) =
      link.call (.onAckReceived ack.ackNum ack.rwnd 0) := by
    simp only [deliveries, Machine.restrict, machine, next, read]
    rfl
  have reachable' : machine.Reachable
      (link.call (.onAckReceived ack.ackNum ack.rwnd 0)) := by
    rw [← acknowledged]
    exact reachable.next enabled.1
  have agrees' := agrees_of_reachable reachable'
  refine ⟨_, ⟨.deliverAck datagram 0, enabled, acknowledged.symm⟩, rfl, ?_⟩
  have base : (link.call (.onAckReceived ack.ackNum ack.rwnd
      0)).sending.sender.base = link.receiving.receiver.expectedSeq := by
    simp only [call, RUDPSender.Run.next, RUDPSender.Run.record,
      RUDPSender.onAckReceived_base]
    omega
  have sameSeq : (link.call (.onAckReceived ack.ackNum ack.rwnd
      0)).sending.sender.nextSeq = link.sending.sender.nextSeq := by
    rw [agrees'.consistent.window.nextSeq, agrees.consistent.window.nextSeq]
    rfl
  obtain ⟨_, found', _⟩ := agrees'.exists_oldest (by omega)
  have oldest' := (agrees'.consistent.window.mem_unacked _).mp
    (Dict.mem_of_get? found')
  rw [base] at oldest'
  exact oldest'.2

/-- While a segment is missing at the receiver, deliveries bring it closer. -/
theorem exists_steps_of_pending
    (reachable : machine.Reachable link) (inRange : link.InRange)
    (numbered : link.sending.sender.nextSeq < 2 ^ 32)
    (pending : link.receiving.receiver.expectedSeq <
      link.sending.sender.nextSeq) :
    ∃ link', deliveries.Steps link link' ∧
      link.receiving.receiver.expectedSeq <
        link'.receiving.receiver.expectedSeq := by
  have agrees := agrees_of_reachable reachable
  rcases agrees.expectedSeq_le.eq_or_lt with taken | transmitted
  · obtain ⟨between, step, same, transmitted⟩ :=
      exists_step_of_taken reachable numbered pending taken
    have steps : deliveries.Steps link between := .single step
    have reachable' := reachable_of_steps reachable steps
    have sameMessages := messages_of_steps steps
    have numbered' : between.sending.sender.nextSeq < 2 ^ 32 := by
      have agrees' := agrees_of_reachable reachable'
      rw [agrees'.consistent.window.nextSeq, sameMessages,
        ← agrees.consistent.window.nextSeq]
      exact numbered
    have inRange' : between.InRange := by
      rw [InRange, sameMessages]
      exact inRange
    obtain ⟨link', step', advanced⟩ :=
      exists_step_of_transmitted reachable' inRange' numbered' transmitted
    exact ⟨link', steps.tail step', same ▸ advanced⟩
  · obtain ⟨link', step, advanced⟩ :=
      exists_step_of_transmitted reachable inRange numbered transmitted
    exact ⟨link', .single step, advanced⟩

/-- From every reachable state deliveries can bring every enqueued message to
the other end. -/
theorem exists_steps_delivered
    (reachable : machine.Reachable link) (inRange : link.InRange)
    (numbered : link.sending.sender.nextSeq < 2 ^ 32) :
    ∃ link', deliveries.Steps link link' ∧
      link'.receiving.delivered = link.sending.messages.map Prod.fst := by
  -- Induction on the number of segments missing at the receiver.
  induction missing : (link.sending.sender.nextSeq -
      link.receiving.receiver.expectedSeq).toNat
    using Nat.strong_induction_on generalizing link with
  | h missing inductionHypothesis =>
      have agrees := agrees_of_reachable reachable
      by_cases pending : link.receiving.receiver.expectedSeq <
          link.sending.sender.nextSeq
      · obtain ⟨between, steps, advanced⟩ :=
          exists_steps_of_pending reachable inRange numbered pending
        have reachable' := reachable_of_steps reachable steps
        have sameMessages := messages_of_steps steps
        have sameSeq : between.sending.sender.nextSeq =
            link.sending.sender.nextSeq := by
          have agrees' := agrees_of_reachable reachable'
          rw [agrees'.consistent.window.nextSeq, sameMessages,
            ← agrees.consistent.window.nextSeq]
        obtain ⟨link', steps', delivered⟩ := inductionHypothesis
          (between.sending.sender.nextSeq -
            between.receiving.receiver.expectedSeq).toNat
          (by omega) reachable' (by rw [InRange, sameMessages]; exact inRange)
          (by omega) rfl
        exact ⟨link', steps.trans steps', by rw [delivered, sameMessages]⟩
      · refine ⟨link, .refl, ?_⟩
        have delivered := agrees.prefix_delivered List.prefix_rfl (by
          rw [← agrees.consistent.window.nextSeq]
          omega)
        exact (delivered.eq_of_length_le
          agrees.delivered_prefix_messages.length_le).symm

end Progress

end Link

end RudpAgentStack

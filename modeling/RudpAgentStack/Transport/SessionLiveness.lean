import RudpAgentStack.Rudp.LinkLiveness
import RudpAgentStack.Transport.SessionSafety

/-!
# Liveness of a session

Both directions of a session at once.  The network between the client and the
server carries segments and acknowledgements alike; it is fair when each
packet that one end hands over infinitely often arrives at the other end
infinitely often.  Every infinite run of a session projects to one run of each
of its two links, and fairness projects with it, so what either end sends is
delivered to the other after some time.
-/

namespace RudpAgentStack

open Foundation Filter

/-- A datagram that either transport routes to its sender. -/
def IsAckDatagram (datagram : Bytes) : Bool :=
  match RUDPPacket.unpack datagram with
  | .error _ => false
  | .ok packet => packet.isAck

namespace Link

variable {link : Link} {datagram : Bytes}

theorem isAckDatagram_of_ack {ack : RUDPPacket}
    (reachable : machine.Reachable link) (listed : ack ∈ link.acks)
    (packed : ack.pack = .ok datagram) : IsAckDatagram datagram = true := by
  have acknowledges := (agrees_of_reachable reachable).acks ack listed
  obtain ⟨checksum, _, read⟩ :=
    RUDPPacket.unpack_of_pack (.inr acknowledges.ackOnly) packed
  simp only [IsAckDatagram, read]
  rw [RUDPPacket.isAck, RUDPPacket.withChecksum, acknowledges.flags]
  decide

theorem isAckDatagram_of_segment {packet : RUDPPacket}
    (reachable : machine.Reachable link)
    (handed : packet ∈ link.sending.handed)
    (packed : packet.pack = .ok datagram) :
    IsAckDatagram datagram = false := by
  have enqueued := RUDPSender.isEnqueued_of_mem_stream
    ((agrees_of_reachable reachable).mem_stream handed)
  obtain ⟨checksum, _, read⟩ :=
    RUDPPacket.unpack_of_pack enqueued.hasWireShape packed
  simp only [IsAckDatagram, read]
  exact enqueued.isAck

end Link

/-! ## What one end does -/

/-- The operations of one end of a session. -/
inductive Operation
  | send (data : Bytes) (requestId : Int) (currentTime : ℚ)
  | receive (datagram : Bytes) (currentTime : ℚ)
  | tick (currentTime : ℚ)

namespace Operation

/-- The end after an operation. -/
def apply (party : Party) : Operation → Party
  | .send data requestId currentTime =>
      party.after [(data, requestId)] (party.endpoint.ofSender
        (party.endpoint.sender.enqueueData data requestId currentTime))
  | .receive datagram currentTime =>
      party.after [] (party.endpoint.handleDatagram datagram currentTime)
  | .tick currentTime =>
      party.after [] (party.endpoint.ofSender
        (party.endpoint.sender.checkTimeouts currentTime))

/-- What is received comes from the other end. -/
def Allowed (far : Party) : Operation → Prop
  | .receive datagram _ => InFlight far.history.packets datagram
  | _ => True

/-- The step of the link on which the end is the sender. -/
def outwardAction : Operation → Option Link.Action
  | .send data requestId currentTime =>
      some (.enqueueData data requestId currentTime)
  | .receive datagram currentTime =>
      if IsAckDatagram datagram then some (.deliverAck datagram currentTime)
      else none
  | .tick currentTime => some (.checkTimeouts currentTime)

/-- The step of the link on which the end is the receiver. -/
def inwardAction : Operation → Option Link.Action
  | .receive datagram _ =>
      if IsAckDatagram datagram then none
      else some (.deliverSegment datagram)
  | _ => none

end Operation

/-- What an end adds to its packets is what its two links add to segments and
acknowledgements. -/
def Adds (near near' : Party) (outward outward' inward inward' : Link) :
    Prop :=
  ∃ sent acked,
    near'.history.packets = near.history.packets ++ (sent ++ acked) ∧
    outward'.sending.handed = outward.sending.handed ++ sent ∧
    inward'.acks = inward.acks ++ acked

namespace Adds

variable {near near' : Party} {outward outward' inward inward' : Link}

/-- A segment that the outward link adds is added by the end. -/
theorem of_segment (adds : Adds near near' outward outward' inward inward')
    {packet : RUDPPacket}
    (handed : ∃ more, outward'.sending.handed =
      outward.sending.handed ++ more ∧ packet ∈ more) :
    ∃ more, near'.history.packets = near.history.packets ++ more ∧
      packet ∈ more := by
  obtain ⟨sent, acked, packets, segments, _⟩ := adds
  obtain ⟨more, added, member⟩ := handed
  rw [segments] at added
  rw [← List.append_cancel_left added] at member
  exact ⟨_, packets, List.mem_append_left _ member⟩

/-- An acknowledgement that the inward link adds is added by the end. -/
theorem of_ack (adds : Adds near near' outward outward' inward inward')
    {ack : RUDPPacket}
    (handed : ∃ more, inward'.acks = inward.acks ++ more ∧ ack ∈ more) :
    ∃ more, near'.history.packets = near.history.packets ++ more ∧
      ack ∈ more := by
  obtain ⟨sent, acked, packets, _, acks⟩ := adds
  obtain ⟨more, added, member⟩ := handed
  rw [acks] at added
  rw [← List.append_cancel_left added] at member
  exact ⟨_, packets, List.mem_append_right _ member⟩

end Adds

/-- One end has done an operation: the two links have done their steps. -/
structure Performed (near far : Party) (outward inward : Link)
    (operation : Operation) : Prop where
  outwardEnabled : ∀ action, operation.outwardAction = some action →
    Link.machine.Enabled outward action
  inwardEnabled : ∀ action, operation.inwardAction = some action →
    Link.machine.Enabled inward action
  joined : Joined (operation.apply near) far
    (Link.machine.advance outward operation.outwardAction)
    (Link.machine.advance inward operation.inwardAction)
  adds : Adds near (operation.apply near)
    outward (Link.machine.advance outward operation.outwardAction)
    inward (Link.machine.advance inward operation.inwardAction)
  ackKept : (Link.machine.advance outward operation.outwardAction).acks =
    outward.acks
  segmentsKept :
    (Link.machine.advance inward operation.inwardAction).sending.handed =
      inward.sending.handed

namespace Joined

variable {near far : Party} {outward inward : Link}

theorem performed_send (joined : Joined near far outward inward)
    (data : Bytes) (requestId : Int) (currentTime : ℚ) :
    Performed near far outward inward
      (.send data requestId currentTime) where
  outwardEnabled := by
    intro action taken
    rw [← Option.some.inj taken]
    trivial
  inwardEnabled := fun _ taken => absurd taken (by
    simp [Operation.inwardAction])
  joined := joined.send data requestId currentTime
  adds := ⟨(near.endpoint.sender.enqueueData data requestId currentTime).2,
    [], by rw [List.append_nil]; rfl, by rw [← joined.near.sender]; rfl,
    (List.append_nil _).symm⟩
  ackKept := rfl
  segmentsKept := rfl

theorem performed_tick (joined : Joined near far outward inward)
    (currentTime : ℚ) :
    Performed near far outward inward (.tick currentTime) where
  outwardEnabled := by
    intro action taken
    rw [← Option.some.inj taken]
    trivial
  inwardEnabled := fun _ taken => absurd taken (by
    simp [Operation.inwardAction])
  joined := joined.tick currentTime
  adds := ⟨(near.endpoint.sender.checkTimeouts currentTime).2,
    [], by rw [List.append_nil]; rfl, by rw [← joined.near.sender]; rfl,
    (List.append_nil _).symm⟩
  ackKept := rfl
  segmentsKept := rfl

theorem performed_receiveAck (joined : Joined near far outward inward)
    {datagram : Bytes} (inFlight : InFlight outward.acks datagram)
    (currentTime : ℚ) :
    Performed near far outward inward (.receive datagram currentTime) := by
  have agrees := Link.agrees_of_reachable joined.outward
  obtain ⟨ack, member, packed⟩ := inFlight
  have isAck := Link.isAckDatagram_of_ack joined.outward member packed
  obtain ⟨checksum, _, read⟩ := RUDPPacket.unpack_of_pack
    (.inr (agrees.acks ack member).ackOnly) packed
  have stepped : Link.machine.next outward (.deliverAck datagram currentTime) =
      outward.call (.onAckReceived ack.ackNum ack.rwnd currentTime) := by
    simp only [Link.machine, Link.next, read]
    rfl
  have outwardStep :
      (Operation.receive datagram currentTime).outwardAction =
        some (.deliverAck datagram currentTime) := if_pos isAck
  have inwardStep :
      (Operation.receive datagram currentTime).inwardAction = none :=
    if_pos isAck
  constructor
  · intro action taken
    rw [outwardStep] at taken
    rw [← Option.some.inj taken]
    exact ⟨ack, member, packed⟩
  · rw [inwardStep]
    exact fun _ taken => absurd taken (by simp)
  · rw [outwardStep, inwardStep]
    exact joined.receiveAck ⟨ack, member, packed⟩ currentTime
  · refine ⟨(near.endpoint.sender.onAckReceived ack.ackNum ack.rwnd
      currentTime).2, [], ?_, ?_, ?_⟩
    · rw [List.append_nil, Operation.apply,
        near.endpoint.handleDatagram_ack (agrees.acks ack member) read]
      rfl
    · rw [outwardStep, Machine.advance, stepped, ← joined.near.sender]
      rfl
    · rw [inwardStep, List.append_nil]
      rfl
  · rw [outwardStep, Machine.advance, stepped]
    rfl
  · rw [inwardStep]
    rfl

theorem performed_receiveSegment (joined : Joined near far outward inward)
    {datagram : Bytes} (inFlight : InFlight inward.sending.handed datagram)
    (currentTime : ℚ) :
    Performed near far outward inward (.receive datagram currentTime) := by
  have agrees := Link.agrees_of_reachable joined.inward
  obtain ⟨packet, handed, packed⟩ := inFlight
  have isSegment :=
    Link.isAckDatagram_of_segment joined.inward handed packed
  have enqueued := RUDPSender.isEnqueued_of_mem_stream
    (agrees.mem_stream handed)
  obtain ⟨checksum, _, read⟩ :=
    RUDPPacket.unpack_of_pack enqueued.hasWireShape packed
  have stepped : Link.machine.next inward (.deliverSegment datagram) =
      inward.receiveSegment (packet.withChecksum checksum) := by
    simp only [Link.machine, Link.next, read]
  have outwardStep :
      (Operation.receive datagram currentTime).outwardAction = none := by
    simp [Operation.outwardAction, isSegment]
  have inwardStep :
      (Operation.receive datagram currentTime).inwardAction =
        some (.deliverSegment datagram) := by
    simp [Operation.inwardAction, isSegment]
  constructor
  · rw [outwardStep]
    exact fun _ taken => absurd taken (by simp)
  · intro action taken
    rw [inwardStep] at taken
    rw [← Option.some.inj taken]
    exact ⟨packet, handed, packed⟩
  · rw [outwardStep, inwardStep]
    exact joined.receiveSegment ⟨packet, handed, packed⟩ currentTime
  · refine ⟨[], [(near.endpoint.receiver.processSegment
      (packet.withChecksum checksum)).ackPacket], ?_, ?_, ?_⟩
    · rw [List.nil_append, Operation.apply,
        near.endpoint.handleDatagram_segment enqueued read]
      rfl
    · rw [outwardStep, List.append_nil]
      rfl
    · rw [inwardStep, Machine.advance, stepped, ← joined.near.receiver]
      rfl
  · rw [outwardStep]
    rfl
  · rw [inwardStep, Machine.advance, stepped]
    rfl

/-- Step lemma: what one end does, its two links do. -/
theorem performed (joined : Joined near far outward inward)
    {operation : Operation} (allowed : operation.Allowed far) :
    Performed near far outward inward operation := by
  cases operation with
  | send data requestId currentTime =>
      exact joined.performed_send data requestId currentTime
  | tick currentTime => exact joined.performed_tick currentTime
  | receive datagram currentTime =>
      rcases joined.far.inFlight allowed with segment | ack
      · exact joined.performed_receiveSegment segment currentTime
      · exact joined.performed_receiveAck ack currentTime

end Joined

/-! ## Steps of a session -/

namespace Sessions

variable {address : Address} {sessions : Sessions} {action : Action}
  {outward inward : Link}

/-- What the client does in a step. -/
def clientOperation : Action → Option Operation
  | .clientSend data requestId currentTime =>
      some (.send data requestId currentTime)
  | .clientReceive datagram currentTime =>
      some (.receive datagram currentTime)
  | .clientTick currentTime => some (.tick currentTime)
  | _ => none

/-- What the server's connection for the address does in a step. -/
def serverOperation (address : Address) : Action → Option Operation
  | .serverSend data requestId addr currentTime =>
      if addr = address then some (.send data requestId currentTime) else none
  | .serverReceive datagram addr currentTime =>
      if addr = address then some (.receive datagram currentTime) else none
  | .serverTick currentTime => some (.tick currentTime)
  | _ => none

/-- The step of the link from the client to the server. -/
def toServerAction (address : Address) (action : Action) :
    Option Link.Action :=
  match clientOperation action with
  | some operation => operation.outwardAction
  | none => (serverOperation address action).bind Operation.inwardAction

/-- The step of the link from the server to the client. -/
def toClientAction (address : Address) (action : Action) :
    Option Link.Action :=
  match clientOperation action with
  | some operation => operation.inwardAction
  | none => (serverOperation address action).bind Operation.outwardAction

section Steps

variable (address sessions)

/-- A step of the client leaves the server's end alone. -/
theorem client_step {operation : Operation}
    (does : clientOperation action = some operation) :
    (sessions.next address action).client =
        operation.apply sessions.client ∧
      (sessions.next address action).serverParty address =
        sessions.serverParty address := by
  cases action <;>
    simp only [clientOperation, Option.some.injEq, reduceCtorEq] at does <;>
    exact does ▸ ⟨rfl, rfl⟩

/-- A step of the server leaves the client alone. -/
theorem server_step (notClient : clientOperation action = none)
    (sameLifetime : action ≠ .newLifetime) :
    (sessions.next address action).client = sessions.client ∧
      (sessions.next address action).serverParty address =
        match serverOperation address action with
        | none => sessions.serverParty address
        | some operation => operation.apply (sessions.serverParty address) := by
  cases action with
  | newLifetime => exact absurd rfl sameLifetime
  | clientSend data requestId currentTime =>
      exact absurd notClient (by simp [clientOperation])
  | clientReceive datagram currentTime =>
      exact absurd notClient (by simp [clientOperation])
  | clientTick currentTime =>
      exact absurd notClient (by simp [clientOperation])
  | serverSend data requestId addr currentTime =>
      refine ⟨rfl, ?_⟩
      simp only [Sessions.next, serverParty_serverDoes, serverOperation]
      by_cases here : addr = address
      · rw [here, if_pos rfl, if_pos rfl, RUDPServerTransport.send,
          forAddress_store_self]
        rfl
      · rw [if_neg here, if_neg here, RUDPServerTransport.send,
          forAddress_store_of_ne _ here]
        exact (sessions.serverParty address).after_nothing
  | serverReceive datagram addr currentTime =>
      refine ⟨rfl, ?_⟩
      by_cases here : addr = address
      · rw [here, serverParty_serverReceive, serverOperation, if_pos rfl]
        rfl
      · simp only [Sessions.next, serverParty_serverDoes, serverOperation]
        rw [if_neg here, forAddress_handleDatagram_of_ne _ here]
        exact (sessions.serverParty address).after_nothing
  | serverTick currentTime =>
      refine ⟨rfl, ?_⟩
      simp only [Sessions.next, serverParty_serverDoes, serverOperation]
      rw [forAddress_tickConnections]
      rfl

end Steps

/-- A step of a session has been carried out by its two links. -/
structure Carried (address : Address) (sessions : Sessions)
    (outward inward : Link) (action : Action) : Prop where
  outwardEnabled : ∀ step, toServerAction address action = some step →
    Link.machine.Enabled outward step
  inwardEnabled : ∀ step, toClientAction address action = some step →
    Link.machine.Enabled inward step
  joined : Joined (sessions.next address action).client
    ((sessions.next address action).serverParty address)
    (Link.machine.advance outward (toServerAction address action))
    (Link.machine.advance inward (toClientAction address action))
  clientAdds : Adds sessions.client (sessions.next address action).client
    outward (Link.machine.advance outward (toServerAction address action))
    inward (Link.machine.advance inward (toClientAction address action))
  serverAdds : Adds (sessions.serverParty address)
    ((sessions.next address action).serverParty address)
    inward (Link.machine.advance inward (toClientAction address action))
    outward (Link.machine.advance outward (toServerAction address action))

/-- An end that does nothing adds nothing. -/
theorem adds_nothing {near : Party} {outward' inward' : Link}
    (segments : outward'.sending.handed = outward.sending.handed)
    (acks : inward'.acks = inward.acks) :
    Adds near near outward outward' inward inward' :=
  ⟨[], [], by simp, by simp [segments], by simp [acks]⟩

/-- Step lemma: an orderly step within a lifetime is carried by the two
links. -/
theorem carried
    (joined : Joined sessions.client (sessions.serverParty address)
      outward inward)
    (orderly : Orderly address sessions action)
    (sameLifetime : action ≠ .newLifetime) :
    Carried address sessions outward inward action := by
  cases client : clientOperation action with
  | some operation =>
      obtain ⟨clientNext, serverNext⟩ :=
        client_step address sessions client
      have allowed : operation.Allowed (sessions.serverParty address) := by
        cases action <;>
          simp only [clientOperation, Option.some.injEq, reduceCtorEq]
            at client <;>
          rw [← client]
        · trivial
        · exact orderly
        · trivial
      have performed := joined.performed allowed
      have toServer : toServerAction address action =
          operation.outwardAction := by
        rw [toServerAction, client]
      have toClient : toClientAction address action =
          operation.inwardAction := by
        rw [toClientAction, client]
      constructor
      · rw [toServer]
        exact performed.outwardEnabled
      · rw [toClient]
        exact performed.inwardEnabled
      · rw [toServer, toClient, clientNext, serverNext]
        exact performed.joined
      · rw [toServer, toClient, clientNext]
        exact performed.adds
      · rw [toServer, toClient, serverNext]
        exact adds_nothing performed.segmentsKept performed.ackKept
  | none =>
      obtain ⟨clientNext, serverNext⟩ :=
        server_step address sessions client
          sameLifetime
      cases server : serverOperation address action with
      | none =>
          rw [server] at serverNext
          have toServer : toServerAction address action = none := by
            rw [toServerAction, client, server]
            rfl
          have toClient : toClientAction address action = none := by
            rw [toClientAction, client, server]
            rfl
          constructor
          · rw [toServer]
            exact fun _ taken => absurd taken (by simp)
          · rw [toClient]
            exact fun _ taken => absurd taken (by simp)
          · rw [toServer, toClient, clientNext, serverNext]
            exact joined
          · rw [toServer, toClient, clientNext]
            exact adds_nothing rfl rfl
          · rw [toServer, toClient, serverNext]
            exact adds_nothing rfl rfl
      | some operation =>
          rw [server] at serverNext
          have allowed : operation.Allowed sessions.client := by
            cases action with
            | serverReceive datagram addr currentTime =>
                simp only [serverOperation] at server
                split at server
                · next here =>
                    rw [← Option.some.inj server]
                    exact orderly here
                · exact absurd server (by simp)
            | serverSend data requestId addr currentTime =>
                simp only [serverOperation] at server
                split at server
                · rw [← Option.some.inj server]
                  trivial
                · exact absurd server (by simp)
            | serverTick currentTime =>
                rw [← Option.some.inj server]
                trivial
            | _ => exact absurd server (by simp [serverOperation])
          have performed := joined.symm.performed allowed
          have toServer : toServerAction address action =
              operation.inwardAction := by
            rw [toServerAction, client, server]
            rfl
          have toClient : toClientAction address action =
              operation.outwardAction := by
            rw [toClientAction, client, server]
            rfl
          constructor
          · rw [toServer]
            exact performed.inwardEnabled
          · rw [toClient]
            exact performed.outwardEnabled
          · rw [toServer, toClient, clientNext, serverNext]
            exact performed.joined.symm
          · rw [toServer, toClient, clientNext]
            exact adds_nothing performed.segmentsKept performed.ackKept
          · rw [toServer, toClient, serverNext]
            exact performed.adds

/-! ## Fair runs of a lifetime -/

section Fairness

variable (run : (orderlyMachine address).InfiniteRun)

/-- The client hands a packet to the network. -/
def ClientHanded (packet : RUDPPacket) (time : ℕ) : Prop :=
  ∃ more, (run.state (time + 1)).client.history.packets =
    (run.state time).client.history.packets ++ more ∧ packet ∈ more

/-- A datagram of a packet arrives at the server from the address. -/
def ServerReceived (packet : RUDPPacket) (time : ℕ) : Prop :=
  ∃ datagram currentTime, packet.pack = .ok datagram ∧
    run.action time = some (.serverReceive datagram address currentTime)

/-- The server hands a packet for the address to the network. -/
def ServerHanded (packet : RUDPPacket) (time : ℕ) : Prop :=
  ∃ more, (run.state (time + 1)).serverHistory.packets =
    (run.state time).serverHistory.packets ++ more ∧ packet ∈ more

/-- A datagram of a packet arrives at the client. -/
def ClientReceived (packet : RUDPPacket) (time : ℕ) : Prop :=
  ∃ datagram currentTime, packet.pack = .ok datagram ∧
    run.action time = some (.clientReceive datagram currentTime)

/-- The network is fair in both directions, and both receive loops keep
ticking with clocks that grow without bound. -/
structure Fair : Prop where
  toServer : FairLossy (ClientHanded run) (ServerReceived run)
  toClient : FairLossy (ServerHanded run) (ClientReceived run)
  clientTicks : ∀ bound, ∃ᶠ time in atTop, ∃ now, bound ≤ now ∧
    run.action time = some (.clientTick now)
  serverTicks : ∀ bound, ∃ᶠ time in atTop, ∃ now, bound ≤ now ∧
    run.action time = some (.serverTick now)

/-- All messages of the lifetime have fewer than `2 ^ 32` segments in each
direction and fit the reassembly fields. -/
structure Numbered : Prop where
  fromClient : ∀ time,
    ∀ message ∈ (run.state time).client.history.submitted,
      RUDPSender.MessageInRange message
  fromServer : ∀ time, ∀ message ∈ (run.state time).serverHistory.submitted,
    RUDPSender.MessageInRange message
  clientSeq : ∀ time,
    (run.state time).client.endpoint.sender.nextSeq < 2 ^ 32
  serverSeq : ∀ time,
    ((run.state time).server.connection address).sender.nextSeq < 2 ^ 32

end Fairness

section Projection

variable (run : (orderlyMachine address).InfiniteRun)

/-- The states of the link from the client to the server. -/
def toServerStates (outward : Link) : ℕ → Link :=
  Machine.InfiniteRun.states Link.machine outward
    fun time => (run.action time).bind (toServerAction address)

/-- The states of the link from the server to the client. -/
def toClientStates (inward : Link) : ℕ → Link :=
  Machine.InfiniteRun.states Link.machine inward
    fun time => (run.action time).bind (toClientAction address)

variable {run}

variable (outward inward) in
/-- The links while nothing happens. -/
theorem states_pause {time : ℕ} (taken : run.action time = none) :
    toServerStates run outward (time + 1) = toServerStates run outward time ∧
      toClientStates run inward (time + 1) = toClientStates run inward time ∧
      run.state (time + 1) = run.state time := by
  refine ⟨?_, ?_, ?_⟩
  · simp [toServerStates, Machine.InfiniteRun.states, taken, Machine.advance]
  · simp [toClientStates, Machine.InfiniteRun.states, taken, Machine.advance]
  · rw [run.next, taken, Machine.advance]

variable (outward inward) in
/-- The links when something happens. -/
theorem states_step {time : ℕ} (taken : run.action time = some action) :
    toServerStates run outward (time + 1) =
        Link.machine.advance (toServerStates run outward time)
          (toServerAction address action) ∧
      toClientStates run inward (time + 1) =
        Link.machine.advance (toClientStates run inward time)
          (toClientAction address action) ∧
      run.state (time + 1) = (run.state time).next address action := by
  refine ⟨?_, ?_, ?_⟩
  · rw [toServerStates, Machine.InfiniteRun.states, taken]
    rfl
  · rw [toClientStates, Machine.InfiniteRun.states, taken]
    rfl
  · rw [run.next, taken]
    rfl

variable (joined : Joined (run.state 0).client
    ((run.state 0).serverParty address) outward inward)
  (sameLifetime : ∀ time, run.action time ≠ some .newLifetime)

include joined sameLifetime

/-- Run lemma: the two ends stay joined by the two links. -/
theorem joined_states (time : ℕ) :
    Joined (run.state time).client ((run.state time).serverParty address)
      (toServerStates run outward time) (toClientStates run inward time) := by
  induction time with
  | zero => exact joined
  | succ time inductionHypothesis =>
      cases taken : run.action time with
      | none =>
          obtain ⟨toServer, toClient, state⟩ :=
            states_pause outward inward taken
          rw [toServer, toClient, state]
          exact inductionHypothesis
      | some action =>
          obtain ⟨toServer, toClient, state⟩ :=
            states_step outward inward taken
          rw [toServer, toClient, state]
          exact (carried inductionHypothesis (run.enabled time action taken).2
            fun new => sameLifetime time (by rw [taken, new])).joined

/-- What the two ends add in a step is what the links add. -/
theorem adds_states (time : ℕ) :
    Adds (run.state time).client (run.state (time + 1)).client
        (toServerStates run outward time)
        (toServerStates run outward (time + 1))
        (toClientStates run inward time)
        (toClientStates run inward (time + 1)) ∧
      Adds ((run.state time).serverParty address)
        ((run.state (time + 1)).serverParty address)
        (toClientStates run inward time)
        (toClientStates run inward (time + 1))
        (toServerStates run outward time)
        (toServerStates run outward (time + 1)) := by
  cases taken : run.action time with
  | none =>
      obtain ⟨toServer, toClient, state⟩ :=
        states_pause outward inward taken
      rw [toServer, toClient, state]
      exact ⟨adds_nothing rfl rfl, adds_nothing rfl rfl⟩
  | some action =>
      obtain ⟨toServer, toClient, state⟩ :=
        states_step outward inward taken
      have carried := carried (joined_states joined sameLifetime time)
        (run.enabled time action taken).2
        fun new => sameLifetime time (by rw [taken, new])
      rw [toServer, toClient, state]
      exact ⟨carried.clientAdds, carried.serverAdds⟩

/-- The run of the link from the client to the server. -/
def toServerRun : Link.machine.InfiniteRun :=
  .ofActions joined.outward
    (fun time => (run.action time).bind (toServerAction address)) (by
      intro time step taken
      obtain ⟨action, acted, does⟩ := Option.bind_eq_some_iff.mp taken
      exact (carried (joined_states joined sameLifetime time)
        (run.enabled time action acted).2
        fun new => sameLifetime time (by rw [acted, new])).outwardEnabled
          step does)

/-- The run of the link from the server to the client. -/
def toClientRun : Link.machine.InfiniteRun :=
  .ofActions joined.inward
    (fun time => (run.action time).bind (toClientAction address)) (by
      intro time step taken
      obtain ⟨action, acted, does⟩ := Option.bind_eq_some_iff.mp taken
      exact (carried (joined_states joined sameLifetime time)
        (run.enabled time action acted).2
        fun new => sameLifetime time (by rw [acted, new])).inwardEnabled
          step does)

/-- Fairness of the session is fairness of the link to the server. -/
theorem fair_toServerRun (fair : Fair run) :
    Link.Fair (toServerRun joined sameLifetime) where
  segments := by
    refine fair.toServer.of_carrier ?_ ?_
    · intro packet time handed
      exact (adds_states joined sameLifetime time).1.of_segment handed
    · rintro packet first handed time after
        ⟨datagram, currentTime, packed, acted⟩
      have listed := Link.mem_handed_of_segmentHanded handed after
      have isSegment := Link.isAckDatagram_of_segment
        ((toServerRun joined sameLifetime).reachable time) listed packed
      refine ⟨datagram, packed, ?_⟩
      change (run.action time).bind (toServerAction address) = _
      rw [acted]
      simp [toServerAction, clientOperation, serverOperation,
        Operation.inwardAction, isSegment]
  acks := by
    refine fair.toClient.of_carrier ?_ ?_
    · intro ack time handed
      exact (adds_states joined sameLifetime time).2.of_ack handed
    · rintro ack first handed time after
        ⟨datagram, currentTime, packed, acted⟩
      have listed := Link.mem_acks_of_ackHanded handed after
      have isAck := Link.isAckDatagram_of_ack
        ((toServerRun joined sameLifetime).reachable time) listed packed
      refine ⟨datagram, currentTime, packed, ?_⟩
      change (run.action time).bind (toServerAction address) = _
      rw [acted]
      simp [toServerAction, clientOperation, Operation.outwardAction, isAck]
  timers := by
    intro bound
    refine (fair.clientTicks bound).mono ?_
    rintro time ⟨now, late, acted⟩
    refine ⟨now, late, ?_⟩
    change (run.action time).bind (toServerAction address) = _
    rw [acted]
    rfl

/-- Fairness of the session is fairness of the link to the client. -/
theorem fair_toClientRun (fair : Fair run) :
    Link.Fair (toClientRun joined sameLifetime) where
  segments := by
    refine fair.toClient.of_carrier ?_ ?_
    · intro packet time handed
      exact (adds_states joined sameLifetime time).2.of_segment handed
    · rintro packet first handed time after
        ⟨datagram, currentTime, packed, acted⟩
      have listed := Link.mem_handed_of_segmentHanded handed after
      have isSegment := Link.isAckDatagram_of_segment
        ((toClientRun joined sameLifetime).reachable time) listed packed
      refine ⟨datagram, packed, ?_⟩
      change (run.action time).bind (toClientAction address) = _
      rw [acted]
      simp [toClientAction, clientOperation, Operation.inwardAction,
        isSegment]
  acks := by
    refine fair.toServer.of_carrier ?_ ?_
    · intro ack time handed
      exact (adds_states joined sameLifetime time).1.of_ack handed
    · rintro ack first handed time after
        ⟨datagram, currentTime, packed, acted⟩
      have listed := Link.mem_acks_of_ackHanded handed after
      have isAck := Link.isAckDatagram_of_ack
        ((toClientRun joined sameLifetime).reachable time) listed packed
      refine ⟨datagram, currentTime, packed, ?_⟩
      change (run.action time).bind (toClientAction address) = _
      rw [acted]
      simp [toClientAction, clientOperation, serverOperation,
        Operation.outwardAction, isAck]
  timers := by
    intro bound
    refine (fair.serverTicks bound).mono ?_
    rintro time ⟨now, late, acted⟩
    refine ⟨now, late, ?_⟩
    change (run.action time).bind (toClientAction address) = _
    rw [acted]
    rfl

theorem numbered_toServerRun (numbered : Numbered run) :
    Link.Numbered (toServerRun joined sameLifetime) where
  inRange := by
    intro time
    have near := (joined_states joined sameLifetime time).near
    intro message member
    apply numbered.fromClient time
    rw [← near.submitted]
    exact member
  nextSeq := by
    intro time
    have near := (joined_states joined sameLifetime time).near
    change (toServerStates run outward time).sending.sender.nextSeq < _
    rw [near.sender]
    exact numbered.clientSeq time

theorem numbered_toClientRun (numbered : Numbered run) :
    Link.Numbered (toClientRun joined sameLifetime) where
  inRange := by
    intro time
    have far := (joined_states joined sameLifetime time).far
    intro message member
    apply numbered.fromServer time
    change message ∈ ((run.state time).serverParty address).history.submitted
    rw [← far.submitted]
    exact member
  nextSeq := by
    intro time
    have far := (joined_states joined sameLifetime time).far
    change (toClientStates run inward time).sending.sender.nextSeq < _
    rw [far.sender]
    exact numbered.serverSeq time

end Projection

/-! ## Main results -/

/-- Within a lifetime messages are only added. -/
theorem submitted_extends (run : (orderlyMachine address).InfiniteRun)
    (sameLifetime : ∀ time, run.action time ≠ some .newLifetime)
    {time later : ℕ} (after : time ≤ later) :
    (run.state time).client.history.submitted <+:
        (run.state later).client.history.submitted ∧
      (run.state time).serverHistory.submitted <+:
        (run.state later).serverHistory.submitted := by
  obtain ⟨outward, inward, joined⟩ := linked_of_reachable run.start
  have now := joined_states joined sameLifetime time
  have then' := joined_states joined sameLifetime later
  have requests : (toServerStates run outward time).sending.messages <+:
      (toServerStates run outward later).sending.messages :=
    (Link.grows (toServerRun joined sameLifetime) after).messages
  have replies : (toClientStates run inward time).sending.messages <+:
      (toClientStates run inward later).sending.messages :=
    (Link.grows (toClientRun joined sameLifetime) after).messages
  rw [now.near.submitted, then'.near.submitted] at requests
  rw [now.far.submitted, then'.far.submitted] at replies
  exact ⟨requests, replies⟩

/-- The requests sent by some time have arrived after some time. -/
theorem eventually_requests (run : (orderlyMachine address).InfiniteRun)
    (sameLifetime : ∀ time, run.action time ≠ some .newLifetime)
    (fair : Fair run) (numbered : Numbered run) (time : ℕ) :
    ∀ᶠ later in atTop,
      (run.state time).client.history.submitted.map Prod.fst <+:
        (run.state later).serverHistory.delivered := by
  obtain ⟨outward, inward, joined⟩ := linked_of_reachable run.start
  have acknowledged := Link.eventually_acknowledged
    (fair_toServerRun joined sameLifetime fair)
    (numbered_toServerRun joined sameLifetime numbered) time
  filter_upwards [acknowledged] with later ⟨after, reached⟩
  have arrived : (toServerStates run outward time).sending.messages.map
        Prod.fst <+:
      (toServerStates run outward later).receiving.delivered :=
    Link.delivered_of_acknowledged after reached
  rwa [(joined_states joined sameLifetime time).near.submitted,
    (joined_states joined sameLifetime later).far.delivered] at arrived

/-- The answers sent by some time have arrived after some time. -/
theorem eventually_replies (run : (orderlyMachine address).InfiniteRun)
    (sameLifetime : ∀ time, run.action time ≠ some .newLifetime)
    (fair : Fair run) (numbered : Numbered run) (time : ℕ) :
    ∀ᶠ later in atTop,
      (run.state time).serverHistory.submitted.map Prod.fst <+:
        (run.state later).client.history.delivered := by
  obtain ⟨outward, inward, joined⟩ := linked_of_reachable run.start
  have acknowledged := Link.eventually_acknowledged
    (fair_toClientRun joined sameLifetime fair)
    (numbered_toClientRun joined sameLifetime numbered) time
  filter_upwards [acknowledged] with later ⟨after, reached⟩
  have arrived : (toClientStates run inward time).sending.messages.map
        Prod.fst <+:
      (toClientStates run inward later).receiving.delivered :=
    Link.delivered_of_acknowledged after reached
  rwa [(joined_states joined sameLifetime time).far.submitted,
    (joined_states joined sameLifetime later).near.delivered] at arrived

/-- Eventual exchange.  In every fair infinite run within one lifetime, begun
in any state the system can reach, all that either end has been given to send
at any time has been passed to the other end's message handler after some
time, in order. -/
theorem eventually_exchanged (run : (orderlyMachine address).InfiniteRun)
    (sameLifetime : ∀ time, run.action time ≠ some .newLifetime)
    (fair : Fair run) (numbered : Numbered run) (time : ℕ) :
    ∀ᶠ later in atTop,
      (run.state time).client.history.submitted.map Prod.fst <+:
        (run.state later).serverHistory.delivered ∧
      (run.state time).serverHistory.submitted.map Prod.fst <+:
        (run.state later).client.history.delivered :=
  (eventually_requests run sameLifetime fair numbered time).and
    (eventually_replies run sameLifetime fair numbered time)

/-- A tick while no timer runs does nothing. -/
theorem tickConnections_idle (transport : RUDPServerTransport) (now : ℚ)
    (idle : ∀ entry ∈ transport.connections.entries,
      entry.2.sender.checkTimeouts now = (entry.2.sender, [])) :
    transport.tickConnections now =
      { transport := transport, sent := [], delivered := [] } := by
  obtain ⟨⟨entries, nodup⟩⟩ := transport
  have same : entries.map (fun entry => (entry.1,
      ({ entry.2 with sender := (entry.2.sender.checkTimeouts now).1 } :
        Endpoint))) = entries := by
    conv_rhs => rw [← List.map_id entries]
    apply List.map_congr_left
    intro entry member
    rw [idle entry member, id]
  have nothing : (entries.flatMap fun entry =>
      (entry.2.sender.checkTimeouts now).2.map fun packet =>
        (packet, entry.1)) = [] := by
    rw [List.flatMap_eq_nil_iff]
    intro entry member
    rw [idle entry member, List.map_nil]
  simp only [RUDPServerTransport.tickConnections, Dict.mapValues,
    Dict.collect, same, nothing]

namespace Sample

/-- One request, whose first datagram is lost, and its answer.  From then on
the two receive loops tick in turn. -/
def requestAnswered : ℕ → Option Action
  | 0 => some (.clientSend [1] 7 0)
  | 1 => some (.clientTick 5)
  | 2 => some (.serverReceive
      [0, 0, 0, 0, 0, 0, 0, 0, 4, 0, 0, 244, 254, 0, 0, 0, 7, 0, 0, 0, 0, 1]
      loopbackClient 6)
  | 3 => some (.serverSend [9] 7 loopbackClient 6)
  | 4 => some (.clientReceive
      [0, 0, 0, 0, 0, 0, 0, 0, 4, 0, 0, 244, 246, 0, 0, 0, 7, 0, 0, 0, 0, 9]
      7)
  | 5 => some (.clientReceive [0, 0, 0, 0, 0, 0, 0, 1, 2, 0, 64, 189, 254] 7)
  | 6 => some (.serverReceive [0, 0, 0, 0, 0, 0, 0, 1, 2, 0, 64, 189, 254]
      loopbackClient 8)
  | time + 7 =>
      if time % 2 = 0 then some (.clientTick time)
      else some (.serverTick time)

theorem requestAnswered_enabled (time : ℕ) (action : Action)
    (taken : requestAnswered time = some action) :
    (orderlyMachine loopbackClient).Enabled
      (Machine.InfiniteRun.states (orderlyMachine loopbackClient)
        (orderlyMachine loopbackClient).start requestAnswered time)
      action := by
  unfold orderlyMachine
  match time, taken with
  | 0, taken =>
      rw [← Option.some.inj taken]
      exact ⟨trivial, trivial⟩
  | 1, taken =>
      rw [← Option.some.inj taken]
      exact ⟨trivial, trivial⟩
  | 2, taken =>
      rw [← Option.some.inj taken]
      decide +kernel
  | 3, taken =>
      rw [← Option.some.inj taken]
      exact ⟨trivial, trivial⟩
  | 4, taken =>
      rw [← Option.some.inj taken]
      decide +kernel
  | 5, taken =>
      rw [← Option.some.inj taken]
      decide +kernel
  | 6, taken =>
      rw [← Option.some.inj taken]
      decide +kernel
  | time + 7, taken =>
      simp only [requestAnswered] at taken
      split at taken
      · rw [← Option.some.inj taken]
        exact ⟨trivial, trivial⟩
      · rw [← Option.some.inj taken]
        exact ⟨trivial, trivial⟩

/-- The run of these actions. -/
def answeredRun : (orderlyMachine loopbackClient).InfiniteRun :=
  .ofActions .start requestAnswered requestAnswered_enabled

theorem answeredRun_clientTick (now : ℚ) :
    (answeredRun.state 7).next loopbackClient (.clientTick now) =
      answeredRun.state 7 := by
  have unacked :
      (answeredRun.state 7).client.endpoint.sender.unackedPackets.get?
        (answeredRun.state 7).client.endpoint.sender.base = none := by
    decide +kernel
  simp only [Sessions.next, clientDoes, RUDPClientTransport.tick,
    RUDPSender.checkTimeouts, unacked, Party.after_nothing]

theorem answeredRun_serverTick (now : ℚ) :
    (answeredRun.state 7).next loopbackClient (.serverTick now) =
      answeredRun.state 7 := by
  have entries : (answeredRun.state 7).server.connections.entries =
      [(loopbackClient,
        (answeredRun.state 7).server.connection loopbackClient)] := by
    decide +kernel
  have unacked : ((answeredRun.state 7).server.connection
      loopbackClient).sender.unackedPackets.get?
        ((answeredRun.state 7).server.connection loopbackClient).sender.base =
          none := by
    decide +kernel
  have kept := tickConnections_idle (answeredRun.state 7).server now (by
    intro entry member
    rw [entries, List.mem_singleton] at member
    rw [member, RUDPSender.checkTimeouts]
    simp only [unacked])
  simp only [Sessions.next, kept, serverDoes, ServerResult.forAddress,
    History.record, List.filter_nil, List.map_nil, List.append_nil]

theorem answeredRun_idle (time : ℕ) :
    answeredRun.state (time + 7) = answeredRun.state 7 := by
  induction time with
  | zero => rfl
  | succ time inductionHypothesis =>
      have stepped := answeredRun.next (time + 7)
      rw [inductionHypothesis] at stepped
      rw [Nat.add_right_comm, stepped]
      change Machine.advance _ _ (requestAnswered (time + 7)) = _
      simp only [requestAnswered]
      split
      · exact answeredRun_clientTick time
      · exact answeredRun_serverTick time

/-- Nothing is added to a history after the seventh action. -/
theorem answeredRun_rare (history : Sessions → List RUDPPacket)
    (packet : RUDPPacket) :
    ¬ ∃ᶠ time in atTop, ∃ more,
      history (answeredRun.state (time + 1)) =
        history (answeredRun.state time) ++ more ∧ packet ∈ more := by
  rw [not_frequently]
  filter_upwards [eventually_ge_atTop 7] with time after
  rintro ⟨more, added, member⟩
  obtain ⟨extra, rfl⟩ := Nat.exists_eq_add_of_le' after
  rw [Nat.add_right_comm, answeredRun_idle (extra + 1),
    answeredRun_idle extra, List.self_eq_append_right] at added
  rw [added] at member
  exact absurd member (by simp)

/-- The ticks of either end go on, with a clock that grows without bound. -/
theorem answeredRun_ticks (parity : ℕ) (small : parity < 2) (bound : ℚ) :
    ∃ᶠ time in atTop, ∃ now : ℕ, bound ≤ now ∧ now % 2 = parity ∧
      time = now + 7 := by
  rw [frequently_atTop]
  intro time
  obtain ⟨late, above⟩ := exists_nat_ge bound
  refine ⟨2 * (max time late) + parity + 7, by omega,
    2 * (max time late) + parity, ?_, by omega, rfl⟩
  have afterLate : late ≤ 2 * (max time late) + parity := by omega
  exact above.trans (by exact_mod_cast afterLate)

theorem answeredRun_fair : Fair answeredRun where
  toServer := fun packet frequently => absurd frequently
    (answeredRun_rare (fun sessions => sessions.client.history.packets) packet)
  toClient := fun packet frequently => absurd frequently
    (answeredRun_rare (fun sessions => sessions.serverHistory.packets) packet)
  clientTicks := by
    intro bound
    refine (answeredRun_ticks 0 (by omega) bound).mono ?_
    rintro time ⟨now, late, even, rfl⟩
    refine ⟨now, late, ?_⟩
    change requestAnswered (now + 7) = _
    simp only [requestAnswered, even, if_true]
  serverTicks := by
    intro bound
    refine (answeredRun_ticks 1 (by omega) bound).mono ?_
    rintro time ⟨now, late, odd, rfl⟩
    refine ⟨now, late, ?_⟩
    change requestAnswered (now + 7) = _
    simp only [requestAnswered, odd]
    rfl

/-- What holds in the first eight states holds in all. -/
theorem answeredRun_forall {Condition : Sessions → Prop}
    (early : ∀ time < 8, Condition (answeredRun.state time)) (time : ℕ) :
    Condition (answeredRun.state time) := by
  rcases Nat.lt_or_ge time 8 with before | after
  · exact early time before
  · obtain ⟨extra, rfl⟩ := Nat.exists_eq_add_of_le' (Nat.le_of_lt after)
    rw [answeredRun_idle extra]
    exact early 7 (by omega)

theorem answeredRun_numbered : Numbered answeredRun where
  fromClient := @answeredRun_forall
    (fun sessions => ∀ message ∈ sessions.client.history.submitted,
      RUDPSender.MessageInRange message)
    (by decide +kernel)
  fromServer := @answeredRun_forall
    (fun sessions => ∀ message ∈ sessions.serverHistory.submitted,
      RUDPSender.MessageInRange message)
    (by decide +kernel)
  clientSeq := @answeredRun_forall
    (fun sessions => sessions.client.endpoint.sender.nextSeq < 2 ^ 32)
    (by decide +kernel)
  serverSeq := @answeredRun_forall
    (fun sessions =>
      (sessions.server.connection loopbackClient).sender.nextSeq < 2 ^ 32)
    (by decide +kernel)

theorem answeredRun_sameLifetime (time : ℕ) :
    answeredRun.action time ≠ some .newLifetime := by
  change requestAnswered time ≠ _
  unfold requestAnswered
  split <;> try simp
  split <;> simp

end Sample

open Sample in
/-- The request of the sample run is handled and its answer delivered. -/
theorem eventually_exchanged_answeredRun :
    ∀ᶠ later in atTop,
      [[1]] <+: (answeredRun.state later).serverHistory.delivered ∧
      [[9]] <+: (answeredRun.state later).client.history.delivered := by
  have exchanged := eventually_exchanged answeredRun answeredRun_sameLifetime
    answeredRun_fair answeredRun_numbered 4
  have requests : (answeredRun.state 4).client.history.submitted.map
      Prod.fst = [[1]] := by
    decide +kernel
  have replies : (answeredRun.state 4).serverHistory.submitted.map
      Prod.fst = [[9]] := by
    decide +kernel
  rwa [requests, replies] at exchanged

/-- Every request is answered.  When the message handler sooner or later sends
one answer for each message it was passed, the client is eventually handed an
answer to each of its requests: the message handled at a place is the request
sent at this place, and the answer sent at this place is the one that
arrives there. -/
theorem eventually_answered (run : (orderlyMachine address).InfiniteRun)
    (sameLifetime : ∀ time, run.action time ≠ some .newLifetime)
    (fair : Fair run) (numbered : Numbered run)
    (answers : ∀ time, ∃ later,
      (run.state time).serverHistory.delivered.length ≤
        (run.state later).serverHistory.submitted.length)
    (time index : ℕ)
    (asked : index < (run.state time).client.history.submitted.length) :
    ∀ᶠ later in atTop, ∃ request answer,
      (run.state time).client.history.submitted[index]?.map Prod.fst =
        some request ∧
      (run.state later).serverHistory.delivered[index]? = some request ∧
      (run.state later).serverHistory.submitted[index]?.map Prod.fst =
        some answer ∧
      (run.state later).client.history.delivered[index]? = some answer := by
  have handled := eventually_requests run sameLifetime fair numbered time
  obtain ⟨handledBy, arrived⟩ := handled.exists
  have counted :
      index < (run.state handledBy).serverHistory.delivered.length := by
    have longer := arrived.length_le
    rw [List.length_map] at longer
    exact asked.trans_le longer
  obtain ⟨answeredBy, longer⟩ := answers handledBy
  have sent := counted.trans_le longer
  filter_upwards [handled,
    eventually_replies run sameLifetime fair numbered answeredBy,
    eventually_ge_atTop answeredBy] with later requests replies after
  have grown := (submitted_extends run sameLifetime after).2
  have request := List.prefix_iff_getElem?.mp requests index
    (by rwa [List.length_map])
  have answer := List.prefix_iff_getElem?.mp replies index
    (by rwa [List.length_map])
  have kept := List.prefix_iff_getElem?.mp grown index sent
  refine ⟨_, _, ?_, request, ?_, answer⟩
  · rw [List.getElem?_eq_getElem asked, List.getElem_map]
    rfl
  · rw [kept, List.getElem_map]
    rfl

open Sample in
/-- The request of the sample run is answered. -/
theorem eventually_answered_answeredRun :
    ∀ᶠ later in atTop, ∃ request answer,
      (answeredRun.state 1).client.history.submitted[0]?.map Prod.fst =
        some request ∧
      (answeredRun.state later).serverHistory.delivered[0]? = some request ∧
      (answeredRun.state later).serverHistory.submitted[0]?.map Prod.fst =
        some answer ∧
      (answeredRun.state later).client.history.delivered[0]? =
        some answer := by
  apply eventually_answered answeredRun answeredRun_sameLifetime
    answeredRun_fair answeredRun_numbered
  · intro time
    refine ⟨7, ?_⟩
    have submitted :
        (answeredRun.state 7).serverHistory.submitted.length = 1 := by
      decide +kernel
    rw [submitted]
    exact @answeredRun_forall
      (fun sessions => sessions.serverHistory.delivered.length ≤ 1)
      (by decide +kernel) time
  · decide +kernel

end Sessions

end RudpAgentStack

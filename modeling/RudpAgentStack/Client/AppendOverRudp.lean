import RudpAgentStack.Agent.Answers
import RudpAgentStack.Agent.FileRequests
import RudpAgentStack.Client.AgentClient
import RudpAgentStack.Transport.SessionSafety

/-!
# Appending over RUDP

One call `execute(OP_APPEND, ...)` of a client over its RUDP transport, with the
server that processes what arrives.  Every round of the loop sends the request
as a message of its own, and neither the end of the wait nor the end of the
loop takes a message back.  Client and server read clocks of their own; those
of the server do not go back.
-/

namespace RudpAgentStack

open Foundation

/-! ## The client's side -/

/-- `build_request` of the client's `AppendHandler`. -/
def AppendHandler.buildRequest
    (filename : Text) (data : Bytes) : ClientRequestSpec where
  opcode := opAppend
  metadata := [("filename", .string filename)]
  binary := some data
  mixed := true

/-- A call to append data to a file, the id of its request, and the id under
which the server knows its client. -/
structure AppendCall where
  clientId : Text
  requestId : Int
  filename : Text
  data : Bytes

/-- The message each round of the call sends. -/
def AppendCall.message {World : Type}
    (host : Host World) (append : AppendCall) : Except PyError Bytes := do
  let payload ← AgentClient.payloadOf host
    (AppendHandler.buildRequest append.filename append.data)
  encodeMessage opAppend 0 append.requestId payload

/-- The seconds a round waits for its response. -/
def responseTimeout : ℚ := 15

/-- Where the loop of `send_request_spec` stands. -/
inductive RoundPhase
  /-- Before a round, which does not begin before a time. -/
  | ready (notBefore : ℚ)
  /-- In `event.wait`. -/
  | waiting (since : ℚ)
  /-- Returned or given up. -/
  | done
  deriving DecidableEq

namespace RoundPhase

/-- A round can begin. -/
def Begins : RoundPhase → ℚ → Prop
  | .ready notBefore, time => notBefore ≤ time
  | _, _ => False

instance : ∀ (phase : RoundPhase) (time : ℚ), Decidable (phase.Begins time)
  | .ready notBefore, time => inferInstanceAs (Decidable (notBefore ≤ time))
  | .waiting _, _ => .isFalse nofun
  | .done, _ => .isFalse nofun

/-- The wait for a response is over. -/
def Expires : RoundPhase → ℚ → Prop
  | .waiting since, time => since + responseTimeout ≤ time
  | _, _ => False

instance : ∀ (phase : RoundPhase) (time : ℚ), Decidable (phase.Expires time)
  | .waiting since, time =>
      inferInstanceAs (Decidable (since + responseTimeout ≤ time))
  | .ready _, _ => .isFalse nofun
  | .done, _ => .isFalse nofun

/-- The client pauses after a round has failed, unless it was the last. -/
def afterFailure (rounds : Nat) (time : ℚ) : RoundPhase :=
  if maxRetries < rounds then .done
  else .ready (time + min (initialRto * 2 ^ (rounds - 1)) maxRto)

end RoundPhase

/-! ## Client and server -/

/-- The call in progress, with the server that processes its requests and
those of other clients. -/
structure AppendSession (World : Type) where
  client : Party
  /-- The server's connection for the address of the client. -/
  server : Party
  agent : AgentState World
  /-- The requests the server has processed. -/
  calls : List Call
  phase : RoundPhase
  /-- The number of rounds so far. -/
  rounds : Nat

namespace AppendSession

/-- What can happen. -/
inductive Action
  | round (time : ℚ)
  /-- The wait for a response ends. -/
  | expire (time : ℚ)
  /-- The client sends another request. -/
  | send (data : Bytes) (requestId : Int) (time : ℚ)
  | receive (datagram : Bytes) (time : ℚ)
  | tick (time : ℚ)
  /-- A datagram arrives at the server.  The clock is read for every message
  that is delivered, and when its response is sent. -/
  | serverReceive (datagram : Bytes) (time : ℚ)
      (clock : Nat → Readings × ℚ)
  | serverTick (time : ℚ)
  /-- The server processes a request of another client. -/
  | otherRequest (call : Call)

variable {World : Type} (host : Host World) (guard : PolicyGuard)
  (append : AppendCall)

/-- What the loop does about the messages delivered to the client. -/
def phaseAfter
    (session : AppendSession World) (delivered : List Bytes) (time : ℚ) :
    RoundPhase :=
  match session.phase, delivered.foldl
      (AgentClient.onMessageReceived append.requestId) none with
  | .waiting _, some response =>
      match AgentClient.decodeResponse host response with
      | .ok _ => .done
      | .error error =>
          if AgentClient.isRetryable error.kind then
            .afterFailure session.rounds time
          else .done
  | phase, _ => phase

/-- The calls of `process_request` for messages of the client, with the times
their responses are sent at. -/
def arrivals (delivered : List Bytes) (clock : Nat → Readings × ℚ) :
    List (Call × ℚ) :=
  delivered.zipIdx.map fun (data, index) =>
    (⟨append.clientId, data, (clock index).1⟩, (clock index).2)

/-- `_on_udp_message`: process a message and send the response, if there is
one, to the client. -/
def onUdpMessage
    (session : AppendSession World) (arrival : Call × ℚ) :
    AppendSession World :=
  let (response, agent) := AgentServer.serve host guard session.agent arrival.1
  let server :=
    match response, frame? arrival.1.data with
    | _ :: _, some header =>
        session.server.after [(response, header.requestId)]
          (session.server.endpoint.ofSender
            (session.server.endpoint.sender.enqueueData response
              header.requestId arrival.2))
    | _, _ => session.server
  { session with agent, server, calls := session.calls ++ [arrival.1] }

/-- One step. -/
def next (session : AppendSession World) : Action → AppendSession World
  | .round time =>
      match append.message host with
      | .error _ => session
      | .ok message =>
          { session with
            client := session.client.after [(message, append.requestId)]
              (RUDPClientTransport.send session.client.endpoint message
                append.requestId time)
            phase := .waiting time
            rounds := session.rounds + 1 }
  | .expire time =>
      { session with phase := .afterFailure session.rounds time }
  | .send data requestId time =>
      { session with
        client := session.client.after [(data, requestId)]
          (RUDPClientTransport.send session.client.endpoint data requestId
            time) }
  | .receive datagram time =>
      let result :=
        RUDPClientTransport.receiveDatagram session.client.endpoint datagram
          time
      { session with
        client := session.client.after [] result
        phase := phaseAfter host append session result.delivered time }
  | .tick time =>
      { session with
        client := session.client.after []
          (RUDPClientTransport.tick session.client.endpoint time) }
  | .serverReceive datagram time clock =>
      let result := session.server.endpoint.handleDatagram datagram time
      (arrivals append result.delivered clock).foldl (onUdpMessage host guard)
        { session with server := session.server.after [] result }
  | .serverTick time =>
      { session with
        server := session.server.after []
          (session.server.endpoint.ofSender
            (session.server.endpoint.sender.checkTimeouts time)) }
  | .otherRequest call =>
      { session with
        agent := (AgentServer.serve host guard session.agent call).2
        calls := session.calls ++ [call] }

/-- What is enabled: rounds begin after the pause, waits end after the timeout,
the network forges nothing, and the server processes requests one after the
other.  Other requests of the client have ids of their own. -/
def Enabled (session : AppendSession World) : Action → Prop
  | .round time =>
      session.phase.Begins time ∧ (append.message host).isOk = true
  | .expire time => session.phase.Expires time
  | .send data _ _ => (append.message host).toOption ≠ some data
  | .receive datagram _ => InFlight session.server.history.packets datagram
  | .serverReceive datagram time clock =>
      InFlight session.client.history.packets datagram ∧
        Chronological (session.calls ++ (arrivals append
          (session.server.endpoint.handleDatagram datagram time).delivered
          clock).map Prod.fst)
  | .otherRequest call =>
      call.clientId ≠ append.clientId ∧
        Chronological (session.calls ++ [call])
  | _ => True

/-- Runs of a new client at a new server, whatever the network does. -/
def machine (world : World) : Machine (AppendSession World) Action where
  start :=
    { client := .new
      server := .new
      agent := AgentServer.new world
      calls := []
      phase := .ready 0
      rounds := 0 }
  Enabled := Enabled host append
  next := next host guard append

instance (world : World) :
    ∀ (session : AppendSession World) (action : Action),
      Decidable ((machine host guard append world).Enabled session action)
  | session, .round time =>
      inferInstanceAs (Decidable (session.phase.Begins time ∧
        (append.message host).isOk = true))
  | session, .expire time =>
      inferInstanceAs (Decidable (session.phase.Expires time))
  | _, .send data _ _ =>
      inferInstanceAs (Decidable ((append.message host).toOption ≠ some data))
  | session, .receive datagram _ =>
      inferInstanceAs
        (Decidable (InFlight session.server.history.packets datagram))
  | session, .serverReceive datagram time clock =>
      inferInstanceAs (Decidable (
        InFlight session.client.history.packets datagram ∧
          Chronological (session.calls ++ (arrivals append
            (session.server.endpoint.handleDatagram datagram time).delivered
            clock).map Prod.fst)))
  | session, .otherRequest call =>
      inferInstanceAs (Decidable (call.clientId ≠ append.clientId ∧
        Chronological (session.calls ++ [call])))
  | _, .tick _ => .isTrue trivial
  | _, .serverTick _ => .isTrue trivial

end AppendSession

namespace AppendSession

variable {World : Type} {host : Host World} {guard : PolicyGuard}
  {append : AppendCall} {world : World} {session : AppendSession World}

/-! ## What the server processes -/

/-- The server has processed some requests, and has answered them at most. -/
structure Serves
    (host : Host World) (guard : PolicyGuard)
    (before after : AppendSession World) (calls : List Call) : Prop where
  client : after.client = before.client
  phase : after.phase = before.phase
  rounds : after.rounds = before.rounds
  agent : after.agent = AgentServer.run host guard before.agent calls
  calls : after.calls = before.calls ++ calls
  delivered : after.server.history.delivered = before.server.history.delivered
  joined : (∃ outward inward, Joined before.client before.server outward inward) →
    ∃ outward inward, Joined after.client after.server outward inward

theorem Serves.trans
    {before between after : AppendSession World} {calls later : List Call}
    (first : Serves host guard before between calls)
    (second : Serves host guard between after later) :
    Serves host guard before after (calls ++ later) where
  client := second.client.trans first.client
  phase := second.phase.trans first.phase
  rounds := second.rounds.trans first.rounds
  agent := by rw [second.agent, first.agent, AgentServer.run_append]
  calls := by rw [second.calls, first.calls, List.append_assoc]
  delivered := second.delivered.trans first.delivered
  joined := fun joined => second.joined (first.joined joined)

theorem serves_onUdpMessage
    (session : AppendSession World) (arrival : Call × ℚ) :
    Serves host guard session (onUdpMessage host guard session arrival)
      [arrival.1] where
  client := rfl
  phase := rfl
  rounds := rfl
  agent := rfl
  calls := rfl
  delivered := by
    unfold onUdpMessage
    dsimp only
    split
    · exact List.append_nil _
    · rfl
  joined := by
    rintro ⟨outward, inward, joined⟩
    unfold onUdpMessage
    dsimp only
    split
    · next header _ _ =>
        exact ⟨_, _, (joined.symm.send _ header.requestId arrival.2).symm⟩
    · exact ⟨outward, inward, joined⟩

/-- Messages are processed one after the other. -/
theorem serves_foldl
    (arrivals : List (Call × ℚ)) (session : AppendSession World) :
    Serves host guard session
      (arrivals.foldl (onUdpMessage host guard) session)
      (arrivals.map Prod.fst) := by
  induction arrivals generalizing session with
  | nil =>
      exact
        { client := rfl
          phase := rfl
          rounds := rfl
          agent := rfl
          calls := (List.append_nil _).symm
          delivered := rfl
          joined := id }
  | cons arrival arrivals inductionHypothesis =>
      exact (serves_onUdpMessage session arrival).trans
        (inductionHypothesis _)

theorem data_arrivals (delivered : List Bytes) (clock : Nat → Readings × ℚ) :
    ((arrivals append delivered clock).map Prod.fst).map Call.data =
      delivered := by
  have first : (delivered.zipIdx.map Prod.fst) = delivered :=
    List.zipIdx_map_fst 0 delivered
  rw [arrivals, List.map_map, List.map_map]
  exact first

theorem clientId_of_mem_arrivals
    {delivered : List Bytes} {clock : Nat → Readings × ℚ} {call : Call}
    (member : call ∈ (arrivals append delivered clock).map Prod.fst) :
    call.clientId = append.clientId := by
  simp only [arrivals, List.map_map, List.mem_map] at member
  obtain ⟨_, _, rfl⟩ := member
  rfl

/-! ## The invariant -/

/-- The requests of the client among those of a list. -/
def ofClient (append : AppendCall) (calls : List Call) : List Call :=
  calls.filter fun call => call.clientId = append.clientId

/-- The two ends are joined, the server is where its requests have taken it,
those of the client are the messages that were delivered, and every round has
sent the request once. -/
structure Sound
    (host : Host World) (guard : PolicyGuard) (append : AppendCall)
    (world : World) (session : AppendSession World) : Prop where
  joined : ∃ outward inward,
    Joined session.client session.server outward inward
  agent : session.agent =
    AgentServer.run host guard (AgentServer.new world) session.calls
  delivered : (ofClient append session.calls).map Call.data =
    session.server.history.delivered
  chronological : Chronological session.calls
  copies : ∀ message, append.message host = .ok message →
    (session.client.history.submitted.map Prod.fst).count message ≤
      session.rounds
  rounds : session.rounds ≤ maxRetries + 1
  more : ∀ notBefore, session.phase = .ready notBefore →
    session.rounds ≤ maxRetries

theorem sound_start :
    Sound host guard append world (machine host guard append world).start where
  joined := ⟨_, _, .start⟩
  agent := rfl
  delivered := rfl
  chronological := .nil
  copies := fun _ _ => Nat.zero_le _
  rounds := Nat.zero_le _
  more := fun _ _ => Nat.zero_le _

/-- There is a round after a failure only if one is left. -/
theorem le_of_afterFailure
    {rounds : Nat} {time notBefore : ℚ}
    (ready : RoundPhase.afterFailure rounds time = .ready notBefore) :
    rounds ≤ maxRetries := by
  unfold RoundPhase.afterFailure at ready
  split at ready
  · cases ready
  · next few => exact not_lt.mp few

theorem le_of_phaseAfter
    (more : ∀ notBefore, session.phase = .ready notBefore →
      session.rounds ≤ maxRetries)
    {delivered : List Bytes} {time notBefore : ℚ}
    (ready : phaseAfter host append session delivered time =
      .ready notBefore) :
    session.rounds ≤ maxRetries := by
  unfold phaseAfter at ready
  split at ready
  · split at ready
    · cases ready
    · split at ready
      · exact le_of_afterFailure ready
      · cases ready
  · exact more notBefore ready

/-- Step lemma: every step keeps the invariant. -/
theorem Sound.next
    (sound : Sound host guard append world session) {action : Action}
    (enabled : (machine host guard append world).Enabled session action) :
    Sound host guard append world (next host guard append session action) := by
  obtain ⟨outward, inward, joined⟩ := sound.joined
  have unsent : ∀ message, append.message host = .ok message →
      ((session.client.history.submitted ++ []).map Prod.fst).count message ≤
        session.rounds := by
    rw [List.append_nil]
    exact sound.copies
  cases action with
  | round time =>
      obtain ⟨begins, isOk⟩ := enabled
      have few : session.rounds ≤ maxRetries := by
        cases phase : session.phase with
        | ready notBefore => exact sound.more notBefore phase
        | waiting since =>
            rw [phase] at begins
            cases begins
        | done =>
            rw [phase] at begins
            cases begins
      cases sent : append.message host with
      | error error =>
          rw [sent] at isOk
          cases isOk
      | ok message =>
          simp only [AppendSession.next, sent]
          refine
            { sound with
              joined := ⟨_, _, joined.send message append.requestId time⟩
              copies := ?_
              rounds := Nat.succ_le_succ few
              more := nofun }
          intro other same
          have copies := sound.copies other same
          rw [sent] at same
          cases same
          change ((session.client.history.submitted ++
            [(message, append.requestId)]).map Prod.fst).count message ≤ _
          rw [List.map_append, List.count_append]
          simp only [List.map_cons, List.map_nil, List.count_singleton_self]
          omega
  | expire time => exact { sound with more := fun _ => le_of_afterFailure }
  | send data requestId time =>
      refine
        { sound with
          joined := ⟨_, _, joined.send data requestId time⟩
          copies := ?_ }
      intro message same
      have different : data ≠ message := by
        rintro rfl
        refine enabled ?_
        rw [same]
        rfl
      change ((session.client.history.submitted ++
        [(data, requestId)]).map Prod.fst).count message ≤ _
      rw [List.map_append, List.count_append]
      simp only [List.map_cons, List.map_nil,
        List.count_singleton, beq_eq_false_iff_ne.mpr different,
        Bool.false_eq_true, if_false, Nat.add_zero]
      exact sound.copies message same
  | receive datagram time =>
      exact
        { sound with
          joined := joined.receive enabled time
          copies := unsent
          more := fun _ => le_of_phaseAfter sound.more }
  | tick time =>
      exact
        { sound with
          joined := ⟨_, _, joined.tick time⟩
          copies := unsent }
  | serverReceive datagram time clock =>
      obtain ⟨inFlight, chronological⟩ := enabled
      obtain ⟨inward', outward', received⟩ := joined.symm.receive inFlight time
      let result := session.server.endpoint.handleDatagram datagram time
      have serves := @serves_foldl _ host guard
        (arrivals append result.delivered clock)
        { session with server := session.server.after [] result }
      have own : ofClient append
          ((arrivals append result.delivered clock).map Prod.fst) =
            (arrivals append result.delivered clock).map Prod.fst := by
        refine List.filter_eq_self.mpr fun call member => ?_
        exact decide_eq_true (clientId_of_mem_arrivals member)
      exact
        { joined := serves.joined ⟨_, _, received.symm⟩
          agent := by
            rw [AppendSession.next, serves.agent, serves.calls,
              AgentServer.run_append, ← sound.agent]
          delivered := by
            rw [AppendSession.next, serves.calls, serves.delivered, ofClient,
              List.filter_append, List.map_append]
            change (ofClient append session.calls).map Call.data ++
              (ofClient append _).map Call.data = _
            rw [own, data_arrivals, sound.delivered]
            rfl
          chronological := by
            rw [AppendSession.next, serves.calls]
            exact chronological
          copies := by
            rw [AppendSession.next, serves.client, serves.rounds]
            exact sound.copies
          rounds := by
            rw [AppendSession.next, serves.rounds]
            exact sound.rounds
          more := by
            rw [AppendSession.next, serves.phase, serves.rounds]
            exact sound.more }
  | serverTick time =>
      exact
        { sound with
          joined := ⟨_, _, (joined.symm.tick time).symm⟩
          delivered := sound.delivered.trans (List.append_nil _).symm }
  | otherRequest call =>
      obtain ⟨other, chronological⟩ := enabled
      refine
        { sound with
          agent := ?_
          delivered := ?_
          chronological := chronological }
      · simp only [AppendSession.next, AgentServer.run_append_singleton,
          sound.agent]
      · simp only [AppendSession.next, ofClient, List.filter_append]
        rw [List.filter_singleton, decide_eq_false other]
        simpa [ofClient] using sound.delivered

/-- Run lemma: the invariant holds of every reachable state. -/
theorem sound_of_reachable
    (reachable : (machine host guard append world).Reachable session) :
    Sound host guard append world session := by
  refine Machine.Reachable.invariant
    (Sound host guard append world) sound_start ?_ reachable
  intro session action _ sound enabled
  exact sound.next enabled

end AppendSession

end RudpAgentStack

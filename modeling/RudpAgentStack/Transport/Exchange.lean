import RudpAgentStack.Foundation.MessageService
import RudpAgentStack.Transport.SessionSafety

/-!
# Services over RUDP

A client and the server's connection for its address, with a message handler
that answers each message at once or not at all, while the network loses,
repeats, delays and reorders datagrams.  Seen from outside there are two
queues: every step of the transports is a step of the queues, or of none.
-/

namespace RudpAgentStack

open Foundation

/-- A client, the server's connection for its address, and the state of the
message handler. -/
structure RudpExchange (State : Type) where
  client : Party := .new
  server : Party := .new
  state : State

namespace RudpExchange

variable {State Reading Other : Type}

/-- What can happen without the client. -/
inductive Event (Reading Other : Type)
  | receive (datagram : Bytes) (time : ℚ)
  | tick (time : ℚ)
  /-- A datagram arrives at the server.  The clock is read for every message
  that is delivered, and when its answer is sent. -/
  | serverReceive (datagram : Bytes) (time : ℚ)
      (clock : Nat → Reading × ℚ)
  | serverTick (time : ℚ)
  | other (step : Other)

/-- A message on its way to the handler. -/
structure Arrival (Reading : Type) where
  data : Bytes
  reading : Reading
  /-- When its answer is sent. -/
  sentAt : ℚ

/-- The messages of a datagram, with the readings of the clock. -/
def arrivals (delivered : List Bytes) (clock : Nat → Reading × ℚ) :
    List (Arrival Reading) :=
  delivered.zipIdx.map fun (data, index) =>
    ⟨data, (clock index).1, (clock index).2⟩

theorem data_arrivals (delivered : List Bytes) (clock : Nat → Reading × ℚ) :
    (arrivals delivered clock).map Arrival.data = delivered := by
  rw [arrivals, List.map_map]
  exact List.zipIdx_map_fst 0 delivered

/-- What the handler does about a message. -/
def Arrival.step (arrival : Arrival Reading) :
    MessageService.Step Bytes Reading Other :=
  .process arrival.data arrival.reading

variable (service : MessageService State Bytes Reading Other)
  (requestId : Bytes → Int)

/-- The message handler: process a message and send the answer, if there is
one, with a request id that depends on the message. -/
def answer
    (exchange : RudpExchange State) (arrival : Arrival Reading) :
    RudpExchange State :=
  let (answer, state) :=
    service.respond exchange.state arrival.data arrival.reading
  match answer with
  | some response =>
      { exchange with
        server := exchange.server.after
          [(response, requestId arrival.data)]
          (exchange.server.endpoint.ofSender
            (exchange.server.endpoint.sender.enqueueData response
              (requestId arrival.data) arrival.sentAt))
        state }
  | none => { exchange with state }

/-- The client sends a message. -/
def send
    (exchange : RudpExchange State) (message : Bytes) (requestId : Int)
    (time : ℚ) : RudpExchange State :=
  { exchange with
    client := exchange.client.after [(message, requestId)]
      (RUDPClientTransport.send exchange.client.endpoint message requestId
        time) }

/-- One step without the client. -/
def next (exchange : RudpExchange State) :
    Event Reading Other → RudpExchange State
  | .receive datagram time =>
      { exchange with
        client := exchange.client.after []
          (RUDPClientTransport.receiveDatagram exchange.client.endpoint
            datagram time) }
  | .tick time =>
      { exchange with
        client := exchange.client.after []
          (RUDPClientTransport.tick exchange.client.endpoint time) }
  | .serverReceive datagram time clock =>
      let result := exchange.server.endpoint.handleDatagram datagram time
      (arrivals result.delivered clock).foldl (answer service requestId)
        { exchange with server := exchange.server.after [] result }
  | .serverTick time =>
      { exchange with
        server := exchange.server.after []
          (exchange.server.endpoint.ofSender
            (exchange.server.endpoint.sender.checkTimeouts time)) }
  | .other step =>
      { exchange with state := service.other exchange.state step }

/-- The messages an event passes to the client's message handler. -/
def received (exchange : RudpExchange State) :
    Event Reading Other → List Bytes
  | .receive datagram time =>
      (RUDPClientTransport.receiveDatagram exchange.client.endpoint datagram
        time).delivered
  | _ => []

variable (Admits : State → MessageService.Step Bytes Reading Other → Prop)

/-- The network forges nothing, and what the handler does is admitted. -/
def Enabled (exchange : RudpExchange State) : Event Reading Other → Prop
  | .receive datagram _ => InFlight exchange.server.history.packets datagram
  | .serverReceive datagram time clock =>
      InFlight exchange.client.history.packets datagram ∧
        service.AdmitsAll Admits exchange.state
          ((arrivals (exchange.server.endpoint.handleDatagram datagram
            time).delivered clock).map Arrival.step)
  | .other step => Admits exchange.state (.other step)
  | _ => True

instance [∀ state step, Decidable (Admits state step)] :
    ∀ (exchange : RudpExchange State) (event : Event Reading Other),
      Decidable (Enabled service Admits exchange event)
  | exchange, .receive datagram _ =>
      inferInstanceAs
        (Decidable (InFlight exchange.server.history.packets datagram))
  | exchange, .serverReceive datagram time clock =>
      inferInstanceAs (Decidable (
        InFlight exchange.client.history.packets datagram ∧
          service.AdmitsAll Admits exchange.state
            ((arrivals (exchange.server.endpoint.handleDatagram datagram
              time).delivered clock).map Arrival.step)))
  | exchange, .other step =>
      inferInstanceAs (Decidable (Admits exchange.state (.other step)))
  | _, .tick _ => .isTrue trivial
  | _, .serverTick _ => .isTrue trivial

/-- The two ends are those of two links. -/
def Linked (exchange : RudpExchange State) : Prop :=
  ∃ outward inward, Joined exchange.client exchange.server outward inward

/-- The exchange from outside. -/
def queues (exchange : RudpExchange State) :
    MessageService.Queues State Bytes where
  state := exchange.state
  requests := MessageService.pending
    (exchange.client.history.submitted.map Prod.fst)
    exchange.server.history.delivered
  answers := MessageService.pending
    (exchange.server.history.submitted.map Prod.fst)
    exchange.client.history.delivered

variable {service requestId Admits} {exchange : RudpExchange State}

/-! ## The queues and the links -/

theorem linked_new (state : State) :
    Linked ({ state } : RudpExchange State) :=
  ⟨_, _, .start⟩

namespace Linked

/-- The server's handler is given the beginning of what the client has
sent. -/
theorem requests_prefix (linked : exchange.Linked) :
    exchange.server.history.delivered <+:
      exchange.client.history.submitted.map Prod.fst := by
  obtain ⟨outward, inward, joined⟩ := linked
  have beginning :=
    (Link.agrees_of_reachable joined.outward).delivered_prefix_messages
  rwa [joined.far.delivered, joined.near.submitted] at beginning

/-- The client's handler is given the beginning of what the server has
sent. -/
theorem answers_prefix (linked : exchange.Linked) :
    exchange.client.history.delivered <+:
      exchange.server.history.submitted.map Prod.fst := by
  obtain ⟨outward, inward, joined⟩ := linked
  have beginning :=
    (Link.agrees_of_reachable joined.inward).delivered_prefix_messages
  rwa [joined.near.delivered, joined.far.submitted] at beginning

theorem send
    (linked : exchange.Linked) (message : Bytes) (requestId : Int)
    (time : ℚ) : (exchange.send message requestId time).Linked := by
  obtain ⟨outward, inward, joined⟩ := linked
  exact ⟨_, _, joined.send message requestId time⟩

/-- What the client sends joins the requests. -/
theorem queues_send
    (linked : exchange.Linked) (message : Bytes) (requestId : Int)
    (time : ℚ) :
    (exchange.send message requestId time).queues =
      exchange.queues.send message := by
  have joins := MessageService.pending_append linked.requests_prefix [message]
  have nothing : exchange.client.history.delivered ++ [] =
      exchange.client.history.delivered := List.append_nil _
  unfold queues RudpExchange.send MessageService.Queues.send
  simp only [Party.after, History.record, RUDPClientTransport.send,
    Endpoint.ofSender, List.map_append, List.map_cons, List.map_nil, joins,
    nothing]

/-- The handler keeps the two ends linked. -/
theorem answer (linked : exchange.Linked) (arrival : Arrival Reading) :
    (answer service requestId exchange arrival).Linked := by
  obtain ⟨outward, inward, joined⟩ := linked
  unfold RudpExchange.answer
  dsimp only
  split
  · exact ⟨_, _, (joined.symm.send _ _ _).symm⟩
  · exact ⟨_, _, joined⟩

/-- What the handler sends joins the answers. -/
theorem queues_answer
    (linked : exchange.Linked) (arrival : Arrival Reading) :
    (RudpExchange.answer service requestId exchange arrival).queues =
      exchange.queues.served service arrival.data arrival.reading
        exchange.queues.requests := by
  unfold RudpExchange.answer MessageService.Queues.served
  dsimp only
  split
  · next response responds =>
      have joins :=
        MessageService.pending_append linked.answers_prefix [response]
      have state : exchange.queues.state = exchange.state := rfl
      rw [state, responds]
      simp only [queues, Party.after, History.record, Endpoint.ofSender,
        List.map_append, List.map_cons, List.map_nil, joins, List.append_nil,
        Option.toList_some]
  · next silent =>
      have state : exchange.queues.state = exchange.state := rfl
      rw [state, silent]
      simp only [queues, Option.toList_none, List.append_nil]

end Linked

/-! ## Steps -/

/-- Messages that reach the client are taken from the answers. -/
theorem queues_client (result : EndpointResult) :
    ({ exchange with client := exchange.client.after [] result } :
        RudpExchange State).queues =
      { exchange.queues with
        answers := MessageService.pending
          (exchange.server.history.submitted.map Prod.fst)
          (exchange.client.history.delivered ++ result.delivered) } := by
  simp only [queues, Party.after, History.record, List.append_nil]

/-- Messages that reach the server are taken from the requests. -/
theorem queues_server (result : EndpointResult) :
    ({ exchange with server := exchange.server.after [] result } :
        RudpExchange State).queues =
      { exchange.queues with
        requests := MessageService.pending
          (exchange.client.history.submitted.map Prod.fst)
          (exchange.server.history.delivered ++ result.delivered) } := by
  simp only [queues, Party.after, History.record, List.append_nil]

variable {queues : MessageService.Queues State Bytes} {arrived : List Bytes}

/-- The messages of a datagram are processed one after the other. -/
theorem flows_foldl
    (arrivals : List (Arrival Reading)) (linked : exchange.Linked)
    (flows : service.Flows Admits queues arrived
      { exchange.queues with
        requests := arrivals.map Arrival.data ++ exchange.queues.requests })
    (admitted : service.AdmitsAll Admits exchange.state
      (arrivals.map Arrival.step)) :
    (arrivals.foldl (answer service requestId) exchange).Linked ∧
      service.Flows Admits queues arrived
        (arrivals.foldl (answer service requestId) exchange).queues := by
  induction arrivals generalizing exchange with
  | nil => exact ⟨linked, flows⟩
  | cons arrival arrivals inductionHypothesis =>
      obtain ⟨first, others⟩ := admitted
      have answered := flows.serve arrival.reading rfl first
      have view : (answer service requestId exchange arrival).queues = _ :=
        linked.queues_answer arrival
      apply inductionHypothesis (linked.answer arrival)
      · rw [view]
        exact answered
      · have reached : (answer service requestId exchange arrival).state =
            service.after exchange.state arrival.step :=
          congrArg MessageService.Queues.state view
        rw [reached]
        exact others

variable (requestId) in
/-- Step lemma: a step keeps the two ends linked, and is one of the queues. -/
theorem Linked.next
    (linked : exchange.Linked) {event : Event Reading Other}
    (enabled : Enabled service Admits exchange event) :
    (next service requestId exchange event).Linked ∧
      service.Flows Admits exchange.queues (received exchange event)
        (next service requestId exchange event).queues := by
  have still : service.Flows Admits exchange.queues [] exchange.queues :=
    .stay _
  obtain ⟨outward, inward, joined⟩ := id linked
  cases event with
  | receive datagram time =>
      obtain ⟨outward', inward', received'⟩ := joined.receive enabled time
      have linked' : (RudpExchange.next service requestId exchange
          (.receive datagram time)).Linked := ⟨_, _, received'⟩
      have arrive := linked'.answers_prefix
      rw [RudpExchange.next, Party.after, History.record] at arrive
      simp only at arrive
      refine ⟨linked', ?_⟩
      rw [RudpExchange.next, queues_client]
      exact still.deliverAll _ (MessageService.pending_of_received arrive)
  | tick time =>
      refine ⟨⟨_, _, joined.tick time⟩, ?_⟩
      rw [RudpExchange.next, queues_client, RUDPClientTransport.tick,
        Endpoint.ofSender, List.append_nil]
      exact still
  | serverReceive datagram time clock =>
      obtain ⟨inFlight, admitted⟩ := enabled
      obtain ⟨inward', outward', received'⟩ :=
        joined.symm.receive inFlight time
      have linked' : ({ exchange with
          server := exchange.server.after []
            (exchange.server.endpoint.handleDatagram datagram time) } :
            RudpExchange State).Linked := ⟨_, _, received'.symm⟩
      have arrive := linked'.requests_prefix
      rw [Party.after, History.record] at arrive
      simp only at arrive
      have waiting := MessageService.pending_of_received arrive
      refine flows_foldl _ linked' ?_ admitted
      rw [data_arrivals, queues_server]
      dsimp only
      rw [← waiting]
      exact still
  | serverTick time =>
      refine ⟨⟨_, _, (joined.symm.tick time).symm⟩, ?_⟩
      rw [RudpExchange.next, queues_server, Endpoint.ofSender,
        List.append_nil]
      exact still
  | other step =>
      exact ⟨⟨_, _, joined⟩, still.other step enabled⟩

/-! ## Runs -/

variable (service requestId Admits) in
/-- What happens while the client waits, with the messages its handler
receives.  Events that are not enabled do not take place. -/
def occur [∀ state step, Decidable (Admits state step)]
    (exchange : RudpExchange State) :
    List (Event Reading Other) → RudpExchange State × List Bytes
  | [] => (exchange, [])
  | event :: events =>
      if Enabled service Admits exchange event then
        let (later, more) :=
          occur (next service requestId exchange event) events
        (later, received exchange event ++ more)
      else occur exchange events

/-- Run lemma: events keep the two ends linked, and are those of the queues. -/
theorem Linked.occur [∀ state step, Decidable (Admits state step)]
    (linked : exchange.Linked) (events : List (Event Reading Other)) :
    (occur service requestId Admits exchange events).1.Linked ∧
      service.Flows Admits exchange.queues
        (RudpExchange.occur service requestId Admits exchange events).2
        (RudpExchange.occur service requestId Admits exchange
          events).1.queues := by
  induction events generalizing exchange with
  | nil => exact ⟨linked, .stay _⟩
  | cons event events inductionHypothesis =>
      unfold RudpExchange.occur
      split
      · next enabled =>
          obtain ⟨linked', flows⟩ := linked.next requestId enabled
          obtain ⟨later, more⟩ := inductionHypothesis linked'
          exact ⟨later, flows.trans more⟩
      · exact inductionHypothesis linked

/-- What can happen. -/
inductive Action (Reading Other : Type)
  | send (message : Bytes) (requestId : Int) (time : ℚ)
  | event (event : Event Reading Other)

variable (service requestId Admits) in
/-- Runs of a new client at a new connection, whatever the network does. -/
def machine (state : State) :
    Machine (RudpExchange State) (Action Reading Other) where
  start := { state }
  Enabled := fun exchange action =>
    match action with
    | .send _ _ _ => True
    | .event event => Enabled service Admits exchange event
  next := fun exchange action =>
    match action with
    | .send message requestId time => exchange.send message requestId time
    | .event event => next service requestId exchange event

instance [∀ state step, Decidable (Admits state step)] (state : State) :
    ∀ (exchange : RudpExchange State) (action : Action Reading Other),
      Decidable ((machine service requestId Admits state).Enabled exchange
        action)
  | _, .send _ _ _ => .isTrue trivial
  | exchange, .event event =>
      inferInstanceAs (Decidable (Enabled service Admits exchange event))

/-- The state of the handler, what it has processed and what it has answered
are those of these steps. -/
structure Explains
    (service : MessageService State Bytes Reading Other)
    (Admits : State → MessageService.Step Bytes Reading Other → Prop)
    (start : State) (exchange : RudpExchange State)
    (steps : List (MessageService.Step Bytes Reading Other)) : Prop where
  admitted : service.AdmitsAll Admits start steps
  state : exchange.state = service.run start steps
  processed : MessageService.processed steps =
    exchange.server.history.delivered
  answers : service.answers start steps =
    exchange.server.history.submitted.map Prod.fst

/-- The handler leaves the client alone. -/
theorem client_foldl (arrivals : List (Arrival Reading)) :
    (arrivals.foldl (answer service requestId) exchange).client =
      exchange.client := by
  induction arrivals generalizing exchange with
  | nil => rfl
  | cons arrival arrivals inductionHypothesis =>
      rw [List.foldl_cons, inductionHypothesis, answer]
      dsimp only
      split <;> rfl

variable (service requestId exchange) in
/-- The client sends nothing by itself, and its handler is given what it
receives. -/
theorem client_next (event : Event Reading Other) :
    (next service requestId exchange event).client.history.submitted =
        exchange.client.history.submitted ∧
      (next service requestId exchange event).client.history.delivered =
        exchange.client.history.delivered ++ received exchange event := by
  cases event with
  | receive datagram time => exact ⟨List.append_nil _, rfl⟩
  | tick time => exact ⟨List.append_nil _, rfl⟩
  | serverReceive datagram time clock =>
      rw [next, client_foldl]
      exact ⟨rfl, (List.append_nil _).symm⟩
  | serverTick time => exact ⟨rfl, (List.append_nil _).symm⟩
  | other step => exact ⟨rfl, (List.append_nil _).symm⟩

/-- Step lemma: some more steps explain what a step of the exchange does. -/
theorem Explains.next
    {start : State} {steps : List (MessageService.Step Bytes Reading Other)}
    (explains : Explains service Admits start exchange steps)
    (linked : exchange.Linked) {event : Event Reading Other}
    (enabled : Enabled service Admits exchange event) :
    ∃ more, Explains service Admits start
      (next service requestId exchange event) (steps ++ more) := by
  obtain ⟨linked', flows⟩ := linked.next requestId enabled
  obtain ⟨more, admitted, state, requests, answers⟩ := flows.conserves
  obtain ⟨submitted, delivered⟩ :=
    client_next service requestId exchange event
  have sent := MessageService.append_pending linked.requests_prefix
  have sent' := MessageService.append_pending linked'.requests_prefix
  have answered := MessageService.append_pending linked.answers_prefix
  have answered' := MessageService.append_pending linked'.answers_prefix
  have reached : exchange.queues.state = service.run start steps :=
    explains.state
  rw [reached] at admitted state answers
  refine ⟨more, explains.admitted.append admitted, ?_, ?_, ?_⟩
  · rw [MessageService.run_append]
    exact state
  · rw [MessageService.processed_append, explains.processed]
    apply List.append_cancel_right
    calc
      exchange.server.history.delivered ++ MessageService.processed more ++
          (RudpExchange.next service requestId exchange event).queues.requests
        = exchange.server.history.delivered ++ exchange.queues.requests := by
          rw [requests, List.append_assoc]
      _ = _ := sent
      _ = _ := by rw [← submitted]
      _ = _ := sent'.symm
  · rw [MessageService.answers_append, explains.answers]
    calc
      exchange.server.history.submitted.map Prod.fst ++
          service.answers (service.run start steps) more
        = exchange.client.history.delivered ++ (exchange.queues.answers ++
            service.answers (service.run start steps) more) := by
          rw [← answered, List.append_assoc]
          rfl
      _ = exchange.client.history.delivered ++ received exchange event ++
            (RudpExchange.next service requestId exchange
              event).queues.answers := by
          rw [answers, List.append_assoc]
      _ = _ := by
          rw [← delivered]
          exact answered'

/-- Run lemma: the two ends stay linked, and there are steps of the service
that explain what it has processed and answered. -/
theorem explained_of_reachable
    {start : State}
    (reachable :
      (machine service requestId Admits start).Reachable exchange) :
    exchange.Linked ∧
      ∃ steps, Explains service Admits start exchange steps := by
  refine Machine.Reachable.invariant
    (fun exchange => exchange.Linked ∧
      ∃ steps, Explains service Admits start exchange steps) ?_ ?_ reachable
  · exact ⟨linked_new start, [], trivial, rfl, rfl, rfl⟩
  · rintro exchange action _ ⟨linked, steps, explains⟩ enabled
    cases action with
    | send message messageId time =>
        exact ⟨linked.send message messageId time, steps,
          explains.admitted, explains.state, explains.processed,
          explains.answers⟩
    | event event =>
        obtain ⟨more, explained⟩ := explains.next linked enabled
        exact ⟨(linked.next requestId enabled).1, steps ++ more, explained⟩

/-- Whatever the network does, the server processes the messages of the client
in the order they were sent in, each once and from the first one on, in turn
with what else it does; and the client receives the answers in this order, each
once and from the first one on. -/
theorem served_in_order
    {start : State}
    (reachable :
      (machine service requestId Admits start).Reachable exchange) :
    ∃ steps, service.AdmitsAll Admits start steps ∧
      exchange.state = service.run start steps ∧
      MessageService.processed steps <+:
        exchange.client.history.submitted.map Prod.fst ∧
      exchange.client.history.delivered <+: service.answers start steps := by
  obtain ⟨linked, steps, explains⟩ := explained_of_reachable reachable
  refine ⟨steps, explains.admitted, explains.state, ?_, ?_⟩
  · rw [explains.processed]
    exact linked.requests_prefix
  · rw [explains.answers]
    exact linked.answers_prefix

/-- The datagram of a message that fits into one packet. -/
def dataDatagram (message : Bytes) (requestId seqNum : Int) : Bytes :=
  ((RUDPSender.messagePackets requestId seqNum 0 [message]).head?.bind
    fun packet => packet.pack.toOption).getD []

/-- The datagram of an acknowledgement. -/
def ackDatagram (ackNum : Int) : Bytes :=
  let packet : RUDPPacket :=
    { seqNum := 0
      ackNum
      flags := flagAck
      rwnd := maxRwnd
      msgId := none
      offset := none
      payload := [] }
  packet.pack.toOption.getD []

/-- A service that counts the messages it has processed, and answers each with
the number of those before it. -/
def counting : MessageService Nat Bytes Unit Unit where
  respond := fun count _ _ => (some [UInt8.ofNat count], count + 1)
  other := fun count _ => count

/-- Its exchanges. -/
def countingExchange :
    Machine (RudpExchange Nat) (Action Unit Unit) :=
  machine counting (fun _ => 7) (fun _ _ => True) 0

/-- A message whose datagram arrives twice, and its answer. -/
def repeatedDatagram : List (Action Unit Unit) :=
  [.send [1] 7 0,
    .event (.serverReceive (dataDatagram [1] 7 0) 0 fun _ => ((), 0)),
    .event (.serverReceive (dataDatagram [1] 7 0) 1 fun _ => ((), 1)),
    .event (.receive (dataDatagram [0] 7 0) 1)]

/-- The exchange after them. -/
def afterRepeatedDatagram : RudpExchange Nat :=
  countingExchange.exec countingExchange.start repeatedDatagram

/-- The message is processed once. -/
theorem served_in_order_repeatedDatagram :
    afterRepeatedDatagram.client.history.delivered = [[0]] ∧
      ∃ steps, afterRepeatedDatagram.state = counting.run 0 steps ∧
        MessageService.processed steps <+: [[1]] := by
  have admitted : (machine counting (fun _ => 7) (fun _ _ => True)
      0).Admits countingExchange.start repeatedDatagram := by
    decide +kernel
  have reachable : (machine counting (fun _ => 7) (fun _ _ => True)
      0).Reachable afterRepeatedDatagram := .exec .start admitted
  have submitted :
      afterRepeatedDatagram.client.history.submitted.map Prod.fst = [[1]] := by
    decide +kernel
  obtain ⟨steps, _, state, processed, _⟩ := served_in_order reachable
  rw [submitted] at processed
  exact ⟨by decide +kernel, steps, state, processed⟩

end RudpExchange

end RudpAgentStack

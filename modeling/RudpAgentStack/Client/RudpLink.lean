import RudpAgentStack.Client.RequestLink
import RudpAgentStack.Transport.Exchange

/-!
# The RUDP transports as a link with delays

The agent server behind its connection for the address of one client, and the
client at the other end.  While the client sends or waits, anything may happen
that the network, the timers, the server and other clients can bring about.
Seen from the client this is a link with delays, so what holds of requests over
such links holds of requests over RUDP.
-/

namespace RudpAgentStack

open Foundation

/-! ## The server as a service -/

/-- An agent server and the calls it has processed. -/
abbrev AgentHistory (World : Type) := AgentState World × List Call

namespace AgentServer

variable {World : Type} (host : Host World) (guard : PolicyGuard)
  (clientId : Text)

/-- The agent server as a service for one client. -/
def messageService :
    MessageService (AgentHistory World) Bytes Readings Call where
  respond := fun (agent, calls) data now =>
    let call : Call := ⟨clientId, data, now⟩
    let (response, agent) := serve host guard agent call
    (if response = [] then none else some response, (agent, calls ++ [call]))
  other := fun (agent, calls) call =>
    ((serve host guard agent call).2, calls ++ [call])

/-- The id that `_on_udp_message` sends a response with. -/
def responseId (data : Bytes) : Int :=
  ((frame? data).map AppHeader.requestId).getD 0

variable (Admits : AgentState World → Call → Prop)

/-- What the server may do: repeated requests come in time, and calls are
admitted. -/
def AdmitsStep :
    AgentHistory World → MessageService.Step Bytes Readings Call → Prop
  | (agent, calls), .process message now =>
      RequestLink.InTime calls ⟨clientId, message, now⟩ ∧
        Admits agent ⟨clientId, message, now⟩
  | (agent, calls), .other call =>
      call.clientId ≠ clientId ∧ Chronological (calls ++ [call]) ∧
        Admits agent call

instance [∀ state call, Decidable (Admits state call)] :
    ∀ (history : AgentHistory World)
      (step : MessageService.Step Bytes Readings Call),
      Decidable (AdmitsStep clientId Admits history step)
  | (agent, calls), .process message now =>
      inferInstanceAs (Decidable (
        RequestLink.InTime calls ⟨clientId, message, now⟩ ∧
          Admits agent ⟨clientId, message, now⟩))
  | (agent, calls), .other call =>
      inferInstanceAs (Decidable (
        call.clientId ≠ clientId ∧ Chronological (calls ++ [call]) ∧
          Admits agent call))

end AgentServer

namespace RequestLink

variable {World : Type} {host : Host World} {guard : PolicyGuard}
  {clientId : Text} {Admits : AgentState World → Call → Prop}

instance (state : AgentState World) (call : Call) :
    Decidable (AnswersClient host guard clientId state call) :=
  inferInstanceAs (Decidable (_ → _ ≠ _))

/-- The queues of the service as a link. -/
def ofQueues (queues : MessageService.Queues (AgentHistory World) Bytes) :
    RequestLink World where
  agent := queues.state.1
  calls := queues.state.2
  requests := queues.requests
  responses := queues.answers

/-- What the queues do is what a link does. -/
theorem moves_of_flows
    {queues later : MessageService.Queues (AgentHistory World) Bytes}
    {received : List Bytes}
    (flows : (AgentServer.messageService host guard clientId).Flows
      (AgentServer.AdmitsStep clientId Admits) queues received later) :
    Moves host guard clientId Admits (ofQueues queues) received
      (ofQueues later) := by
  induction flows with
  | stay => exact .stay _
  | @serve between received rest message now _ oldest admitted
      inductionHypothesis =>
      have served := inductionHypothesis.serve now oldest admitted.1 admitted.2
      have same : (ofQueues between).answered host guard
          ⟨clientId, message, now⟩ rest =
            ofQueues (between.served
              (AgentServer.messageService host guard clientId) message now
              rest) := by
        unfold answered process ofQueues MessageService.Queues.served
        simp only [AgentServer.messageService, List.filter_singleton]
        by_cases silent : (AgentServer.serve host guard between.state.1
            ⟨clientId, message, now⟩).1 = []
        · simp [silent]
        · simp [silent]
      rwa [same] at served
  | other call _ admitted inductionHypothesis =>
      obtain ⟨foreign, chronological, allowed⟩ := admitted
      exact inductionHypothesis.other call foreign chronological allowed
  | deliver _ oldest inductionHypothesis =>
      exact inductionHypothesis.deliver oldest

end RequestLink

/-! ## The client -/

/-- The two transports and the server, as the client's transport reaches
them. -/
structure RudpClient (World : Type) where
  exchange : RudpExchange (AgentHistory World)
  linked : exchange.Linked
  /-- How often the client has sent or waited. -/
  moment : Nat := 0

/-- What happens while the client sends or waits once. -/
structure Period where
  events : List (RudpExchange.Event Readings Call)
  /-- When the client's message is sent. -/
  sentAt : ℚ

namespace RudpClient

variable {World : Type}

/-- New transports at a server. -/
def new (agent : AgentState World) : RudpClient World where
  exchange := { state := (agent, []) }
  linked := RudpExchange.linked_new _

/-- The link that the client sees. -/
def link (client : RudpClient World) : RequestLink World :=
  .ofQueues client.exchange.queues

variable (host : Host World) (guard : PolicyGuard) (clientId : Text)
  (Admits : AgentState World → Call → Prop)
  [∀ state call, Decidable (Admits state call)]

/-- What happens during a period, with the messages the client's handler
receives. -/
def during (client : RudpClient World) (period : Period) :
    RudpExchange (AgentHistory World) × List Bytes :=
  RudpExchange.occur (AgentServer.messageService host guard clientId)
    AgentServer.responseId (AgentServer.AdmitsStep clientId Admits)
    client.exchange period.events

theorem linked_during (client : RudpClient World) (period : Period) :
    (client.during host guard clientId Admits period).1.Linked :=
  (client.linked.occur period.events).1

theorem moves_during (client : RudpClient World) (period : Period) :
    RequestLink.Moves host guard clientId Admits client.link
      (client.during host guard clientId Admits period).2
      (.ofQueues (client.during host guard clientId Admits
        period).1.queues) :=
  RequestLink.moves_of_flows (client.linked.occur period.events).2

/-- `RUDPClientTransport` as the client uses it, with what happens from one
moment to the next. -/
def transport (schedule : Nat → Period) :
    ClientTransport (RudpClient World) where
  isAsync := true
  send := fun message requestId => ExceptT.mk fun client =>
    let period := schedule client.moment
    let between := (client.during host guard clientId Admits period).1
    (.ok (),
      { exchange := between.send message requestId period.sentAt
        linked := (client.linked_during host guard clientId Admits
          period).send message requestId period.sentAt
        moment := client.moment + 1 })
  delivered := ExceptT.mk fun client =>
    let period := schedule client.moment
    let later := client.during host guard clientId Admits period
    (.ok later.2,
      { exchange := later.1
        linked := client.linked_during host guard clientId Admits period
        moment := client.moment + 1 })
  -- the operations of a synchronous transport are not there
  sendBytes := fun _ => throw ⟨.attributeError, "send_bytes"⟩
  receiveExact := fun _ => throw ⟨.attributeError, "receive_exact"⟩
  close := return

variable {host guard clientId Admits}

/-- Whatever happens, it is a link with delays. -/
def delayed (schedule : Nat → Period) :
    DelayedLink host guard clientId Admits
      (transport host guard clientId Admits schedule) where
  view := link
  isAsync := rfl
  send := by
    intro message requestId client
    refine ⟨_, _, _, client.moves_during host guard clientId Admits
      (schedule client.moment), rfl, ?_⟩
    exact congrArg RequestLink.ofQueues
      ((client.linked_during host guard clientId Admits
        (schedule client.moment)).queues_send message requestId _)
  delivered := by
    intro client
    exact ⟨_, _, rfl, client.moves_during host guard clientId Admits
      (schedule client.moment)⟩

end RudpClient

end RudpAgentStack

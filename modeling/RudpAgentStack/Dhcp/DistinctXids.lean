import RudpAgentStack.Dhcp.Exclusion

/-!
# Handshakes with distinct xids

A client that draws an xid no packet has carried before is the only one to send
and to be sent packets with it.  What the server promises under this xid is
then kept until the call ends, as long as no lease of an active client is found
to be expired.  So no two clients are bound to one address, whichever replies
they receive.
-/

namespace RudpAgentStack

open Foundation

/-! ## What clients do -/

namespace DhcpClient

variable {client : DhcpClient} {packet : DhcpPacket}

/-- The client is bound, or a call of it is running. -/
def Active (client : DhcpClient) : Prop :=
  client.call ≠ none ∨ client.state = .bound

instance : Decidable client.Active :=
  inferInstanceAs (Decidable (_ ∨ _))

/-- What happens when the time of an attempt runs out. -/
inductive TimesOut (client : DhcpClient) :
    Option DhcpPacket × DhcpClient → Prop
  | idle (noCall : client.call = none) : TimesOut client (none, client)
  | again {call : DhcpCall} (running : client.call = some call) :
      TimesOut client (some (client.stagePacket call.xid call.stage),
        { client with call := some { call with attempt := call.attempt + 1 } })
  | gaveUp : TimesOut client (none, { client with call := none })

theorem timesOut (client : DhcpClient) : client.TimesOut client.timeOut := by
  unfold timeOut
  split
  · next noCall => exact .idle noCall
  · next call running =>
      split
      · exact .again running
      · exact .gaveUp

/-- What happens when a packet is received. -/
inductive Receives (client : DhcpClient) (packet : DhcpPacket) :
    Option DhcpPacket × DhcpClient → Prop
  | ignored : Receives client packet (none, client)
  | offered {xid : Int} {attempt : Nat}
      (running : client.call = some ⟨xid, .selecting, attempt⟩)
      (sameXid : packet.xid = xid) (isOffer : packet.messageType = .offer) :
      Receives client packet
        (some (client.stagePacket xid (.requesting packet.offeredIp)),
          { client with
            leaseTime := packet.leaseTime
            state := .requesting
            call := some ⟨xid, .requesting packet.offeredIp, 1⟩ })
  | bound (accepted : client.accepts packet = true) :
      Receives client packet
        (none,
          { client with
            assignedIp := some packet.offeredIp
            leaseTime := packet.leaseTime
            state := .bound
            call := none })
  | refused : Receives client packet (none, { client with call := none })

theorem receives (client : DhcpClient) (packet : DhcpPacket) :
    client.Receives packet (client.receive packet) := by
  cases accepted : client.accepts packet with
  | true =>
      rw [receive_of_accepts accepted]
      exact .bound accepted
  | false =>
      cases running : client.call with
      | none =>
          rw [receive, running]
          exact .ignored
      | some call =>
          obtain ⟨xid, stage, attempt⟩ := call
          cases stage with
          | selecting =>
              simp only [receive, running, receiveSelecting]
              split
              · next offered => exact .offered running offered.1 offered.2.1
              · exact .ignored
          | requesting offeredIp =>
              simp only [receive, running, receiveRequesting]
              split
              · next sameXid =>
                  split
                  · next isAck =>
                      split
                      · next sameIp =>
                          have accepts : client.accepts packet = true :=
                            accepts_eq_true_iff.mpr ⟨isAck, _, running,
                              sameXid, by rw [sameIp]⟩
                          rw [accepts] at accepted
                          cases accepted
                      · exact .ignored
                  · exact .refused
                  · exact .ignored
              · exact .ignored

@[simp] theorem xid_stagePacket (xid : Int) (stage : DhcpStage) :
    (client.stagePacket xid stage).xid = xid := by
  cases stage <;> rfl

@[simp] theorem clientMac_stagePacket (xid : Int) (stage : DhcpStage) :
    (client.stagePacket xid stage).clientMac = client.macAddress := by
  cases stage <;> rfl

theorem stagePacket_eq (client : DhcpClient) (xid : Int) (stage : DhcpStage) :
    client.stagePacket xid stage =
      stagePacket { macAddress := client.macAddress } xid stage := by
  cases stage <;> rfl

/-- Only a client that has been offered an address asks for one. -/
theorem stage_of_stagePacket
    {xid : Int} {stage : DhcpStage}
    (asks : (client.stagePacket xid stage).messageType = .request) :
    stage = .requesting (client.stagePacket xid stage).offeredIp := by
  cases stage with
  | selecting => cases asks
  | requesting offeredIp => rfl

end DhcpClient

/-! ## Promises -/

/-- What the server promises to a client with an address, under an xid, and
whether it may refuse the address nevertheless. -/
structure LeasePromise where
  Holds : IpManager → Text → Int → Text → Prop
  mayRefuse : Prop

namespace DhcpNetwork

/-- The packets of a running call, and what the server has promised in its
replies. -/
structure CallTraced
    (promise : LeasePromise) (network : DhcpNetwork) (mac : Text)
    (call : DhcpCall) : Prop where
  asked : DhcpClient.stagePacket { macAddress := mac } call.xid call.stage ∈
    network.requests
  owned : ∀ packet ∈ network.requests, packet.xid = call.xid →
    packet.clientMac = mac
  requested : ∀ packet ∈ network.requests, packet.xid = call.xid →
    packet.messageType = .request →
      promise.Holds network.manager mac call.xid packet.offeredIp
  replied : ∀ reply ∈ network.replies, reply.packet.xid = call.xid →
    (reply.packet.messageType = .nack → promise.mayRefuse) ∧
      (reply.packet.messageType ≠ .nack →
        promise.Holds network.manager mac call.xid reply.packet.offeredIp)
  offered : ∀ ip, call.stage = .requesting ip →
    promise.Holds network.manager mac call.xid ip

/-- Every running call is traced, and every reply answers a request. -/
structure Traced (promise : LeasePromise) (network : DhcpNetwork) : Prop where
  addressed : ∀ mac, (network.clients mac).macAddress = mac
  answers : ∀ reply ∈ network.replies, ∃ packet ∈ network.requests,
    packet.xid = reply.packet.xid ∧
      packet.clientMac = reply.packet.clientMac
  calls : ∀ mac call, (network.clients mac).call = some call →
    network.CallTraced promise mac call

/-- Handling a packet keeps the promises to running calls, and the reply makes
one. -/
structure Keeps
    (promise : LeasePromise) (network : DhcpNetwork) (packet : DhcpPacket)
    (clock : LeaseClock) : Prop where
  keeps : ∀ mac call ip, (network.clients mac).call = some call →
    promise.Holds network.manager mac call.xid ip →
      promise.Holds (network.serve packet clock).manager mac call.xid ip
  makes : ∀ call sent,
    (network.clients packet.clientMac).call = some call →
    packet.xid = call.xid →
    (packet.messageType = .request →
      promise.Holds network.manager packet.clientMac call.xid
        packet.offeredIp) →
    (DhcpServer.handlePacket network.manager packet clock).1 = some sent →
      (sent.messageType = .nack → promise.mayRefuse) ∧
        (sent.messageType ≠ .nack →
          promise.Holds (network.serve packet clock).manager packet.clientMac
            call.xid sent.offeredIp)

variable {promise : LeasePromise} {network : DhcpNetwork} {mac : Text}
  {call : DhcpCall}

namespace CallTraced

/-- No two clients have calls with one xid. -/
theorem mac_inj
    {other : Text} {otherCall : DhcpCall}
    (traced : network.CallTraced promise mac call)
    (otherTraced : network.CallTraced promise other otherCall)
    (sameXid : call.xid = otherCall.xid) : mac = other := by
  have xid_eq := @DhcpClient.xid_stagePacket { macAddress := mac } call.xid
    call.stage
  rw [← traced.owned _ traced.asked xid_eq]
  exact otherTraced.owned _ traced.asked (xid_eq.trans sameXid)

/-- The call goes on, perhaps in the next stage. -/
theorem goesOn
    {later : DhcpCall} (traced : network.CallTraced promise mac call)
    (sameXid : later.xid = call.xid)
    (asked : DhcpClient.stagePacket { macAddress := mac } later.xid
      later.stage ∈ network.requests)
    (offered : ∀ ip, later.stage = .requesting ip →
      promise.Holds network.manager mac later.xid ip) :
    network.CallTraced promise mac later where
  asked := asked
  owned := by
    rw [sameXid]
    exact traced.owned
  requested := by
    rw [sameXid]
    exact traced.requested
  replied := by
    rw [sameXid]
    exact traced.replied
  offered := offered

/-- A client changes and may send a packet, which is of this call or has
another xid. -/
theorem setClient
    (traced : network.CallTraced promise mac call) (sender : Text)
    {change : Option DhcpPacket × DhcpClient}
    (sends : ∀ sent, change.1 = some sent → sent.xid = call.xid →
      sent.clientMac = mac ∧
        (sent.messageType = .request →
          promise.Holds network.manager mac call.xid sent.offeredIp)) :
    (network.setClient sender change).CallTraced promise mac call where
  asked := mem_requests_setClient.mpr (.inl traced.asked)
  owned := by
    intro packet sent sameXid
    rcases mem_requests_setClient.mp sent with before | now
    · exact traced.owned packet before sameXid
    · exact (sends packet now sameXid).1
  requested := by
    intro packet sent sameXid isRequest
    rcases mem_requests_setClient.mp sent with before | now
    · exact traced.requested packet before sameXid isRequest
    · exact (sends packet now sameXid).2 isRequest
  replied := traced.replied
  offered := traced.offered

/-- The server handles a packet. -/
theorem serve
    {packet : DhcpPacket} {clock : LeaseClock}
    (traced : network.CallTraced promise mac call)
    (running : (network.clients mac).call = some call)
    (isSent : packet ∈ network.requests)
    (keeps : network.Keeps promise packet clock) :
    (network.serve packet clock).CallTraced promise mac call where
  asked := traced.asked
  owned := traced.owned
  requested := fun other sent sameXid isRequest =>
    keeps.keeps mac call _ running
      (traced.requested other sent sameXid isRequest)
  replied := by
    intro reply isReply sameXid
    rcases mem_replies_serve.mp isReply with before | ⟨sent, sends, rfl⟩
    · obtain ⟨refusals, promises⟩ := traced.replied reply before sameXid
      exact ⟨refusals, fun noNack =>
        keeps.keeps mac call _ running (promises noNack)⟩
    · have packetXid : packet.xid = call.xid :=
        (DhcpServer.names_of_handlePacket sends).1.symm.trans sameXid
      have own : packet.clientMac = mac := traced.owned packet isSent packetXid
      have made := keeps.makes call sent (by rw [own]; exact running) packetXid
      rw [own] at made
      exact made (traced.requested packet isSent packetXid) sends
  offered := fun ip requesting =>
    keeps.keeps mac call ip running (traced.offered ip requesting)

end CallTraced

/-! ## Steps -/

namespace Traced

theorem start (startIp endIp : Ipv4) :
    (DhcpNetwork.start startIp endIp).Traced promise where
  addressed := fun _ => rfl
  answers := by
    intro reply isReply
    cases isReply
  calls := by
    intro mac call running
    cases running

theorem stagePacket
    (traced : network.Traced promise) (mac : Text) (xid : Int)
    (stage : DhcpStage) :
    (network.clients mac).stagePacket xid stage =
      DhcpClient.stagePacket { macAddress := mac } xid stage := by
  rw [DhcpClient.stagePacket_eq, traced.addressed]

/-- A client changes.  What it sends has the xid of no other client. -/
theorem setClient
    (traced : network.Traced promise) (mac : Text)
    {change : Option DhcpPacket × DhcpClient}
    (sameAddress : change.2.macAddress = mac)
    (own : ∀ call, change.2.call = some call →
      (network.setClient mac change).CallTraced promise mac call)
    (others : ∀ sent, change.1 = some sent → ∀ other call,
      (network.clients other).call = some call → sent.xid = call.xid →
        other = mac) :
    (network.setClient mac change).Traced promise where
  addressed := by
    intro other
    rcases eq_or_ne other mac with rfl | different
    · rw [clients_setClient_self]
      exact sameAddress
    · rw [clients_setClient_of_ne _ different]
      exact traced.addressed other
  answers := by
    intro reply isReply
    obtain ⟨packet, sent, names⟩ := traced.answers reply isReply
    exact ⟨packet, mem_requests_setClient.mpr (.inl sent), names⟩
  calls := by
    intro other call running
    rcases eq_or_ne other mac with rfl | different
    · rw [clients_setClient_self] at running
      exact own call running
    · rw [clients_setClient_of_ne _ different] at running
      apply (traced.calls other call running).setClient mac
      intro sent sends sameXid
      exact absurd (others sent sends other call running sameXid) different

/-- What a client sends in a running call has the xid of no other client. -/
theorem alone
    (traced : network.Traced promise)
    (running : (network.clients mac).call = some call) {sent : DhcpPacket}
    (ofCall : sent.xid = call.xid) (other : Text) (otherCall : DhcpCall)
    (otherRunning : (network.clients other).call = some otherCall)
    (sameXid : sent.xid = otherCall.xid) : other = mac :=
  (traced.calls other otherCall otherRunning).mac_inj
    (traced.calls mac call running) (sameXid.symm.trans ofCall)

theorem acquire
    (traced : network.Traced promise) (mac : Text) {xid : Int}
    (fresh : ∀ packet ∈ network.requests, packet.xid ≠ xid) :
    (network.next (.acquire mac xid)).Traced promise := by
  apply traced.setClient mac
  · exact traced.addressed mac
  · intro call running
    obtain rfl := Option.some.inj running
    constructor
    · exact mem_requests_setClient.mpr
        (.inr (congrArg some (traced.stagePacket mac _ _)))
    · intro packet sent sameXid
      rcases mem_requests_setClient.mp sent with before | now
      · exact absurd sameXid (fresh packet before)
      · rw [← Option.some.inj now]
        exact traced.addressed mac
    · intro packet sent sameXid isRequest
      rcases mem_requests_setClient.mp sent with before | now
      · exact absurd sameXid (fresh packet before)
      · rw [← Option.some.inj now] at isRequest
        cases isRequest
    · intro reply isReply sameXid
      obtain ⟨packet, sent, xid_eq, _⟩ := traced.answers reply isReply
      exact absurd (xid_eq.trans sameXid) (fresh packet sent)
    · intro ip requesting
      cases requesting
  · intro sent sends other call running sameXid
    have asked := (traced.calls other call running).asked
    rw [← Option.some.inj sends] at sameXid
    exact absurd ((DhcpClient.xid_stagePacket _ _).trans sameXid.symm)
      (fresh _ asked)

theorem timeOut (traced : network.Traced promise) (mac : Text) :
    (network.next (.timeOut mac)).Traced promise := by
  change (network.setClient mac (network.clients mac).timeOut).Traced promise
  have timesOut := (network.clients mac).timesOut
  generalize (network.clients mac).timeOut = change at timesOut
  cases timesOut with
  | idle noCall =>
      apply traced.setClient mac (traced.addressed mac)
      · intro call running
        rw [noCall] at running
        cases running
      · intro sent sends
        cases sends
  | @again call running =>
      have ofCall := traced.calls mac call running
      apply traced.setClient mac (traced.addressed mac)
      · intro later goesOn
        obtain rfl := Option.some.inj goesOn
        refine (ofCall.setClient mac ?_).goesOn rfl
          (mem_requests_setClient.mpr (.inl ofCall.asked)) ofCall.offered
        rintro sent ⟨rfl⟩ _
        rw [DhcpClient.clientMac_stagePacket]
        refine ⟨traced.addressed mac, fun isRequest => ?_⟩
        exact ofCall.offered _ (DhcpClient.stage_of_stagePacket isRequest)
      · rintro sent ⟨rfl⟩
        exact traced.alone running (DhcpClient.xid_stagePacket _ _)
  | gaveUp =>
      apply traced.setClient mac (traced.addressed mac)
      · intro call running
        cases running
      · intro sent sends
        cases sends

theorem receive
    (traced : network.Traced promise) (mac : Text) {reply : DhcpReply}
    (isReply : reply ∈ network.replies) :
    (network.setClient mac
      ((network.clients mac).receive reply.packet)).Traced promise := by
  have receives := (network.clients mac).receives reply.packet
  generalize (network.clients mac).receive reply.packet = change at receives
  cases receives with
  | ignored =>
      apply traced.setClient mac (traced.addressed mac)
      · intro call running
        apply (traced.calls mac call running).setClient mac
        intro sent sends
        cases sends
      · intro sent sends
        cases sends
  | @offered xid attempt running sameXid isOffer =>
      have ofCall := traced.calls mac _ running
      have promised : promise.Holds network.manager mac xid
          reply.packet.offeredIp := by
        apply (ofCall.replied reply isReply sameXid).2
        rw [isOffer]
        decide
      apply traced.setClient mac (traced.addressed mac)
      · intro later goesOn
        obtain rfl := Option.some.inj goesOn
        refine (ofCall.setClient mac ?_).goesOn rfl ?_ ?_
        · rintro sent ⟨rfl⟩ _
          exact ⟨traced.addressed mac, fun _ => promised⟩
        · exact mem_requests_setClient.mpr
            (.inr (congrArg some (traced.stagePacket mac _ _)))
        · rintro ip ⟨rfl⟩
          exact promised
      · rintro sent ⟨rfl⟩
        exact traced.alone running rfl
  | bound accepted =>
      apply traced.setClient mac (traced.addressed mac)
      · intro call running
        cases running
      · intro sent sends
        cases sends
  | refused =>
      apply traced.setClient mac (traced.addressed mac)
      · intro call running
        cases running
      · intro sent sends
        cases sends

theorem serve
    (traced : network.Traced promise) {packet : DhcpPacket}
    {clock : LeaseClock} (isSent : packet ∈ network.requests)
    (keeps : network.Keeps promise packet clock) :
    (network.serve packet clock).Traced promise where
  addressed := traced.addressed
  answers := by
    intro reply isReply
    rcases mem_replies_serve.mp isReply with before | ⟨sent, sends, rfl⟩
    · exact traced.answers reply before
    · obtain ⟨sameXid, sameMac⟩ := DhcpServer.names_of_handlePacket sends
      exact ⟨packet, isSent, sameXid.symm, sameMac.symm⟩
  calls := fun mac call running =>
    (traced.calls mac call running).serve running isSent keeps

/-- Step lemma: with new xids, every action that keeps the promises keeps the
calls traced. -/
theorem next
    (traced : network.Traced promise) {action : DhcpAction}
    (enabled : network.Enabled action)
    (fresh : ∀ mac xid, action = .acquire mac xid →
      ∀ packet ∈ network.requests, packet.xid ≠ xid)
    (keeps : ∀ packet clock, action = .serve packet clock →
      network.Keeps promise packet clock) :
    (network.next action).Traced promise := by
  cases action with
  | acquire mac xid => exact traced.acquire mac (fresh mac xid rfl)
  | timeOut mac => exact traced.timeOut mac
  | serve packet clock =>
      exact traced.serve enabled.1 (keeps packet clock rfl)
  | deliver mac reply =>
      obtain ⟨addressed, answers, calls⟩ := traced.receive mac enabled
      refine ⟨addressed, answers, fun other call running => ?_⟩
      obtain ⟨asked, owned, requested, replied, offered⟩ :=
        calls other call running
      exact ⟨asked, owned, requested, replied, offered⟩

end Traced

end DhcpNetwork

/-! ## The address of a client -/

namespace IpManager

variable {manager : IpManager} {mac : Text}

/-- What is offered is the address of the client from then on. -/
theorem held_of_offer
    {xid : Int} {renewal : ℚ} {ip : Text}
    (offers : (manager.offer mac xid renewal).1.1 = some ip) :
    (manager.offer mac xid renewal).2.held mac = some ip := by
  cases leased : manager.leasedIps.get? mac with
  | some lease =>
      have holds := held_of_get? leased
      rw [offer_fst_of_held holds] at offers
      rw [← offers]
      exact held_offer holds mac xid renewal
  | none =>
      unfold offer at offers ⊢
      rw [leased] at offers ⊢
      dsimp only at offers ⊢
      cases found : manager.getNextAvailableIp with
      | none =>
          rw [found] at offers
          cases offers
      | some newIp =>
          rw [found] at offers
          rw [← offers]
          change ((manager.leasedIps.set mac _).get? mac).map Lease.ip = _
          rw [Dict.get?_set_self]
          rfl

end IpManager

namespace DhcpServer

variable
  {manager : IpManager} {packet sent : DhcpPacket} {clock : LeaseClock}

/-- An OFFER answers a DISCOVER with what the manager offers. -/
theorem offered_of_handleDiscover
    (sends : (handleDiscover manager packet clock).1 = some sent) :
    sent.messageType = .offer ∧
      (manager.handleDiscover packet.clientMac packet.xid clock).1.1 =
        some sent.offeredIp ∧
      (handleDiscover manager packet clock).2 =
        (manager.handleDiscover packet.clientMac packet.xid clock).2 := by
  unfold handleDiscover at sends ⊢
  generalize manager.handleDiscover packet.clientMac packet.xid clock =
    result at sends ⊢
  obtain ⟨⟨_ | ip, leaseTime⟩, after⟩ := result
  · cases sends
  · rw [← Option.some.inj sends]
    exact ⟨rfl, rfl, rfl⟩

/-- A reply that is no NACK names the address of the client. -/
theorem held_of_handlePacket
    (sends : (handlePacket manager packet clock).1 = some sent)
    (noNack : sent.messageType ≠ .nack) :
    (handlePacket manager packet clock).2.held packet.clientMac =
      some sent.offeredIp := by
  cases isType : packet.messageType with
  | discover =>
      unfold handlePacket at sends ⊢
      rw [isType] at sends ⊢
      obtain ⟨_, offers, manager_eq⟩ := offered_of_handleDiscover sends
      change (handleDiscover manager packet clock).2.held _ = _
      rw [manager_eq]
      exact IpManager.held_of_offer offers
  | request =>
      have isAck : sent.messageType = .ack := by
        unfold handlePacket handleRequest at sends
        rw [isType] at sends
        dsimp only at sends
        split at sends
        · rw [← Option.some.inj sends]
        · rw [← Option.some.inj sends] at noNack
          exact absurd rfl noNack
      obtain ⟨granted, manager_eq, sameIp, _⟩ :=
        granted_of_handlePacket sends isAck
      rw [manager_eq, sameIp]
      exact (congrFun (IpManager.held_grant _ _ _ _ _) _).trans
        (IpManager.held_of_grant granted)
  | offer =>
      unfold handlePacket at sends
      rw [isType] at sends
      cases sends
  | ack =>
      unfold handlePacket at sends
      rw [isType] at sends
      cases sends
  | nack =>
      unfold handlePacket at sends
      rw [isType] at sends
      cases sends

end DhcpServer

namespace DhcpNetwork

variable {network : DhcpNetwork} {packet : DhcpPacket} {clock : LeaseClock}

/-- No lease of an active client has expired. -/
def LeasesLast (network : DhcpNetwork) (time : ℚ) : Prop :=
  ∀ mac ∈ network.manager.leasedIps.keys, (network.clients mac).Active →
    ∀ lease ∈ network.manager.leasedIps.get? mac, time ≤ lease.expiresAt

instance (time : ℚ) : Decidable (network.LeasesLast time) :=
  inferInstanceAs (Decidable (∀ mac ∈ _, _ → ∀ lease ∈ _, _ ≤ _))

theorem LeasesLast.unexpired
    {time : ℚ} (lasts : network.LeasesLast time) {mac : Text} {lease : Lease}
    (active : (network.clients mac).Active)
    (leased : network.manager.leasedIps.get? mac = some lease) :
    time ≤ lease.expiresAt := by
  apply lasts mac _ active lease leased
  exact (Dict.mem_iff_exists_get? _ _).mpr ⟨lease, leased⟩

/-- A client draws an xid that no packet has carried, and no lease of an active
client is found to be expired. -/
def Distinct (network : DhcpNetwork) : DhcpAction → Prop
  | .acquire _ xid => ∀ packet ∈ network.requests, packet.xid ≠ xid
  | .serve _ clock => network.LeasesLast clock.cleanup
  | _ => True

instance : ∀ (network : DhcpNetwork) (action : DhcpAction),
    Decidable (network.Distinct action)
  | network, .acquire _ xid =>
      inferInstanceAs (Decidable (∀ packet ∈ network.requests,
        packet.xid ≠ xid))
  | network, .serve _ clock =>
      inferInstanceAs (Decidable (network.LeasesLast clock.cleanup))
  | _, .timeOut _ => .isTrue trivial
  | _, .deliver _ _ => .isTrue trivial

/-- The address is that of the client. -/
def heldAddress : LeasePromise where
  Holds := fun manager mac _ ip => manager.held mac = some ip
  mayRefuse := True

/-- An address of an active client stays with it. -/
theorem held_serve
    (lasts : network.LeasesLast clock.cleanup) (packet : DhcpPacket)
    {mac ip : Text} (active : (network.clients mac).Active)
    (holds : network.manager.held mac = some ip) :
    (network.serve packet clock).manager.held mac = some ip := by
  change (DhcpServer.handlePacket network.manager packet clock).2.held mac = _
  obtain ⟨lease, leased, rfl⟩ := Option.map_eq_some_iff.mp holds
  rcases DhcpServer.handlePacket_manager network.manager packet clock with
    same | ⟨call, checked, performed⟩
  · rw [same]
    exact holds
  · rw [performed]
    apply (LeaseCall.held_perform leased _).1
    rw [checked]
    exact lasts.unexpired active leased

theorem active_of_running
    {mac : Text} {call : DhcpCall}
    (running : (network.clients mac).call = some call) :
    (network.clients mac).Active := by
  left
  rw [running]
  exact Option.some_ne_none call

theorem keeps_heldAddress
    (lasts : network.LeasesLast clock.cleanup) (packet : DhcpPacket) :
    network.Keeps heldAddress packet clock where
  keeps := fun _ _ _ running holds =>
    held_serve lasts packet (active_of_running running) holds
  makes := by
    intro call sent _ _ _ sends
    exact ⟨fun _ => trivial, DhcpServer.held_of_handlePacket sends⟩

/-- Step lemma: with distinct xids, clients accept only ACKs for their own
addresses. -/
theorem Traced.careful
    (traced : network.Traced heldAddress) {action : DhcpAction}
    (enabled : network.Enabled action) (distinct : network.Distinct action) :
    network.Careful action := by
  cases action with
  | acquire mac xid => trivial
  | timeOut mac => trivial
  | serve packet clock =>
      intro mac ip lease bound leased
      exact distinct.unexpired (.inr bound.1) leased
  | deliver mac reply =>
      intro accepted
      obtain ⟨isAck, call, running, sameXid, _⟩ :=
        DhcpClient.accepts_eq_true_iff.mp accepted
      apply ((traced.calls mac call running).replied reply enabled sameXid).2
      rw [isAck]
      decide

theorem Traced.next_distinct
    (traced : network.Traced heldAddress) {action : DhcpAction}
    (enabled : network.Enabled action) (distinct : network.Distinct action) :
    (network.next action).Traced heldAddress := by
  apply traced.next enabled
  · rintro mac xid rfl
    exact distinct
  · rintro packet clock rfl
    exact keeps_heldAddress distinct packet

end DhcpNetwork

/-- Run lemma: with distinct xids, the calls are traced and bound clients have
leases of their addresses. -/
theorem traced_of_distinct
    {startIp endIp : Ipv4} {network : DhcpNetwork}
    (reachable : ((dhcpMachine startIp endIp).restrict
      DhcpNetwork.Distinct).Reachable network) :
    network.Traced DhcpNetwork.heldAddress ∧ network.Backed := by
  refine Machine.Reachable.invariant (fun network =>
    network.Traced DhcpNetwork.heldAddress ∧ network.Backed) ?_ ?_ reachable
  · exact ⟨.start startIp endIp, .start startIp endIp⟩
  · intro before action _ holds enabled
    exact ⟨holds.1.next_distinct enabled.1 enabled.2,
      holds.2.next (holds.1.careful enabled.1 enabled.2)⟩

/-- With distinct xids, and while no lease of an active client is found to be
expired, no two clients are ever bound to one address, and every reply that a
running call receives is for the address of its client or refuses one. -/
theorem dhcp_exclusive_distinctXids
    (startIp endIp : Ipv4) (network : DhcpNetwork)
    (reachable : ((dhcpMachine startIp endIp).restrict
      DhcpNetwork.Distinct).Reachable network) :
    (∀ mac other ip, (network.clients mac).BoundTo ip →
        (network.clients other).BoundTo ip → mac = other) ∧
      (∀ mac ip, (network.clients mac).BoundTo ip →
        network.manager.held mac = some ip) ∧
      ∀ mac call, (network.clients mac).call = some call →
        ∀ reply ∈ network.replies, reply.packet.xid = call.xid →
          reply.packet.clientMac = mac ∧
            (reply.packet.messageType ≠ .nack →
              network.manager.held mac = some reply.packet.offeredIp) := by
  obtain ⟨traced, backed⟩ := traced_of_distinct reachable
  refine ⟨?_, backed.leased, ?_⟩
  · intro mac other ip bound otherBound
    exact backed.sound.allocated.exclusive (backed.leased mac ip bound)
      (backed.leased other ip otherBound)
  · intro mac call running reply isReply sameXid
    have ofCall := traced.calls mac call running
    obtain ⟨packet, isSent, xid_eq, mac_eq⟩ := traced.answers reply isReply
    refine ⟨?_, (ofCall.replied reply isReply sameXid).2⟩
    rw [← mac_eq]
    exact ofCall.owned packet isSent (xid_eq.trans sameXid)

/-! ## Two clients -/

namespace Sample

/-- The packets of the second client and the replies to them. -/
def otherDiscover : DhcpPacket :=
  { messageType := .discover, xid := 8, clientMac := "B" }

def otherRequest : DhcpPacket :=
  { messageType := .request
    xid := 8
    clientMac := "B"
    offeredIp := "127.0.0.3" }

def otherOffer : DhcpReply where
  packet :=
    { messageType := .offer
      xid := 8
      clientMac := "B"
      offeredIp := "127.0.0.3"
      leaseTime := 3600 }
  sentAt := 0
  expiresAt := some 3600

def otherAck : DhcpReply where
  packet :=
    { messageType := .ack
      xid := 8
      clientMac := "B"
      offeredIp := "127.0.0.3" }
  sentAt := 1
  expiresAt := some 3601

/-- Two clients that also receive each other's replies. -/
def crossedReplies : List DhcpAction :=
  [.acquire "A" 7, .acquire "B" 8,
    .serve { messageType := .discover, xid := 7, clientMac := "A" } ⟨0, 0⟩,
    .serve otherDiscover ⟨0, 0⟩,
    .deliver "B" offerReply, .deliver "A" offerReply, .deliver "B" otherOffer,
    .serve
      { messageType := .request
        xid := 7
        clientMac := "A"
        offeredIp := "127.0.0.2" } ⟨1, 1⟩,
    .serve otherRequest ⟨1, 1⟩,
    .deliver "B" ackReply, .deliver "A" ackReply, .deliver "B" otherAck]

/-- The network after them. -/
def crossed : DhcpNetwork := dhcp.exec dhcp.start crossedReplies

theorem crossed_reachable :
    (dhcp.restrict DhcpNetwork.Distinct).Reachable crossed := by
  have admitted : (dhcp.restrict DhcpNetwork.Distinct).Admits dhcp.start
      crossedReplies := by
    decide +kernel
  exact Machine.Reachable.start.exec admitted

end Sample

/-- Both clients are bound, each to the address leased to it. -/
theorem dhcp_exclusive_distinctXids_crossed :
    (Sample.crossed.clients "A").BoundTo "127.0.0.2" ∧
      (Sample.crossed.clients "B").BoundTo "127.0.0.3" ∧
      Sample.crossed.manager.held "A" = some (Text.ofString "127.0.0.2") ∧
      Sample.crossed.manager.held "B" = some (Text.ofString "127.0.0.3") := by
  have first : (Sample.crossed.clients "A").BoundTo "127.0.0.2" :=
    ⟨by decide +kernel, by decide +kernel⟩
  have second : (Sample.crossed.clients "B").BoundTo "127.0.0.3" :=
    ⟨by decide +kernel, by decide +kernel⟩
  have leased := (dhcp_exclusive_distinctXids ⟨127, 0, 0, 2⟩ ⟨127, 0, 0, 3⟩
    Sample.crossed Sample.crossed_reachable).2.1
  exact ⟨first, second, leased _ _ first, leased _ _ second⟩

end RudpAgentStack

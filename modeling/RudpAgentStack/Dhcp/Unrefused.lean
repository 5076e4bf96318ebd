import RudpAgentStack.Dhcp.Completeness
import RudpAgentStack.Dhcp.DistinctXids

/-!
# Handshakes that are not refused

The server refuses a REQUEST when the lease of its client has expired, or when
it has granted the lease under another xid: a REQUEST of an earlier call that
arrives late spoils the handshake of the call that is running.  Without such
REQUESTs a running call is never refused, and one round trip in each stage
binds its client.
-/

namespace RudpAgentStack

open Foundation

/-! ## Leases that are ready to be granted -/

namespace IpManager

variable {manager : IpManager} {mac other : Text} {xid : Int} {ip : Text}

/-- The address is leased to the client, and a REQUEST under the xid is granted
it. -/
def Ready (manager : IpManager) (mac : Text) (xid : Int) (ip : Text) : Prop :=
  ∃ lease, manager.leasedIps.get? mac = some lease ∧ lease.ip = ip ∧
    (lease.state = .selecting ∨ lease.xid = xid)

theorem ready_of_get?
    {lease : Lease} (leased : manager.leasedIps.get? mac = some lease)
    (grantable : lease.state = .selecting ∨ lease.xid = xid) :
    manager.Ready mac xid lease.ip :=
  ⟨lease, leased, rfl, grantable⟩

/-- The cleanup leaves a lease ready that has not expired. -/
theorem Ready.cleanup
    {currentTime : ℚ} (ready : manager.Ready mac xid ip)
    (unexpired : ∀ lease, manager.leasedIps.get? mac = some lease →
      currentTime ≤ lease.expiresAt) :
    (manager.cleanupExpiredLeases currentTime).Ready mac xid ip := by
  obtain ⟨lease, leased, sameIp, grantable⟩ := ready
  exact ⟨lease, get?_cleanup_of_unexpired leased (unexpired lease leased),
    sameIp, grantable⟩

/-- A DISCOVER leaves a lease ready, whoever has sent it. -/
theorem Ready.offer
    (ready : manager.Ready mac xid ip) (other : Text) (otherXid : Int)
    (renewal : ℚ) :
    (manager.offer other otherXid renewal).2.Ready mac xid ip := by
  obtain ⟨lease, leased, sameIp, grantable⟩ := ready
  rcases eq_or_ne mac other with rfl | different
  · unfold IpManager.offer
    rw [leased]
    dsimp only
    split
    · exact ⟨_, Dict.get?_set_self _ _ _, sameIp, grantable⟩
    · exact ⟨_, Dict.get?_set_self _ _ _, sameIp, .inl rfl⟩
  · refine ⟨lease, ?_, sameIp, grantable⟩
    rw [get?_offer_of_ne _ different]
    exact leased

/-- What is offered under an xid is ready to be granted under it. -/
theorem ready_of_offer
    {renewal : ℚ} (offers : (manager.offer mac xid renewal).1.1 = some ip) :
    (manager.offer mac xid renewal).2.Ready mac xid ip := by
  unfold IpManager.offer at offers ⊢
  cases leased : manager.leasedIps.get? mac with
  | some lease =>
      rw [leased] at offers
      dsimp only at offers ⊢
      split
      · next sameXid =>
          rw [if_pos sameXid] at offers
          exact ⟨_, Dict.get?_set_self _ _ _, Option.some.inj offers,
            .inr sameXid⟩
      · next different =>
          rw [if_neg different] at offers
          exact ⟨_, Dict.get?_set_self _ _ _, Option.some.inj offers,
            .inl rfl⟩
  | none =>
      rw [leased] at offers
      dsimp only at offers ⊢
      cases found : manager.getNextAvailableIp with
      | none =>
          rw [found] at offers
          cases offers
      | some newIp =>
          rw [found] at offers
          exact ⟨_, Dict.get?_set_self _ _ _, Option.some.inj offers,
            .inl rfl⟩

/-- A REQUEST writes no lease but that of its client. -/
theorem get?_grant_of_ne
    (manager : IpManager) (different : other ≠ mac) (xid : Int)
    (requestedIp : Text) (renewal : ℚ) :
    (manager.grant mac xid requestedIp renewal).2.leasedIps.get? other =
      manager.leasedIps.get? other := by
  unfold grant
  cases manager.leasedIps.get? mac with
  | none => rfl
  | some lease =>
      dsimp only
      split
      · rfl
      · split
        · exact Dict.get?_set_of_ne _ _ different
        · split
          · exact Dict.get?_set_of_ne _ _ different
          · rfl

/-- A REQUEST under the xid is granted, and can be granted again. -/
theorem Ready.grant
    (ready : manager.Ready mac xid ip) (renewal : ℚ) :
    (manager.grant mac xid ip renewal).1 = true ∧
      (manager.grant mac xid ip renewal).2.Ready mac xid ip := by
  obtain ⟨lease, leased, sameIp, grantable⟩ := ready
  unfold IpManager.grant
  rw [leased]
  dsimp only
  rw [if_neg (not_not.mpr sameIp)]
  split
  · next renews =>
      exact ⟨rfl, _, Dict.get?_set_self _ _ _, sameIp, .inr renews.1⟩
  · next notRenews =>
      have selecting : lease.state = .selecting := by
        rcases grantable with selecting | sameXid
        · exact selecting
        · cases isState : lease.state with
          | selecting => rfl
          | bound => exact absurd ⟨sameXid, isState⟩ notRenews
      rw [if_pos selecting]
      exact ⟨rfl, _, Dict.get?_set_self _ _ _, sameIp, .inr rfl⟩

/-- No other REQUEST under the xid changes that. -/
theorem Ready.grant_other
    (ready : manager.Ready mac xid ip) {asking : Text} {otherXid : Int}
    (own : asking = mac → otherXid = xid) (requestedIp : Text) (renewal : ℚ) :
    (manager.grant asking otherXid requestedIp renewal).2.Ready mac xid ip := by
  rcases eq_or_ne mac asking with rfl | different
  · obtain rfl := own rfl
    by_cases sameIp : ip = requestedIp
    · rw [← sameIp]
      exact (ready.grant renewal).2
    · obtain ⟨lease, leased, rfl, grantable⟩ := ready
      unfold IpManager.grant
      rw [leased]
      dsimp only
      rw [if_pos sameIp]
      exact ready_of_get? leased grantable
  · obtain ⟨lease, leased, sameIp, grantable⟩ := ready
    refine ⟨lease, ?_, sameIp, grantable⟩
    rw [get?_grant_of_ne _ different]
    exact leased

end IpManager

/-! ## Replies -/

namespace DhcpServer

variable
  {manager : IpManager} {packet sent : DhcpPacket} {clock : LeaseClock}

theorem manager_of_discover (isDiscover : packet.messageType = .discover) :
    (handlePacket manager packet clock).2 =
      (manager.handleDiscover packet.clientMac packet.xid clock).2 := by
  unfold handlePacket handleDiscover
  rw [isDiscover]
  generalize manager.handleDiscover packet.clientMac packet.xid clock = result
  obtain ⟨⟨_ | ip, leaseTime⟩, after⟩ := result <;> rfl

theorem manager_of_request (isRequest : packet.messageType = .request) :
    (handlePacket manager packet clock).2 =
      (manager.handleRequest packet.clientMac packet.xid packet.offeredIp
        clock).2 := by
  unfold handlePacket handleRequest
  rw [isRequest]
  generalize manager.handleRequest packet.clientMac packet.xid packet.offeredIp
    clock = result
  obtain ⟨granted, after⟩ := result
  cases granted <;> rfl

/-- A REQUEST that is granted is answered with an ACK. -/
theorem reply_of_granted
    (isRequest : packet.messageType = .request)
    (granted : (manager.handleRequest packet.clientMac packet.xid
      packet.offeredIp clock).1 = true) :
    (handlePacket manager packet clock).1 = some
      { messageType := .ack
        xid := packet.xid
        clientMac := packet.clientMac
        offeredIp := packet.offeredIp
        leaseTime := packet.leaseTime } := by
  unfold handlePacket handleRequest
  rw [isRequest]
  generalize manager.handleRequest packet.clientMac packet.xid packet.offeredIp
    clock = result at granted ⊢
  obtain ⟨_, after⟩ := result
  obtain rfl := granted
  rfl

/-- A DISCOVER is answered with what is offered. -/
theorem reply_of_offered
    (isDiscover : packet.messageType = .discover) {ip : Text} {leaseTime : Int}
    (offered : (manager.handleDiscover packet.clientMac packet.xid clock).1 =
      (some ip, leaseTime)) :
    (handlePacket manager packet clock).1 = some
      { messageType := .offer
        xid := packet.xid
        clientMac := packet.clientMac
        offeredIp := ip
        leaseTime } := by
  unfold handlePacket handleDiscover
  rw [isDiscover]
  generalize manager.handleDiscover packet.clientMac packet.xid clock = result
    at offered ⊢
  obtain ⟨_, after⟩ := result
  obtain rfl := offered
  rfl

theorem no_reply
    (noDiscover : packet.messageType ≠ .discover)
    (noRequest : packet.messageType ≠ .request) :
    handlePacket manager packet clock = (none, manager) := by
  unfold handlePacket
  split
  · next isDiscover => exact absurd isDiscover noDiscover
  · next isRequest => exact absurd isRequest noRequest
  · rfl

end DhcpServer

namespace DhcpNetwork

variable {network : DhcpNetwork} {packet : DhcpPacket} {clock : LeaseClock}
  {mac ip : Text} {call : DhcpCall}

/-- No REQUEST of an earlier call is handled while a call of its client is
running. -/
def NoLateRequest (network : DhcpNetwork) : DhcpAction → Prop
  | .serve packet _ => packet.messageType = .request →
      ∀ call ∈ (network.clients packet.clientMac).call, packet.xid = call.xid
  | _ => True

instance : ∀ (network : DhcpNetwork) (action : DhcpAction),
    Decidable (network.NoLateRequest action)
  | network, .serve packet _ =>
      inferInstanceAs (Decidable (packet.messageType = .request →
        ∀ call ∈ (network.clients packet.clientMac).call,
          packet.xid = call.xid))
  | _, .acquire _ _ => .isTrue trivial
  | _, .timeOut _ => .isTrue trivial
  | _, .deliver _ _ => .isTrue trivial

/-- xids are distinct, and no REQUEST comes late. -/
def Orderly (network : DhcpNetwork) (action : DhcpAction) : Prop :=
  network.Distinct action ∧ network.NoLateRequest action

instance (network : DhcpNetwork) (action : DhcpAction) :
    Decidable (network.Orderly action) :=
  inferInstanceAs (Decidable (_ ∧ _))

/-- The address is ready for the client, which is not refused. -/
def readyLease : LeasePromise where
  Holds := IpManager.Ready
  mayRefuse := False

/-- A lease of a running call stays ready. -/
theorem ready_serve
    (lasts : network.LeasesLast clock.cleanup)
    (orderly : network.NoLateRequest (.serve packet clock))
    (running : (network.clients mac).call = some call)
    (ready : network.manager.Ready mac call.xid ip) :
    (network.serve packet clock).manager.Ready mac call.xid ip := by
  have cleaned : (network.manager.cleanupExpiredLeases clock.cleanup).Ready mac
      call.xid ip :=
    ready.cleanup fun lease leased =>
      lasts.unexpired (active_of_running running) leased
  change (DhcpServer.handlePacket network.manager packet clock).2.Ready mac _ _
  by_cases isDiscover : packet.messageType = .discover
  · rw [DhcpServer.manager_of_discover isDiscover]
    exact cleaned.offer _ _ _
  by_cases isRequest : packet.messageType = .request
  · rw [DhcpServer.manager_of_request isRequest]
    apply cleaned.grant_other
    rintro rfl
    exact orderly isRequest call running
  · rw [DhcpServer.no_reply isDiscover isRequest]
    exact ready

theorem keeps_readyLease
    (lasts : network.LeasesLast clock.cleanup)
    (orderly : network.NoLateRequest (.serve packet clock)) :
    network.Keeps readyLease packet clock where
  keeps := fun _ _ _ running ready => ready_serve lasts orderly running ready
  makes := by
    intro call sent running sameXid requested sends
    suffices sent.messageType ≠ .nack ∧
        (DhcpServer.handlePacket network.manager packet clock).2.Ready
          packet.clientMac call.xid sent.offeredIp from
      ⟨this.1, fun _ => this.2⟩
    rw [← sameXid] at requested ⊢
    by_cases isDiscover : packet.messageType = .discover
    · rw [DhcpServer.manager_of_discover isDiscover]
      unfold DhcpServer.handlePacket at sends
      rw [isDiscover] at sends
      obtain ⟨isOffer, offers, _⟩ := DhcpServer.offered_of_handleDiscover sends
      refine ⟨?_, IpManager.ready_of_offer offers⟩
      rw [isOffer]
      decide
    by_cases isRequest : packet.messageType = .request
    · have ready : (network.manager.cleanupExpiredLeases clock.cleanup).Ready
          packet.clientMac packet.xid packet.offeredIp :=
        (requested isRequest).cleanup fun lease leased =>
          lasts.unexpired (active_of_running running) leased
      obtain ⟨granted, readyThen⟩ := ready.grant clock.renewal
      rw [DhcpServer.reply_of_granted isRequest granted] at sends
      rw [DhcpServer.manager_of_request isRequest, ← Option.some.inj sends]
      exact ⟨by simp, readyThen⟩
    · rw [DhcpServer.no_reply isDiscover isRequest] at sends
      cases sends

end DhcpNetwork

/-! ## Round trips -/

theorem Ipv4.text_ne_nil (address : Ipv4) : address.text ≠ [] := by
  intro empty
  have length_eq := congrArg List.length empty
  simp only [Ipv4.text, List.length_append, List.length_nil] at length_eq
  have dot : (Text.ofString ".").length = 1 := rfl
  omega

namespace DhcpNetwork

variable {network : DhcpNetwork} {clock : LeaseClock} {mac ip : Text}
  {call : DhcpCall}

/-- The packet that the running call of a client sends in its stage. -/
def stageRequest (network : DhcpNetwork) (mac : Text) (call : DhcpCall) :
    DhcpPacket :=
  (network.clients mac).stagePacket call.xid call.stage

/-- The reply to a REQUEST of a running call binds its client. -/
theorem exists_ack
    (traced : network.Traced readyLease)
    (running : (network.clients mac).call = some call)
    (requesting : call.stage = .requesting ip)
    (lasts : network.LeasesLast clock.cleanup) :
    ∃ reply ∈ (network.serve (network.stageRequest mac call) clock).replies,
      (network.clients mac).accepts reply.packet = true ∧
        reply.packet.offeredIp = ip := by
  have promised : network.manager.Ready mac call.xid ip :=
    (traced.calls mac call running).offered ip requesting
  have ready : (network.manager.cleanupExpiredLeases clock.cleanup).Ready mac
      call.xid ip :=
    promised.cleanup fun lease leased =>
      lasts.unexpired (active_of_running running) leased
  have request_eq : network.stageRequest mac call =
      { messageType := .request
        xid := call.xid
        clientMac := mac
        offeredIp := ip } := by
    rw [stageRequest, requesting, traced.stagePacket]
    rfl
  have granted := @DhcpServer.reply_of_granted network.manager
    (network.stageRequest mac call) clock (by rw [request_eq])
    (by rw [request_eq]; exact (ready.grant clock.renewal).1)
  refine ⟨_, mem_replies_serve.mpr (.inr ⟨_, granted, rfl⟩), ?_, ?_⟩
  · apply DhcpClient.accepts_eq_true_iff.mpr
    rw [request_eq]
    exact ⟨rfl, call, running, rfl, requesting⟩
  · rw [request_eq]

/-- The reply to a DISCOVER is an OFFER, unless all addresses of the pool are
held. -/
theorem exists_offer
    (traced : network.Traced readyLease) (sound : network.manager.Sound)
    (selecting : call.stage = .selecting)
    (free : (network.manager.handleDiscover mac call.xid clock).1 ≠
      (none, 0)) :
    ∃ reply ∈ (network.serve (network.stageRequest mac call) clock).replies,
      reply.packet.messageType = .offer ∧ reply.packet.xid = call.xid ∧
        reply.packet.offeredIp ≠ [] := by
  obtain ⟨address, _, offers⟩ :=
    IpManager.exists_inPool_of_handleDiscover sound free
  have request_eq : network.stageRequest mac call =
      { messageType := .discover, xid := call.xid, clientMac := mac } := by
    rw [stageRequest, selecting, traced.stagePacket]
    rfl
  have offered := @DhcpServer.reply_of_offered network.manager
    (network.stageRequest mac call) clock (by rw [request_eq]) address.text
    dhcpDefaultLeaseTime (by rw [request_eq]; exact offers)
  refine ⟨_, mem_replies_serve.mpr (.inr ⟨_, offered, rfl⟩), rfl, ?_, ?_⟩
  · rw [request_eq]
  · exact address.text_ne_nil

theorem serve_admitted
    {startIp endIp : Ipv4} (traced : network.Traced readyLease)
    (running : (network.clients mac).call = some call)
    (fromNow : network.now ≤ clock.cleanup)
    (forward : clock.cleanup ≤ clock.renewal)
    (lasts : network.LeasesLast clock.cleanup) {reply : DhcpReply}
    (isReply : reply ∈
      (network.serve (network.stageRequest mac call) clock).replies) :
    ((dhcpMachine startIp endIp).restrict Orderly).Admits network
      [.serve (network.stageRequest mac call) clock, .deliver mac reply] := by
  have asked := (traced.calls mac call running).asked
  rw [← traced.stagePacket] at asked
  refine ⟨⟨⟨asked, fromNow, forward⟩, lasts, ?_⟩, ⟨isReply, trivial, trivial⟩,
    trivial⟩
  intro _ other otherRunning
  rw [stageRequest, DhcpClient.clientMac_stagePacket, traced.addressed,
    running] at otherRunning
  rw [← Option.some.inj otherRunning]
  exact DhcpClient.xid_stagePacket _ _

theorem Traced.next_orderly
    (traced : network.Traced readyLease) {action : DhcpAction}
    (enabled : network.Enabled action) (orderly : network.Orderly action) :
    (network.next action).Traced readyLease := by
  apply traced.next enabled
  · rintro mac xid rfl
    exact orderly.1
  · rintro packet clock rfl
    exact keeps_readyLease orderly.1 orderly.2

end DhcpNetwork

/-- Run lemma: in orderly runs running calls have leases that are ready. -/
theorem traced_of_orderly
    {startIp endIp : Ipv4} {network : DhcpNetwork}
    (reachable : ((dhcpMachine startIp endIp).restrict
      DhcpNetwork.Orderly).Reachable network) :
    network.Traced DhcpNetwork.readyLease ∧ network.manager.Sound := by
  refine Machine.Reachable.invariant (fun network =>
    network.Traced DhcpNetwork.readyLease ∧ network.manager.Sound) ?_ ?_
    reachable
  · exact ⟨.start startIp endIp, .new startIp endIp⟩
  · intro before action _ holds enabled
    refine ⟨holds.1.next_orderly enabled.1 enabled.2, ?_⟩
    cases action with
    | acquire mac xid => exact holds.2
    | timeOut mac => exact holds.2
    | deliver mac reply => exact holds.2
    | serve packet clock =>
        change (DhcpServer.handlePacket before.manager packet clock).2.Sound
        rcases DhcpServer.handlePacket_manager before.manager packet clock with
          same | ⟨call, _, performed⟩
        · rw [same]
          exact holds.2
        · rw [performed]
          exact LeaseCall.sound_perform holds.2 call

/-- With distinct xids, while no lease of an active client is found to be
expired and no REQUEST of an earlier call comes late, a running call is never
refused.  At any time one round trip is enough to bind a client that requests
an address, and to have a client that selects one request it, unless all
addresses of the pool are held. -/
theorem dhcp_unrefused
    (startIp endIp : Ipv4) (network : DhcpNetwork)
    (reachable : ((dhcpMachine startIp endIp).restrict
      DhcpNetwork.Orderly).Reachable network)
    {mac : Text} {call : DhcpCall}
    (running : (network.clients mac).call = some call) :
    let machine := (dhcpMachine startIp endIp).restrict DhcpNetwork.Orderly
    (∀ reply ∈ network.replies, reply.packet.xid = call.xid →
        reply.packet.messageType ≠ .nack) ∧
      ∀ clock : LeaseClock, network.now ≤ clock.cleanup →
        clock.cleanup ≤ clock.renewal → network.LeasesLast clock.cleanup →
        (∀ ip, call.stage = .requesting ip → ∃ reply,
          let actions :=
            [.serve (network.stageRequest mac call) clock, .deliver mac reply]
          machine.Admits network actions ∧
            ((machine.exec network actions).clients mac).BoundTo ip) ∧
        (call.stage = .selecting →
          ¬ (network.manager.unexpiredLease clock.cleanup mac = none ∧
            ∀ address, network.manager.InPool address →
              network.manager.Holds clock.cleanup address) →
          ∃ reply ip,
            let actions :=
              [.serve (network.stageRequest mac call) clock,
                .deliver mac reply]
            machine.Admits network actions ∧
              ((machine.exec network actions).clients mac).call =
                some ⟨call.xid, .requesting ip, 1⟩) := by
  obtain ⟨traced, sound⟩ := traced_of_orderly reachable
  refine ⟨?_, fun clock fromNow forward lasts => ⟨?_, ?_⟩⟩
  · intro reply isReply sameXid isNack
    exact ((traced.calls mac call running).replied reply isReply sameXid).1
      isNack
  · intro ip requesting
    obtain ⟨reply, isReply, accepted, sameIp⟩ :=
      DhcpNetwork.exists_ack traced running requesting lasts
    refine ⟨reply, DhcpNetwork.serve_admitted traced running fromNow forward
      lasts isReply, ?_⟩
    change (((network.serve _ clock).deliver mac reply).clients mac).BoundTo ip
    rw [DhcpNetwork.clients_deliver_self]
    change ((network.clients mac).receive reply.packet).2.BoundTo ip
    rw [DhcpClient.receive_of_accepts accepted]
    exact ⟨rfl, congrArg some sameIp⟩
  · intro selecting free
    rw [← IpManager.handleDiscover_fst_eq_none_iff sound mac call.xid] at free
    obtain ⟨reply, isReply, isOffer, sameXid, nonempty⟩ :=
      DhcpNetwork.exists_offer traced sound selecting free
    refine ⟨reply, reply.packet.offeredIp, DhcpNetwork.serve_admitted traced
      running fromNow forward lasts isReply, ?_⟩
    change (((network.serve _ clock).deliver mac reply).clients mac).call = _
    rw [DhcpNetwork.clients_deliver_self]
    change ((network.clients mac).receive reply.packet).2.call = _
    obtain ⟨xid, stage, attempt⟩ := call
    obtain rfl := selecting
    rw [DhcpClient.receive, running]
    dsimp only [DhcpClient.receiveSelecting]
    rw [if_pos ⟨sameXid, isOffer, nonempty⟩]

/-! ## A repeated DISCOVER and a late REQUEST -/

namespace Sample

/-- The DISCOVER and the REQUEST of a call of the sample client. -/
def discoverOf (xid : Int) : DhcpPacket :=
  { messageType := .discover, xid, clientMac := "A" }

def requestOf (xid : Int) : DhcpPacket :=
  { messageType := .request
    xid
    clientMac := "A"
    offeredIp := "127.0.0.2" }

/-- The client has been offered an address, and its DISCOVER arrives again. -/
def repeatedDiscover : List DhcpAction :=
  [.acquire "A" 7, .serve (discoverOf 7) ⟨0, 0⟩, .deliver "A" offerReply,
    .serve (discoverOf 7) ⟨1, 1⟩]

def discoveredAgain : DhcpNetwork := dhcp.exec dhcp.start repeatedDiscover

theorem discoveredAgain_reachable :
    (dhcp.restrict DhcpNetwork.Orderly).Reachable discoveredAgain := by
  have admitted : (dhcp.restrict DhcpNetwork.Orderly).Admits dhcp.start
      repeatedDiscover := by
    decide +kernel
  exact Machine.Reachable.start.exec admitted

theorem discoveredAgain_running :
    (discoveredAgain.clients "A").call =
      some ⟨7, .requesting "127.0.0.2", 1⟩ := by
  decide +kernel

end Sample

/-- Nevertheless one round trip binds the client. -/
theorem dhcp_unrefused_repeatedDiscover :
    ∃ reply,
      ((Sample.dhcp.exec Sample.discoveredAgain
        [.serve (Sample.discoveredAgain.stageRequest "A"
          ⟨7, .requesting "127.0.0.2", 1⟩) ⟨2, 2⟩,
          .deliver "A" reply]).clients "A").BoundTo "127.0.0.2" := by
  obtain ⟨_, trips⟩ := dhcp_unrefused ⟨127, 0, 0, 2⟩ ⟨127, 0, 0, 3⟩
    Sample.discoveredAgain Sample.discoveredAgain_reachable
    Sample.discoveredAgain_running
  obtain ⟨binds, _⟩ := trips ⟨2, 2⟩ (by decide +kernel) (by decide +kernel)
    (by decide +kernel)
  obtain ⟨reply, _, bound⟩ := binds "127.0.0.2" rfl
  exact ⟨reply, bound⟩

/-- The first call of the client gives up, and its REQUEST arrives after the
second one was offered the address. -/
def Sample.lateRequest : List DhcpAction :=
  let offerReply : DhcpReply := { offerReply with
    packet := { offerReply.packet with xid := 9 } }
  [.acquire "A" 7, .serve (discoverOf 7) ⟨0, 0⟩, .deliver "A" Sample.offerReply,
    .timeOut "A", .timeOut "A", .timeOut "A", .timeOut "A", .timeOut "A",
    .acquire "A" 9, .serve (discoverOf 9) ⟨0, 0⟩, .deliver "A" offerReply,
    .serve (requestOf 7) ⟨1, 1⟩, .serve (requestOf 9) ⟨1, 1⟩]

-- a REQUEST that comes late has the server refuse the call that is running
example :
    (Sample.dhcp.restrict DhcpNetwork.Distinct).Admits Sample.dhcp.start
        Sample.lateRequest ∧
      ∃ reply ∈ (Sample.dhcp.exec Sample.dhcp.start
          Sample.lateRequest).replies,
        reply.packet.messageType = .nack ∧ reply.packet.xid = 9 := by
  decide +kernel

end RudpAgentStack

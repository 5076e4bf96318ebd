import RudpAgentStack.Foundation.Noninterference
import RudpAgentStack.Transport.ServerLoop
import Mathlib.Order.Bounds.Basic

/-!
# Isolation of peers

To each address the receive loop is a machine of its own, whose state is the
connection of the address, the messages delivered for it and what was sent to
it.  Datagrams of other addresses leave it as it is, as long as they do not end
the loop.  One does exactly if it is a segment after which no sequence number
below `2 ^ 32` is missing.
-/

namespace RudpAgentStack

open Foundation

/-! ## The acknowledgement number -/

namespace RUDPReceiver

/-- The drain loop stops at the first number that is not buffered. -/
theorem drain_isLeast (receiver : RUDPReceiver) :
    IsLeast {seq | receiver.expectedSeq ≤ seq ∧ seq ∉ receiver.oooBuffer}
      receiver.drain.1.expectedSeq := by
  induction receiver using drain.induct with
  | case1 receiver missing =>
      rw [drain, missing]
      exact ⟨⟨le_rfl, (Dict.get?_eq_none_iff _ _).mp missing⟩,
        fun seq member => member.1⟩
  | case2 receiver bufferedSegment found inductionHypothesis =>
      have buffered := Dict.mem_of_get? found
      have same : {seq | receiver.expectedSeq ≤ seq ∧
            seq ∉ receiver.oooBuffer} =
          {seq | receiver.expectedSeq + 1 ≤ seq ∧
            seq ∉ receiver.oooBuffer.del receiver.expectedSeq} := by
        ext seq
        simp only [Set.mem_ofPred_eq, Dict.mem_del, not_and]
        constructor
        · rintro ⟨lower, missing⟩
          have different : seq ≠ receiver.expectedSeq :=
            fun equal => missing (equal ▸ buffered)
          exact ⟨by omega, fun _ => missing⟩
        · rintro ⟨lower, missing⟩
          exact ⟨by omega, missing (by omega)⟩
      rw [drain, found, same]
      simpa [popExpected] using inductionHypothesis

/-- A receiver that waits for its expected segment acknowledges the first
number that is neither buffered nor the one of the segment. -/
theorem processSegment_isLeast
    {receiver : RUDPReceiver}
    (waiting : receiver.expectedSeq ∉ receiver.oooBuffer)
    (segment : RUDPPacket) :
    IsLeast {seq | receiver.expectedSeq ≤ seq ∧ seq ≠ segment.seqNum ∧
        seq ∉ receiver.oooBuffer}
      (receiver.processSegment segment).ackNum := by
  by_cases inOrder : segment.seqNum = receiver.expectedSeq
  · have received : (receiver.processSegment segment).ackNum =
        (receiver.takeInOrder segment).1.drain.1.expectedSeq := by
      simp only [processSegment, receiveSegment]
      rw [if_neg (by omega), if_neg (by
        simp only [inOrder, maxRwnd]
        omega), if_pos inOrder]
    have same : {seq | receiver.expectedSeq ≤ seq ∧ seq ≠ segment.seqNum ∧
          seq ∉ receiver.oooBuffer} =
        {seq | receiver.expectedSeq + 1 ≤ seq ∧
          seq ∉ receiver.oooBuffer} := by
      ext seq
      simp only [Set.mem_ofPred_eq, inOrder]
      constructor
      · rintro ⟨lower, different, missing⟩
        exact ⟨by omega, missing⟩
      · rintro ⟨lower, missing⟩
        exact ⟨by omega, by omega, missing⟩
    rw [received, same]
    simpa using drain_isLeast (receiver.takeInOrder segment).1
  · have unchanged : (receiver.processSegment segment).ackNum =
        receiver.expectedSeq := by
      simp only [processSegment, receiveSegment]
      split
      · rfl
      · split
        · rfl
        · split <;> rfl
    rw [unchanged]
    exact ⟨⟨le_rfl, fun equal => inOrder equal.symm, waiting⟩,
      fun seq member => member.1⟩

/-- After a segment some number below a limit is still missing. -/
def Lacks (receiver : RUDPReceiver) (limit : Int) (segment : RUDPPacket) :
    Prop :=
  ∃ seq, (receiver.expectedSeq ≤ seq ∧ seq ≠ segment.seqNum ∧
    seq ∉ receiver.oooBuffer) ∧ seq < limit

theorem lacks_new (segment : RUDPPacket) : new.Lacks (2 ^ 32) segment := by
  by_cases first : segment.seqNum = 0
  · exact ⟨1, ⟨by decide, by omega, by simp [new]⟩, by norm_num⟩
  · exact ⟨0, ⟨le_rfl, fun equal => first equal.symm, by simp [new]⟩,
      by norm_num⟩

/-- The acknowledgement of a segment packs exactly if a number is missing. -/
theorem Processed.packs_iff_lacks
    {receiver : RUDPReceiver} {count : Nat}
    (processed : receiver.Processed count) (segment : RUDPPacket) :
    (∃ datagram,
      (receiver.processSegment segment).ackPacket.pack = .ok datagram) ↔
      receiver.Lacks (2 ^ 32) segment := by
  have acknowledges := (processed.processSegment segment).2
  obtain ⟨segments, _, rfl⟩ := processed
  have settled := Run.settled_after segments
  have waiting : (Run.after segments).receiver.expectedSeq ∉
      (Run.after segments).receiver.oooBuffer := fun buffered =>
    settled.expectedSeq_not_mem ((settled.mem_oooBuffer_iff _).mp buffered).1
  have least := processSegment_isLeast waiting segment
  calc (∃ datagram, ((Run.after segments).receiver.processSegment
        segment).ackPacket.pack = .ok datagram)
      ↔ ((Run.after segments).receiver.processSegment segment).ackNum <
          2 ^ 32 := by
        constructor
        · intro packed
          exact ((RUDPPacket.exists_pack_iff _).mp packed).1.ackNum.2
        · intro numbered
          obtain ⟨datagram, _, packed, _⟩ :=
            acknowledges.packs_iff.mpr numbered
          exact ⟨datagram, packed⟩
    _ ↔ (Run.after segments).receiver.Lacks (2 ^ 32) segment :=
        isGLB_lt_iff least.isGLB

end RUDPReceiver

/-! ## One address -/

open RUDPServerTransport (Send)

/-- What the receive loop is to one address. -/
structure Peer where
  /-- The connection, if there is one. -/
  connection : Option Endpoint
  lastSeen : Option ℚ
  /-- The messages delivered for the address. -/
  delivered : List Bytes
  /-- The packets whose datagrams were sent to it. -/
  sent : List RUDPPacket
  running : Bool
  deriving DecidableEq

namespace Peer

open ServerLoop (Event)

/-- Before the address is heard of. -/
def start : Peer where
  connection := none
  lastSeen := none
  delivered := []
  sent := []
  running := true

/-- The engines: those of the connection, or new ones. -/
def endpoint (peer : Peer) : Endpoint := peer.connection.getD .new

/-- Record an operation on the connection. -/
def record (peer : Peer) (result : EndpointResult) : Peer :=
  { peer with
    connection := some result.endpoint
    delivered := peer.delivered ++ result.delivered
    sent := peer.sent ++ result.sent }

/-- A reply to the address. -/
def send (peer : Peer) (call : Send) : Peer :=
  peer.record (peer.endpoint.ofSender
    (peer.endpoint.sender.enqueueData call.data call.requestId
      call.currentTime))

/-- Send the acknowledgement a segment is owed. -/
def acknowledge (peer : Peer) (owed : Option RUDPPacket) : Peer :=
  match owed with
  | none => peer
  | some ackPacket =>
      match ackPacket.pack with
      | .error _ => { peer with running := false }
      | .ok _ => { peer with sent := peer.sent ++ [ackPacket] }

/-- A valid packet from the address. -/
def handlePacket
    (peer : Peer) (handler : MessageHandler) (packet : RUDPPacket)
    (addr : Address) (currentTime : ℚ) (clock : Nat → ℚ) : Peer :=
  let routed := peer.endpoint.route packet currentTime
  let seen := { peer with lastSeen := some currentTime }
  let calls :=
    replies handler addr clock peer.delivered routed.1.delivered
  (calls.foldl send (seen.record routed.1)).acknowledge routed.2

/-- A tick of the connection. -/
def tick (peer : Peer) (currentTime : ℚ) : Peer :=
  match peer.connection with
  | none => peer
  | some conn =>
      peer.record (conn.ofSender (conn.sender.checkTimeouts currentTime))

/-- One step of the address. -/
def next (handler : MessageHandler) (peer : Peer) (event : Event) : Peer :=
  if peer.running then
    match event with
    | .datagram data addr currentTime clock =>
        match RUDPPacket.unpack data with
        | .error _ => peer
        | .ok packet => peer.handlePacket handler packet addr currentTime clock
    | .tick currentTime => peer.tick currentTime
  else peer

/-- The receive loop of a transport with one peer. -/
def machine (handler : MessageHandler) : Machine Peer Event where
  start := start
  Enabled := fun _ _ => True
  next := next handler

end Peer

namespace ServerLoop

/-- The receive loop as one address sees it. -/
def forAddress (loop : ServerLoop) (address : Address) : Peer where
  connection := loop.transport.connections.get? address
  lastSeen := loop.lastSeen.get? address
  delivered := loop.messagesFrom address
  sent := (loop.sent.filter fun entry => entry.2 = address).map Prod.fst
  running := loop.running

/-- An event concerns an address unless it is the datagram of another one. -/
def Concerns (address : Address) : Event → Prop
  | .datagram _ addr _ _ => addr = address
  | .tick _ => True

instance (address : Address) : DecidablePred (Concerns address)
  | .datagram _ addr _ _ => inferInstanceAs (Decidable (addr = address))
  | .tick _ => .isTrue trivial

section Projection

variable (loop : ServerLoop) {address addr : Address}

theorem forAddress_record_store_self (result : EndpointResult) :
    (loop.record (loop.transport.store address result)).forAddress address =
      (loop.forAddress address).record result := by
  simp [forAddress, messagesFrom, record, Peer.record,
    RUDPServerTransport.store, List.filter_map, Function.comp_def]

theorem forAddress_record_store_of_ne (different : addr ≠ address)
    (result : EndpointResult) :
    (loop.record (loop.transport.store addr result)).forAddress address =
      loop.forAddress address := by
  simp [forAddress, messagesFrom, record, RUDPServerTransport.store,
    List.filter_map, Function.comp_def, different,
    Dict.get?_set_of_ne _ _ (Ne.symm different)]

/-- A reply is a reply to its own address. -/
theorem forAddress_send_self (call : Send) :
    (loop.send call).forAddress call.clientAddr =
      (loop.forAddress call.clientAddr).send call :=
  loop.forAddress_record_store_self _

theorem forAddress_send_of_ne {call : Send}
    (different : call.clientAddr ≠ address) :
    (loop.send call).forAddress address = loop.forAddress address :=
  loop.forAddress_record_store_of_ne different _

/-- Replies to the address, one after another. -/
theorem forAddress_foldl_send_self {calls : List Send}
    (own : ∀ call ∈ calls, call.clientAddr = address) :
    (calls.foldl send loop).forAddress address =
      calls.foldl Peer.send (loop.forAddress address) := by
  induction calls generalizing loop with
  | nil => rfl
  | cons call calls inductionHypothesis =>
      have here := own call (by simp)
      rw [List.foldl_cons, List.foldl_cons,
        inductionHypothesis _ fun later member => own later (by simp [member])]
      rw [← here, forAddress_send_self]

theorem forAddress_foldl_send_of_ne {calls : List Send}
    (foreign : ∀ call ∈ calls, call.clientAddr ≠ address) :
    (calls.foldl send loop).forAddress address = loop.forAddress address := by
  induction calls generalizing loop with
  | nil => rfl
  | cons call calls inductionHypothesis =>
      rw [List.foldl_cons,
        inductionHypothesis _ fun later member =>
          foreign later (by simp [member]),
        loop.forAddress_send_of_ne (foreign call (by simp))]

theorem forAddress_acknowledge_self (owed : Option RUDPPacket) :
    (loop.acknowledge owed address).forAddress address =
      (loop.forAddress address).acknowledge owed := by
  unfold acknowledge Peer.acknowledge
  cases owed with
  | none => rfl
  | some ackPacket =>
      simp only
      cases ackPacket.pack <;> simp [forAddress, messagesFrom]

/-- Elsewhere an acknowledgement shows only if it ends the loop. -/
theorem forAddress_acknowledge_of_ne (different : addr ≠ address)
    (owed : Option RUDPPacket) :
    (loop.acknowledge owed addr).forAddress address =
      { loop.forAddress address with
        running := (loop.acknowledge owed addr).running } := by
  unfold acknowledge
  cases owed with
  | none => rfl
  | some ackPacket =>
      simp only
      cases ackPacket.pack <;> simp [forAddress, messagesFrom, different]

theorem forAddress_seen_self (currentTime : ℚ) :
    ({ loop with
        lastSeen := loop.lastSeen.set address currentTime } :
      ServerLoop).forAddress address =
      { loop.forAddress address with lastSeen := some currentTime } := by
  simp [forAddress, messagesFrom]

theorem forAddress_seen_of_ne (different : addr ≠ address) (currentTime : ℚ) :
    ({ loop with
        lastSeen := loop.lastSeen.set addr currentTime } :
      ServerLoop).forAddress address = loop.forAddress address := by
  simp [forAddress, messagesFrom, Dict.get?_set_of_ne _ _ (Ne.symm different)]

/-- A packet of the address is handled as if the address were alone. -/
theorem forAddress_handlePacket_self
    (handler : MessageHandler) (packet : RUDPPacket) (currentTime : ℚ)
    (clock : Nat → ℚ) :
    (loop.handlePacket handler packet address currentTime clock).forAddress
        address =
      (loop.forAddress address).handlePacket handler packet address
        currentTime clock := by
  have taken := @forAddress_record_store_self
    { loop with lastSeen := loop.lastSeen.set address currentTime } address
    ((loop.transport.connection address).route packet currentTime).1
  rw [forAddress_seen_self] at taken
  rw [handlePacket, forAddress_acknowledge_self, forAddress_foldl_send_self]
  · rw [taken]
    rfl
  · intro call member
    exact clientAddr_of_mem_replies member

/-- A packet of another address shows only if it ends the loop. -/
theorem forAddress_handlePacket_of_ne (different : addr ≠ address)
    (handler : MessageHandler) (packet : RUDPPacket) (currentTime : ℚ)
    (clock : Nat → ℚ) :
    (loop.handlePacket handler packet addr currentTime clock).forAddress
        address =
      { loop.forAddress address with
        running :=
          (loop.handlePacket handler packet addr currentTime
            clock).running } := by
  have taken := forAddress_record_store_of_ne
    { loop with lastSeen := loop.lastSeen.set addr currentTime } different
    ((loop.transport.connection addr).route packet currentTime).1
  rw [forAddress_seen_of_ne loop different] at taken
  rw [handlePacket, forAddress_acknowledge_of_ne _ different,
    forAddress_foldl_send_of_ne]
  · rw [taken]
  · intro call member
    rw [clientAddr_of_mem_replies member]
    exact different

/-- A tick reaches the connection of the address, if there is one. -/
theorem forAddress_tickConnections (currentTime : ℚ) :
    (loop.record (loop.transport.tickConnections currentTime)).forAddress
        address = (loop.forAddress address).tick currentTime := by
  cases found : loop.transport.connections.get? address <;>
    simp [forAddress, messagesFrom, record, Peer.tick, Peer.record,
      RUDPServerTransport.tickConnections, Endpoint.ofSender,
      Dict.filter_collect, found]

/-- An event that concerns the address is its own step. -/
theorem forAddress_next_of_concerns
    (handler : MessageHandler) {event : Event}
    (concerns : Concerns address event) :
    (loop.next handler event).forAddress address =
      (loop.forAddress address).next handler event := by
  have same : (loop.forAddress address).running = loop.running := rfl
  unfold next Peer.next
  rw [same]
  split
  · cases event with
    | datagram data addr currentTime clock =>
        obtain rfl : addr = address := concerns
        simp only [handleDatagram]
        cases RUDPPacket.unpack data with
        | error error => rfl
        | ok packet =>
            exact loop.forAddress_handlePacket_self handler packet
              currentTime clock
    | tick currentTime => exact loop.forAddress_tickConnections currentTime
  · rfl

/-- Any other event shows only if it ends the loop. -/
theorem forAddress_next_of_not_concerns
    (handler : MessageHandler) {event : Event}
    (foreign : ¬ Concerns address event) :
    (loop.next handler event).forAddress address =
      { loop.forAddress address with
        running := (loop.next handler event).running } := by
  unfold next
  split
  · cases event with
    | datagram data addr currentTime clock =>
        have different : addr ≠ address := foreign
        simp only [handleDatagram]
        cases RUDPPacket.unpack data with
        | error error => rfl
        | ok packet =>
            exact loop.forAddress_handlePacket_of_ne different handler packet
              currentTime clock
    | tick currentTime => exact absurd trivial foreign
  · rfl

end Projection

/-! ## What ends the loop -/

section Ending

open RUDPServerTransport (Sound Steady)

theorem steady_route {count : Nat} {conn : Endpoint}
    (steady : Steady count conn) (packet : RUDPPacket) (currentTime : ℚ) :
    Steady (count + 1) (conn.route packet currentTime).1.endpoint := by
  obtain ⟨acked, _, ackedEq, widened⟩ :=
    steady.acknowledge?_eq packet currentTime
  simp only [Endpoint.route, ← ackedEq]
  split
  · exact ⟨widened, (steady.receiver.processSegment packet).1⟩
  · exact ⟨widened, steady.receiver.mono (Nat.le_succ count)⟩

@[simp] theorem acknowledge_transport
    (loop : ServerLoop) (owed : Option RUDPPacket) (addr : Address) :
    (loop.acknowledge owed addr).transport = loop.transport := by
  unfold acknowledge
  split
  · rfl
  · split <;> rfl

/-- One step keeps a sound transport, counting one more segment. -/
theorem sound_next {loop : ServerLoop} {count : Nat}
    (sound : Sound count loop.transport) (handler : MessageHandler)
    (event : Event) :
    Sound (count + 1) (loop.next handler event).transport := by
  have more := sound.mono (Nat.le_succ count)
  unfold next
  split
  · cases event with
    | datagram data addr currentTime clock =>
        simp only [handleDatagram]
        cases RUDPPacket.unpack data with
        | error error => exact more
        | ok packet =>
            simp only [handlePacket, acknowledge_transport, foldl_send]
            apply Sound.sendAll
            exact more.store addr
              (steady_route (sound.connection addr) packet currentTime)
    | tick currentTime => exact more.tickConnections currentTime
  · exact more

/-- In every run the transport stays sound, whatever further condition the
steps meet. -/
theorem sound_of_reachable {handler : MessageHandler}
    {Condition : ServerLoop → Event → Prop} {loop : ServerLoop}
    (reachable : ((machine handler).restrict Condition).Reachable loop) :
    ∃ count, Sound count loop.transport := by
  refine Machine.Reachable.invariant
    (fun loop => ∃ count, Sound count loop.transport) ?_ ?_ reachable
  · exact ⟨0, RUDPServerTransport.sound_new 0⟩
  · rintro loop event _ ⟨count, sound⟩ _
    exact ⟨count + 1, sound_next sound handler event⟩

theorem next_of_unpack {loop : ServerLoop} (running : loop.running = true)
    (handler : MessageHandler) {data : Bytes} {packet : RUDPPacket}
    (read : RUDPPacket.unpack data = .ok packet) (addr : Address)
    (currentTime : ℚ) (clock : Nat → ℚ) :
    loop.next handler (.datagram data addr currentTime clock) =
      loop.handlePacket handler packet addr currentTime clock := by
  simp only [next, running, if_true, handleDatagram, read]

/-- A packet ends the loop exactly if it carries data and no sequence number
is missing after it. -/
theorem running_handlePacket {loop : ServerLoop} {count : Nat}
    (sound : Sound count loop.transport) (running : loop.running = true)
    (handler : MessageHandler) (packet : RUDPPacket) (addr : Address)
    (currentTime : ℚ) (clock : Nat → ℚ) :
    (loop.handlePacket handler packet addr currentTime clock).running =
        true ↔
      (packet.hasData = true →
        (loop.transport.connection addr).receiver.Lacks (2 ^ 32) packet) := by
  have packs := (sound.connection addr).receiver.packs_iff_lacks packet
  simp only [handlePacket, foldl_send, Endpoint.route]
  cases packet.hasData with
  | false => simp [acknowledge, record, running]
  | true =>
      simp only [if_true, acknowledge, ← packs, true_implies]
      cases ((loop.transport.connection addr).receiver.processSegment
          packet).ackPacket.pack <;> simp [record, running]

end Ending

/-! ## Noninterference -/

/-- An event does not end the loop for an address: after a segment of another
one some sequence number is still missing at its connection. -/
def Spares (address : Address) (loop : ServerLoop) : Event → Prop
  | .datagram data addr _ _ => loop.running = true → addr ≠ address →
      ∀ packet, RUDPPacket.unpack data = .ok packet →
        packet.hasData = true →
        (loop.transport.connection addr).receiver.Lacks (2 ^ 32) packet
  | .tick _ => True

/-- An event that spares an address and does not concern it does not show. -/
theorem forAddress_next_of_spares
    {loop : ServerLoop} {count : Nat}
    (sound : RUDPServerTransport.Sound count loop.transport)
    (handler : MessageHandler) {address : Address} {event : Event}
    (spares : Spares address loop event)
    (foreign : ¬ Concerns address event) :
    (loop.next handler event).forAddress address =
      loop.forAddress address := by
  have kept : (loop.next handler event).running = loop.running := by
    cases event with
    | datagram data addr currentTime clock =>
        unfold next
        split
        · next running =>
            simp only [handleDatagram]
            cases read : RUDPPacket.unpack data with
            | error error => rfl
            | ok packet =>
                rw [running]
                exact (running_handlePacket sound running handler packet addr
                  currentTime clock).mpr (spares running foreign packet read)
        · rfl
    | tick currentTime => exact absurd trivial foreign
  rw [loop.forAddress_next_of_not_concerns handler foreign, kept]
  rfl

/-- Under that condition the receive loop has each address as a component. -/
theorem isComponent (handler : MessageHandler) (address : Address) :
    ((machine handler).restrict (Spares address)).Component
      (Peer.machine handler) (fun loop => loop.forAddress address)
      (Concerns address) where
  start := rfl
  concerned := fun loop _ concerns =>
    loop.forAddress_next_of_concerns handler concerns
  unconcerned := by
    intro loop event reachable enabled foreign
    obtain ⟨count, sound⟩ := sound_of_reachable reachable
    exact forAddress_next_of_spares sound handler enabled.2 foreign

/-- Peers are isolated in every run in which no datagram of another address
ends the loop: the connection of an address, the messages delivered for it and
the packets sent to it are those of the run without these datagrams. -/
theorem peers_isolated
    (handler : MessageHandler) (address : Address) {events : List Event}
    (spared : ((machine handler).restrict (Spares address)).Admits start
      events) :
    ((machine handler).exec start events).forAddress address =
      ((machine handler).exec start
        (events.filter fun event => Concerns address event)).forAddress
          address :=
  (isComponent handler address).noninterference spared

/-- A data packet without contents. -/
def numbered (seq : Nat) : RUDPPacket where
  seqNum := seq
  ackNum := 0
  flags := 0
  rwnd := 0
  msgId := some 0
  offset := some 0

/-- The arrival of a packet's datagram, at time zero. -/
def arrivalOf (packet : RUDPPacket) (addr : Address) : Event :=
  .datagram (packet.pack.toOption.getD []) addr 0 fun _ => 0

/-- A message handler that sends every message back. -/
def echo : MessageHandler := fun _ messages => [(messages.getLastD [], 7)]

/-- A one-byte message. -/
def oneByte : RUDPPacket :=
  { numbered 0 with flags := flagFin, payload := [1] }

/-- A second peer sends the same as the first.  The first one is sent the reply
and then the acknowledgement, as if it were alone. -/
theorem peers_isolated_echo :
    let run := (machine echo).exec start
      [arrivalOf oneByte ("10.0.0.2", 6000),
        arrivalOf oneByte ("10.0.0.1", 5000), .tick (1 / 20)]
    let peer := run.forAddress ("10.0.0.1", 5000)
    peer.delivered = [[1]] ∧
      peer.sent.map RUDPPacket.payload = [[1], []] := by
  intro run peer
  have spared :
      ((machine echo).restrict (Spares ("10.0.0.1", 5000))).Admits start
        [arrivalOf oneByte ("10.0.0.2", 6000),
          arrivalOf oneByte ("10.0.0.1", 5000), .tick (1 / 20)] :=
    ⟨⟨trivial, fun _ _ packet _ _ => RUDPReceiver.lacks_new packet⟩,
      ⟨trivial, fun _ different => absurd rfl different⟩,
      ⟨trivial, trivial⟩, trivial⟩
  have isolated : peer = _ := peers_isolated echo ("10.0.0.1", 5000) spared
  rw [isolated]
  decide +kernel

/-! ## A peer that ends the loop -/

/-- The arrival of a data packet without contents. -/
def arrival (addr : Address) (seq : Nat) : Event :=
  arrivalOf (numbered seq) addr

theorem unpack_numbered {seq : Nat} (numberFits : seq < 2 ^ 32) :
    ∃ checksum,
      RUDPPacket.unpack ((numbered seq).pack.toOption.getD []) =
        .ok ((numbered seq).withChecksum checksum) := by
  have onWire : (numbered seq).OnWire := by
    refine ⟨⟨⟨?_, ?_⟩, ?_, ?_, ?_⟩, .inl ?_⟩
    · exact Int.natCast_nonneg seq
    · simp only [numbered]
      exact_mod_cast numberFits
    · simp [numbered]
    · simp [numbered]
    · simp [numbered]
    · exact ⟨0, 0, rfl, rfl, by decide, by decide⟩
  obtain ⟨datagram, checksum, packed, read⟩ := onWire.packs
  rw [packed]
  exact ⟨checksum, read⟩

/-- A receiver that has taken so many segments and buffers none. -/
structure Taken (receiver : RUDPReceiver) (count : Nat) : Prop where
  expectedSeq : receiver.expectedSeq = count
  oooBuffer : receiver.oooBuffer = .empty

/-- The next segment is taken and nothing is delivered. -/
theorem Taken.processSegment {receiver : RUDPReceiver} {count : Nat}
    (taken : Taken receiver count) (checksum : Int) :
    Taken (receiver.processSegment
        ((numbered count).withChecksum checksum)).receiver (count + 1) ∧
      (receiver.processSegment
        ((numbered count).withChecksum checksum)).delivered = [] := by
  have inOrder : ((numbered count).withChecksum checksum).seqNum =
      receiver.expectedSeq := taken.expectedSeq.symm
  have unfinished : ((numbered count).withChecksum checksum).isFin = false :=
    rfl
  have nothing : (receiver.takeInOrder
      ((numbered count).withChecksum checksum)).1.oooBuffer.get?
        (receiver.takeInOrder
          ((numbered count).withChecksum checksum)).1.expectedSeq = none := by
    simp [taken.oooBuffer]
  have received : receiver.receiveSegment
      ((numbered count).withChecksum checksum) =
        receiver.takeInOrder ((numbered count).withChecksum checksum) := by
    simp only [RUDPReceiver.receiveSegment]
    rw [if_neg (by omega), if_neg (by
      simp only [inOrder, maxRwnd]
      omega), if_pos inOrder, RUDPReceiver.drain, nothing, List.append_nil]
  obtain ⟨_, _, updated⟩ :=
    RUDPReceiver.updateFlowControl_frame (receiver.takeInOrder
      ((numbered count).withChecksum checksum)).1
  simp only [RUDPReceiver.processSegment, received, updated]
  refine ⟨⟨?_, ?_⟩, ?_⟩
  · simp [taken.expectedSeq]
  · simp [taken.oooBuffer]
  · simp [RUDPReceiver.takeInOrder, unfinished]

/-- No number is missing only after the last one. -/
theorem Taken.lacks_iff {receiver : RUDPReceiver} {count : Nat}
    (taken : Taken receiver count) (checksum : Int) :
    receiver.Lacks (2 ^ 32) ((numbered count).withChecksum checksum) ↔
      count + 1 < 2 ^ 32 := by
  unfold RUDPReceiver.Lacks
  simp only [taken.expectedSeq, taken.oooBuffer, Dict.not_mem_empty,
    not_false_eq_true, and_true, RUDPPacket.seqNum_withChecksum, numbered]
  constructor
  · rintro ⟨seq, ⟨lower, different⟩, upper⟩
    omega
  · intro more
    exact ⟨count + 1, ⟨by omega, by omega⟩, by exact_mod_cast more⟩

/-- A loop whose peer has sent so many segments. -/
structure Exhausting (addr : Address) (loop : ServerLoop) (count : Nat) :
    Prop where
  sound : ∃ bound, RUDPServerTransport.Sound bound loop.transport
  taken : Taken (loop.transport.connection addr).receiver count

theorem exhausting_start (addr : Address) : Exhausting addr start 0 where
  sound := ⟨0, RUDPServerTransport.sound_new 0⟩
  taken := ⟨rfl, rfl⟩

/-- The next segment is taken, and the loop goes on unless it is the last. -/
theorem Exhausting.next {addr : Address} {loop : ServerLoop} {count : Nat}
    (exhausting : Exhausting addr loop count) (running : loop.running = true)
    (fits : count < 2 ^ 32) (handler : MessageHandler) :
    Exhausting addr (loop.next handler (arrival addr count)) (count + 1) ∧
      ((loop.next handler (arrival addr count)).running = true ↔
        count + 1 < 2 ^ 32) := by
  obtain ⟨bound, sound⟩ := exhausting.sound
  obtain ⟨checksum, read⟩ := unpack_numbered fits
  obtain ⟨taken, nothing⟩ := exhausting.taken.processSegment checksum
  have step : loop.next handler (arrival addr count) =
      loop.handlePacket handler ((numbered count).withChecksum checksum) addr
        0 fun _ => 0 :=
    next_of_unpack running handler read addr 0 fun _ => 0
  have hasData : ((numbered count).withChecksum checksum).hasData = true :=
    rfl
  refine ⟨⟨⟨bound + 1, sound_next sound handler _⟩, ?_⟩, ?_⟩
  · rw [step]
    simp only [handlePacket, acknowledge_transport, foldl_send,
      Endpoint.route, hasData, if_true, nothing]
    simpa [replies, answers, RUDPServerTransport.sendAll, record,
      RUDPServerTransport.store, RUDPServerTransport.connection] using taken
  · rw [step, running_handlePacket sound running]
    simp only [hasData, true_implies]
    exact exhausting.taken.lacks_iff checksum

/-- The first segments of a peer, in order. -/
def firstSegments (addr : Address) (count : Nat) : List Event :=
  (List.range count).map (arrival addr)

theorem firstSegments_succ (addr : Address) (count : Nat) :
    firstSegments addr (count + 1) =
      firstSegments addr count ++ [arrival addr count] := by
  simp [firstSegments, List.range_succ]

/-- The loop takes them as long as there are numbers left. -/
theorem exhausting_firstSegments (handler : MessageHandler) (addr : Address)
    {count : Nat} (fits : count < 2 ^ 32) :
    Exhausting addr
        ((machine handler).exec start (firstSegments addr count)) count ∧
      ((machine handler).exec start
        (firstSegments addr count)).running = true := by
  induction count with
  | zero => exact ⟨exhausting_start addr, rfl⟩
  | succ count inductionHypothesis =>
      obtain ⟨exhausting, running⟩ := inductionHypothesis (by omega)
      rw [firstSegments_succ, Machine.exec_append_singleton]
      obtain ⟨later, runs⟩ :=
        exhausting.next running (by omega) handler
      exact ⟨later, runs.mpr fits⟩

/-- All of them end it. -/
theorem stopped_after_firstSegments
    (handler : MessageHandler) (addr : Address) :
    ((machine handler).exec start
      (firstSegments addr (2 ^ 32))).running = false := by
  obtain ⟨count, last⟩ : ∃ count, 2 ^ 32 = count + 1 :=
    ⟨2 ^ 32 - 1, by norm_num⟩
  have fits : count < 2 ^ 32 := by omega
  obtain ⟨exhausting, running⟩ := exhausting_firstSegments handler addr fits
  have ends := (exhausting.next running (by omega) handler).2
  rw [last, firstSegments_succ, Machine.exec_append_singleton]
  rw [← last] at ends
  exact Bool.eq_false_iff.mpr fun runs => absurd (ends.mp runs) (by simp)

/-- Events that do not concern an address leave its connection alone. -/
theorem connection_exec_of_forall_not_concerns
    (handler : MessageHandler) (address : Address) {events : List Event}
    (foreign : ∀ event ∈ events, ¬ Concerns address event)
    (loop : ServerLoop) :
    (((machine handler).exec loop events).forAddress address).connection =
      (loop.forAddress address).connection := by
  induction events using List.reverseRecOn with
  | nil => rfl
  | append_singleton events event inductionHypothesis =>
      have before := inductionHypothesis fun earlier member =>
        foreign earlier (by simp [member])
      have last := forAddress_next_of_not_concerns
        ((machine handler).exec loop events) handler (foreign event (by simp))
      rw [Machine.exec_append_singleton, ← before]
      change Peer.connection (forAddress (next _ _ _) _) = _
      rw [last]

theorem not_concerns_of_mem_firstSegments
    {addr address : Address} (different : addr ≠ address) {count : Nat}
    {event : Event} (member : event ∈ firstSegments addr count) :
    ¬ Concerns address event := by
  obtain ⟨seq, _, rfl⟩ := List.mem_map.mp member
  exact different

theorem concerns_of_mem_firstSegments
    {address : Address} {count : Nat} {event : Event}
    (member : event ∈ firstSegments address count) :
    Concerns address event := by
  obtain ⟨seq, _, rfl⟩ := List.mem_map.mp member
  exact rfl

/-- Nothing is handled after the loop has ended. -/
theorem exec_of_stopped (handler : MessageHandler) {loop : ServerLoop}
    (stopped : loop.running = false) (events : List Event) :
    (machine handler).exec loop events = loop := by
  induction events with
  | nil => rfl
  | cons event events inductionHypothesis =>
      have step : (machine handler).next loop event = loop :=
        if_neg (by simp [stopped])
      rw [Machine.exec, List.foldl_cons, step]
      exact inductionHypothesis

/-- What is left of two peers' segments without those of the first. -/
theorem filter_firstSegments {addr address : Address}
    (different : addr ≠ address) (count later : Nat) :
    ((firstSegments addr count ++ firstSegments address later).filter
      fun event => Concerns address event) = firstSegments address later := by
  rw [List.filter_append, List.filter_eq_nil_iff.mpr, List.filter_eq_self.mpr,
    List.nil_append]
  · intro event member
    exact decide_eq_true (concerns_of_mem_firstSegments member)
  · intro event member
    simpa using not_concerns_of_mem_firstSegments different member

/-- Segments of an address that arrive after another peer's segments have ended
the loop are not taken. -/
theorem connection_after_stopped
    (handler : MessageHandler) {addr address : Address}
    (different : addr ≠ address) {count : Nat}
    (stopped : ((machine handler).exec start
      (firstSegments addr count)).running = false) (later : Nat) :
    (((machine handler).exec start (firstSegments addr count ++
      firstSegments address later)).forAddress address).connection = none := by
  rw [Machine.exec, List.foldl_append]
  change (((machine handler).exec ((machine handler).exec start
    (firstSegments addr count)) _).forAddress address).connection = none
  rw [exec_of_stopped handler stopped]
  exact connection_exec_of_forall_not_concerns handler address
    (fun event member => not_concerns_of_mem_firstSegments different member)
    start

/-- Without those segments they are taken. -/
theorem expectedSeq_after_filter
    (handler : MessageHandler) {addr address : Address}
    (different : addr ≠ address) (count : Nat) {later : Nat}
    (fits : later < 2 ^ 32) :
    (((machine handler).exec start
      ((firstSegments addr count ++ firstSegments address later).filter
        fun event => Concerns address event)).forAddress
          address).endpoint.receiver.expectedSeq = later := by
  rw [filter_firstSegments different]
  exact (exhausting_firstSegments handler address fits).1.taken.expectedSeq

/-- Another peer uses up its sequence numbers, which ends the loop.  The first
segment of the address is not taken any more. -/
theorem firstSegment_lost :
    let events := firstSegments ("10.0.0.2", 6000) (2 ^ 32) ++
      firstSegments ("10.0.0.1", 5000) 1
    let run := fun events =>
      ((machine fun _ _ => []).exec start events).forAddress
        ("10.0.0.1", 5000)
    (run events).connection = none ∧
      (run (events.filter fun event =>
        Concerns ("10.0.0.1", 5000) event)).endpoint.receiver.expectedSeq =
          1 := by
  have different : (("10.0.0.2", 6000) : Address) ≠ ("10.0.0.1", 5000) := by
    decide
  have lost := connection_after_stopped (fun _ _ => []) different
    (stopped_after_firstSegments _ _) 1
  have fits : 1 < 2 ^ 32 := by norm_num
  have taken :=
    expectedSeq_after_filter (fun _ _ => []) different (2 ^ 32) fits
  rw [Nat.cast_one] at taken
  refine ⟨lost, ?_⟩
  beta_reduce
  exact taken

end ServerLoop

end RudpAgentStack

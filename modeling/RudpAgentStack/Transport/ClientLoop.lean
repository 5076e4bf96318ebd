import RudpAgentStack.Rudp.RoundTripTime
import RudpAgentStack.Transport.SessionSafety

/-!
# The client's receive loop and its clock

An iteration of `_receive_loop` reads the clock, waits for a datagram,
processes it under the time read before the wait, and ends with a tick under a
reading of its own.  The application sends at any moment and stamps what it
sends with a reading of its own, so a segment sent during the wait may carry a
later time than its acknowledgement.  These are the late segments; the samples
are non-negative exactly as long as none of them is acknowledged in the
iteration it was sent in.
-/

namespace RudpAgentStack

open Foundation

/-- Where the loop stands in an iteration: before `time.time()`, in
`recv`, or before `check_timeouts`. -/
inductive LoopPhase
  | top
  | receiving
  | ticking
  deriving DecidableEq

/-- A client with its receive loop and its peer. -/
structure ClientLoop where
  client : Party
  peer : Party
  /-- The last reading of the client's clock. -/
  clock : ℚ
  phase : LoopPhase
  /-- `current_time` of the loop. -/
  currentTime : ℚ
  /-- The segments `send` has transmitted since `current_time` was read, under a
  later reading. -/
  late : List Int

namespace ClientLoop

/-- What can happen. -/
inductive Action
  | readClock (time : ℚ)
  | send (data : Bytes) (requestId : Int) (time : ℚ)
  | receive (datagram : Bytes)
  /-- Nothing arrives, or what arrives is dropped. -/
  | timeout
  | tick (time : ℚ)
  | peerSend (data : Bytes) (requestId : Int) (time : ℚ)
  | peerReceive (datagram : Bytes) (time : ℚ)
  | peerTick (time : ℚ)

/-- The client's sender. -/
abbrev sender (loop : ClientLoop) : RUDPSender := loop.client.endpoint.sender

/-- One step. -/
def next (loop : ClientLoop) : Action → ClientLoop
  | .readClock time =>
      { loop with
        phase := .receiving, clock := time, currentTime := time, late := [] }
  | .send data requestId time =>
      let result :=
        RUDPClientTransport.send loop.client.endpoint data requestId time
      { loop with
        client := loop.client.after [(data, requestId)] result
        clock := time
        late :=
          if loop.currentTime < time then
            loop.late ++ result.sent.map RUDPPacket.seqNum
          else loop.late }
  | .receive datagram =>
      { loop with
        phase := .ticking
        client := loop.client.after []
          (RUDPClientTransport.receiveDatagram loop.client.endpoint datagram
            loop.currentTime) }
  | .timeout => { loop with phase := .ticking }
  | .tick time =>
      { loop with
        phase := .top
        clock := time
        client := loop.client.after []
          (RUDPClientTransport.tick loop.client.endpoint time) }
  | .peerSend data requestId time =>
      { loop with
        peer := loop.peer.after [(data, requestId)]
          (loop.peer.endpoint.ofSender
            (loop.peer.endpoint.sender.enqueueData data requestId time)) }
  | .peerReceive datagram time =>
      { loop with
        peer := loop.peer.after []
          (loop.peer.endpoint.handleDatagram datagram time) }
  | .peerTick time =>
      { loop with
        peer := loop.peer.after []
          (loop.peer.endpoint.ofSender
            (loop.peer.endpoint.sender.checkTimeouts time)) }

/-- Runs of a new client with a new peer over a network that forges nothing,
under a clock that does not go back. -/
def machine (startTime : ℚ) : Machine ClientLoop Action where
  start :=
    { client := .new
      peer := .new
      clock := startTime
      phase := .top
      currentTime := startTime
      late := [] }
  Enabled := fun loop action =>
    match action with
    | .readClock time => loop.phase = .top ∧ loop.clock ≤ time
    | .send _ _ time => loop.clock ≤ time
    | .receive datagram => loop.phase = .receiving ∧
        InFlight loop.peer.history.packets datagram
    | .timeout => loop.phase = .receiving
    | .tick time => loop.phase = .ticking ∧ loop.clock ≤ time
    | .peerReceive datagram _ => InFlight loop.client.history.packets datagram
    | _ => True
  next := next

instance (startTime : ℚ) : ∀ (loop : ClientLoop) (action : Action),
    Decidable ((machine startTime).Enabled loop action)
  | loop, .readClock time =>
      inferInstanceAs (Decidable (loop.phase = .top ∧ loop.clock ≤ time))
  | loop, .send _ _ time => inferInstanceAs (Decidable (loop.clock ≤ time))
  | loop, .receive datagram =>
      inferInstanceAs (Decidable (loop.phase = .receiving ∧
        InFlight loop.peer.history.packets datagram))
  | loop, .timeout => inferInstanceAs (Decidable (loop.phase = .receiving))
  | loop, .tick time =>
      inferInstanceAs (Decidable (loop.phase = .ticking ∧ loop.clock ≤ time))
  | _, .peerSend _ _ _ => .isTrue trivial
  | loop, .peerReceive datagram _ =>
      inferInstanceAs (Decidable (InFlight loop.client.history.packets datagram))
  | _, .peerTick _ => .isTrue trivial

/-! ## Samples -/

/-- The call of the client's sender in a step. -/
def senderCall (loop : ClientLoop) : Action → Option RUDPSender.Call
  | .send data requestId time => some (.enqueueData data requestId time)
  | .receive datagram =>
      match RUDPPacket.unpack datagram with
      | .error _ => none
      | .ok packet =>
          if packet.isAck then
            some (.onAckReceived packet.ackNum packet.rwnd loop.currentTime)
          else none
  | .tick time => some (.checkTimeouts time)
  | _ => none

/-- A step makes its call on the sender or leaves it alone. -/
theorem sender_next (loop : ClientLoop) (action : Action) :
    (loop.next action).sender =
      match loop.senderCall action with
      | none => loop.sender
      | some call => (loop.sender.perform call).1 := by
  cases action with
  | readClock time => rfl
  | send data requestId time => rfl
  | timeout => rfl
  | tick time => rfl
  | peerSend data requestId time => rfl
  | peerReceive datagram time => rfl
  | peerTick time => rfl
  | receive datagram =>
      simp only [next, sender, Party.after, senderCall,
        RUDPClientTransport.receiveDatagram, Endpoint.handleDatagram]
      cases RUDPPacket.unpack datagram with
      | error error => rfl
      | ok packet =>
          simp only [Endpoint.demultiplex]
          by_cases isAck : packet.isAck = true
          · simp only [isAck, if_true]
            split <;> rfl
          · simp only [isAck]
            split <;> rfl

/-- The sample a step takes. -/
def sample? (loop : ClientLoop) (action : Action) : Option ℚ :=
  (loop.senderCall action).bind loop.sender.callSample?

/-- A step newly acknowledges, as its highest segment, a late one. -/
def AcksLate (loop : ClientLoop) (action : Action) : Prop :=
  ∃ ackNum rwnd,
    loop.senderCall action =
      some (.onAckReceived ackNum rwnd loop.currentTime) ∧
    loop.sender.base < ackNum ∧ ackNum - 1 ∈ loop.late

/-- The estimate, once there is one, is not negative. -/
def EstimateNonneg (loop : ClientLoop) : Prop :=
  ∀ estimate, loop.sender.rtt = some estimate →
    0 ≤ estimate.srtt ∧ 0 ≤ estimate.rttvar

/-- The calls the client makes on its sender: sends and ticks under times of
their own, acknowledgements under the `current_time` of the loop. -/
theorem senderCall_cases {loop : ClientLoop} {action : Action}
    {call : RUDPSender.Call}
    (called : loop.senderCall action = some call) :
    (∃ data requestId time, action = .send data requestId time ∧
        call = .enqueueData data requestId time) ∨
      (∃ datagram ackNum rwnd, action = .receive datagram ∧
        call = .onAckReceived ackNum rwnd loop.currentTime) ∨
      ∃ time, action = .tick time ∧ call = .checkTimeouts time := by
  cases action with
  | send data requestId time =>
      exact .inl ⟨data, requestId, time, rfl, (Option.some.inj called).symm⟩
  | receive datagram =>
      simp only [senderCall] at called
      split at called
      · exact absurd called (by simp)
      · split at called
        · exact .inr (.inl ⟨datagram, _, _, rfl,
            (Option.some.inj called).symm⟩)
        · exact absurd called (by simp)
  | tick time =>
      exact .inr (.inr ⟨time, rfl, (Option.some.inj called).symm⟩)
  | readClock time => exact absurd called (by simp [senderCall])
  | timeout => exact absurd called (by simp [senderCall])
  | peerSend data requestId time => exact absurd called (by simp [senderCall])
  | peerReceive datagram time => exact absurd called (by simp [senderCall])
  | peerTick time => exact absurd called (by simp [senderCall])

/-- Acknowledgements are processed by the loop, under its `current_time`. -/
theorem receive_of_onAckReceived {loop : ClientLoop} {action : Action}
    {ackNum rwnd : Int} {time : ℚ}
    (called : loop.senderCall action =
      some (.onAckReceived ackNum rwnd time)) :
    (∃ datagram, action = .receive datagram) ∧ time = loop.currentTime := by
  rcases senderCall_cases called with ⟨_, _, _, _, ⟨⟩⟩ |
    ⟨datagram, _, _, received, same⟩ | ⟨_, _, ⟨⟩⟩
  cases same
  exact ⟨⟨datagram, received⟩, rfl⟩

/-! ## The invariant -/

variable {loop : ClientLoop}

/-- While the loop waits, the late segments still in flight are those sent
after `current_time` for the first time, and everything else was sent by
then. -/
structure Polls (loop : ClientLoop) : Prop where
  below : ∀ seq ∈ loop.late, seq < loop.sender.nextUnsent
  late : ∀ seq packetInfo,
    loop.sender.unackedPackets.get? seq = some packetInfo →
    seq ∈ loop.late →
    packetInfo.isRetransmitted = false ∧
      loop.currentTime < packetInfo.sentTime
  onTime : ∀ seq packetInfo,
    loop.sender.unackedPackets.get? seq = some packetInfo →
    seq ∉ loop.late → packetInfo.sentTime ≤ loop.currentTime

/-- Client and peer are joined, and no time on record is ahead of the
clock. -/
structure Clocked (loop : ClientLoop) : Prop where
  joined : ∃ outward inward, Joined loop.client loop.peer outward inward
  current : loop.currentTime ≤ loop.clock
  stamped : ∀ seq packetInfo,
    loop.sender.unackedPackets.get? seq = some packetInfo →
    packetInfo.sentTime ≤ loop.clock
  polls : loop.phase = .receiving → Polls loop

/-- The window of the client's sender starts at `base`. -/
theorem Clocked.exists_window (clocked : Clocked loop) :
    ∃ messages, RUDPSender.Window loop.sender messages loop.sender.base := by
  obtain ⟨outward, inward, joined⟩ := clocked.joined
  have window := (Link.agrees_of_reachable joined.outward).consistent.window
  rw [joined.near.sender] at window
  exact ⟨_, window⟩

/-- Sending while the loop waits. -/
theorem Polls.send (polls : Polls loop) {messages : List (Bytes × Int)}
    {low : Int} (window : RUDPSender.Window loop.sender messages low)
    (data : Bytes) (requestId : Int) (time : ℚ) :
    Polls (loop.next (.send data requestId time)) := by
  have moved := (window.enqueueData data requestId time).2
  have records := RUDPSender.get?_enqueueData loop.sender data requestId time
  have above := window.nextUnsent_le_enqueued data requestId time
  have fresh : ∀ seq, seq ∈ (loop.sender.enqueueData data requestId
      time).2.map RUDPPacket.seqNum → loop.sender.nextUnsent ≤ seq := by
    intro seq listed
    obtain ⟨packet, handed, rfl⟩ := List.mem_map.mp listed
    exact above packet handed
  by_cases later : loop.currentTime < time
  · -- what is transmitted now is late
    have late : (loop.next (.send data requestId time)).late =
        loop.late ++ (loop.sender.enqueueData data requestId time).2.map
          RUDPPacket.seqNum := if_pos later
    refine ⟨?_, ?_, ?_⟩
    · intro seq member
      rw [late, List.mem_append] at member
      rcases member with earlier | now
      · exact (polls.below seq earlier).trans_le moved.mono
      · obtain ⟨packet, handed, rfl⟩ := List.mem_map.mp now
        exact (moved.segment packet handed).2.1
    · intro seq packetInfo found member
      rw [late, List.mem_append] at member
      rcases records seq packetInfo found with
        ⟨_, stamped, original⟩ | ⟨absent, old⟩
      · exact ⟨original, stamped ▸ later⟩
      · exact polls.late seq packetInfo old
          (member.resolve_right absent)
    · intro seq packetInfo found member
      rw [late, List.mem_append, not_or] at member
      rcases records seq packetInfo found with ⟨listed, _⟩ | ⟨_, old⟩
      · exact absurd listed member.2
      · exact polls.onTime seq packetInfo old member.1
  · have late : (loop.next (.send data requestId time)).late = loop.late :=
      if_neg later
    refine ⟨?_, ?_, ?_⟩
    · intro seq member
      rw [late] at member
      exact (polls.below seq member).trans_le moved.mono
    · intro seq packetInfo found member
      rw [late] at member
      rcases records seq packetInfo found with ⟨listed, _⟩ | ⟨_, old⟩
      · have := polls.below seq member
        have := fresh seq listed
        omega
      · exact polls.late seq packetInfo old member
    · intro seq packetInfo found member
      rw [late] at member
      rcases records seq packetInfo found with ⟨_, stamped, _⟩ | ⟨_, old⟩
      · exact stamped.le.trans (not_lt.mp later)
      · exact polls.onTime seq packetInfo old member

/-- The clock runs forwards. -/
theorem clock_le_next
    {action : Action} {startTime : ℚ}
    (enabled : (machine startTime).Enabled loop action) :
    loop.clock ≤ (loop.next action).clock := by
  cases action with
  | readClock time => exact enabled.2
  | send data requestId time => exact enabled
  | tick time => exact enabled.2
  | receive datagram => exact le_rfl
  | timeout => exact le_rfl
  | peerSend data requestId time => exact le_rfl
  | peerReceive datagram time => exact le_rfl
  | peerTick time => exact le_rfl

/-- A step calls the sender with a time that its clock has reached. -/
theorem Clocked.time_senderCall_le (clocked : Clocked loop)
    {action : Action} {call : RUDPSender.Call}
    (called : loop.senderCall action = some call) :
    call.time ≤ (loop.next action).clock := by
  obtain ⟨data, requestId, time, rfl, rfl⟩ | ⟨datagram, ackNum, rwnd, rfl, rfl⟩ |
    ⟨time, rfl, rfl⟩ := senderCall_cases called
  · exact le_rfl
  · exact clocked.current
  · exact le_rfl

/-- A step stamps nothing ahead of the clock it leaves. -/
theorem Clocked.stamped_next (clocked : Clocked loop) {action : Action}
    {startTime : ℚ} (enabled : (machine startTime).Enabled loop action)
    (seq : Int) (packetInfo : UnackedPacket)
    (found : (loop.next action).sender.unackedPackets.get? seq =
      some packetInfo) :
    packetInfo.sentTime ≤ (loop.next action).clock := by
  have clock := clock_le_next enabled
  rw [sender_next] at found
  split at found
  · exact (clocked.stamped seq packetInfo found).trans clock
  · next call called =>
      rcases RUDPSender.get?_perform found with old | stamped
      · exact (clocked.stamped seq packetInfo old).trans clock
      · exact stamped.le.trans (clocked.time_senderCall_le called)

/-- Step lemma: client and peer stay joined. -/
theorem joined_next
    (joined : ∃ outward inward, Joined loop.client loop.peer outward inward)
    {action : Action} {startTime : ℚ}
    (enabled : (machine startTime).Enabled loop action) :
    ∃ outward inward, Joined (loop.next action).client
      (loop.next action).peer outward inward := by
  obtain ⟨outward, inward, joined⟩ := joined
  cases action with
  | readClock time => exact ⟨_, _, joined⟩
  | timeout => exact ⟨_, _, joined⟩
  | send data requestId time => exact ⟨_, _, joined.send data requestId time⟩
  | receive datagram => exact joined.receive enabled.2 loop.currentTime
  | tick time => exact ⟨_, _, joined.tick time⟩
  | peerSend data requestId time =>
      exact ⟨_, _, (joined.symm.send data requestId time).symm⟩
  | peerReceive datagram time =>
      obtain ⟨inward', outward', received⟩ :=
        joined.symm.receive enabled time
      exact ⟨_, _, received.symm⟩
  | peerTick time => exact ⟨_, _, (joined.symm.tick time).symm⟩

/-- Step lemma: every step keeps the invariant. -/
theorem Clocked.next (clocked : Clocked loop) {action : Action}
    {startTime : ℚ} (enabled : (machine startTime).Enabled loop action) :
    Clocked (loop.next action) := by
  have clock := clock_le_next enabled
  have stamped := clocked.stamped_next enabled
  have joined := joined_next clocked.joined enabled
  cases action with
  | readClock time =>
      refine ⟨joined, le_rfl, stamped, fun _ => ⟨by simp [ClientLoop.next],
        by simp [ClientLoop.next], ?_⟩⟩
      intro seq packetInfo found _
      exact stamped seq packetInfo found
  | send data requestId time =>
      refine ⟨joined, clocked.current.trans enabled, stamped, ?_⟩
      intro receiving
      obtain ⟨messages, window⟩ := clocked.exists_window
      exact (clocked.polls receiving).send window data requestId time
  | receive datagram =>
      exact ⟨joined, clocked.current, stamped,
        fun receiving => absurd receiving (by simp [ClientLoop.next])⟩
  | timeout =>
      exact ⟨joined, clocked.current, stamped,
        fun receiving => absurd receiving (by simp [ClientLoop.next])⟩
  | tick time =>
      exact ⟨joined, clocked.current.trans enabled.2, stamped,
        fun receiving => absurd receiving (by simp [ClientLoop.next])⟩
  | peerSend data requestId time =>
      exact ⟨joined, clocked.current, stamped, fun receiving =>
        { clocked.polls receiving with }⟩
  | peerReceive datagram time =>
      exact ⟨joined, clocked.current, stamped, fun receiving =>
        { clocked.polls receiving with }⟩
  | peerTick time =>
      exact ⟨joined, clocked.current, stamped, fun receiving =>
        { clocked.polls receiving with }⟩

/-- Run lemma: the invariant holds in every reachable state. -/
theorem clocked_of_reachable {startTime : ℚ}
    (reachable : (machine startTime).Reachable loop) : Clocked loop := by
  refine Machine.Reachable.invariant Clocked ?_ ?_ reachable
  · exact
      { joined := ⟨_, _, Joined.start⟩
        current := le_rfl
        stamped := by
          simp [machine, sender, Party.new, Endpoint.new, RUDPSender.new]
        polls := by simp [machine] }
  · intro loop action _ clocked enabled
    exact clocked.next enabled

/-! ## Samples over runs -/

/-- A step takes no negative sample exactly when it acknowledges no late
segment. -/
theorem Clocked.sample_nonneg_iff (clocked : Clocked loop) {action : Action}
    {startTime : ℚ} (enabled : (machine startTime).Enabled loop action) :
    (∀ sample, loop.sample? action = some sample → 0 ≤ sample) ↔
      ¬ loop.AcksLate action := by
  constructor
  · rintro nonneg ⟨ackNum, rwnd, called, newer, member⟩
    obtain ⟨⟨datagram, rfl⟩, _⟩ := receive_of_onAckReceived called
    have polls := clocked.polls enabled.1
    obtain ⟨messages, window⟩ := clocked.exists_window
    have present : ackNum - 1 ∈ loop.sender.unackedPackets := by
      have := polls.below _ member
      exact (window.mem_unacked _).mpr ⟨by omega, this⟩
    obtain ⟨packetInfo, found⟩ := (Dict.mem_iff_exists_get? _ _).mp present
    obtain ⟨original, later⟩ := polls.late _ _ found member
    have sampled : loop.sample? (.receive datagram) =
        some (loop.currentTime - packetInfo.sentTime) := by
      rw [sample?, called, Option.bind_some, RUDPSender.callSample?,
        if_pos newer, RUDPSender.sample?_eq_some_iff]
      exact ⟨packetInfo, found, original, rfl⟩
    have := nonneg _ sampled
    linarith
  · intro onTime sample sampled
    obtain ⟨call, called, taken⟩ := Option.bind_eq_some_iff.mp sampled
    obtain ⟨ackNum, rwnd, time, rfl, newer, highest⟩ :=
      RUDPSender.of_callSample? taken
    obtain ⟨⟨datagram, rfl⟩, rfl⟩ := receive_of_onAckReceived called
    obtain ⟨packetInfo, found, _, rfl⟩ :=
      (RUDPSender.sample?_eq_some_iff _ _ _ _).mp highest
    have sent := (clocked.polls enabled.1).onTime _ _ found
      fun member => onTime ⟨ackNum, rwnd, called, newer, member⟩
    linarith

/-- A non-negative sample keeps the estimate non-negative. -/
theorem update_nonneg {rtt : Option RttEstimate} {sample : ℚ}
    (nonneg : ∀ estimate, rtt = some estimate →
      0 ≤ estimate.srtt ∧ 0 ≤ estimate.rttvar)
    (sampled : 0 ≤ sample) :
    0 ≤ (RttEstimate.update rtt sample).srtt ∧
      0 ≤ (RttEstimate.update rtt sample).rttvar := by
  cases rtt with
  | none => exact ⟨sampled, div_nonneg sampled (by norm_num)⟩
  | some estimate =>
      obtain ⟨srtt, rttvar⟩ := nonneg estimate rfl
      have deviation := abs_nonneg (estimate.srtt - sample)
      simp only [RttEstimate.update, alpha, beta]
      constructor
      · linarith
      · linarith

/-- Step lemma: a step without a negative sample keeps the estimate
non-negative. -/
theorem EstimateNonneg.next (estimated : EstimateNonneg loop)
    {action : Action}
    (nonneg : ∀ sample, loop.sample? action = some sample → 0 ≤ sample) :
    EstimateNonneg (loop.next action) := by
  intro estimate present
  rw [sender_next] at present
  split at present
  · exact estimated estimate present
  · next call called =>
      cases taken : loop.sender.callSample? call with
      | some sample =>
          have sampled : loop.sample? action = some sample := by
            rw [sample?, called, Option.bind_some, taken]
          have updated := congrArg Timing.rtt
            (RUDPSender.timing_perform_of_sample taken)
          change _ = some _ at updated
          obtain rfl := Option.some.inj (present.symm.trans updated)
          exact update_nonneg estimated (nonneg sample sampled)
      | none =>
          have kept : (loop.sender.perform call).1.rtt = loop.sender.rtt := by
            rcases RUDPSender.timing_perform_of_none taken with same | doubled
            · exact congrArg Timing.rtt same
            · exact congrArg Timing.rtt doubled
          exact estimated estimate (kept ▸ present)

/-- A condition on the steps of a list of actions. -/
def AtEveryStep (startTime : ℚ) (Condition : ClientLoop → Action → Prop)
    (actions : List Action) : Prop :=
  ∀ earlier action, earlier ++ [action] <+: actions →
    Condition ((machine startTime).exec (machine startTime).start earlier)
      action

/-- The application sends after the loop has read its clock, and the
acknowledgement arrives in the same iteration. -/
def sentDuringWait : List Action :=
  [.readClock 0,
    .send [1] 7 1,
    .peerReceive
      [0, 0, 0, 0, 0, 0, 0, 0, 4, 0, 0, 244, 254, 0, 0, 0, 7, 0, 0, 0, 0, 1] 1,
    .receive [0, 0, 0, 0, 0, 0, 0, 1, 2, 0, 64, 189, 254]]

/-- The sample of its last step, and the estimate after it, are negative. -/
theorem sentDuringWait_negative :
    (machine 0).Admits (machine 0).start sentDuringWait ∧
      ((machine 0).exec (machine 0).start (sentDuringWait.take 3)).sample?
        (.receive [0, 0, 0, 0, 0, 0, 0, 1, 2, 0, 64, 189, 254]) =
          some (-1) ∧
      ((machine 0).exec (machine 0).start sentDuringWait).sender.rtt =
        some { srtt := -1, rttvar := -1 / 2 } := by
  decide +kernel

/-- In every run of a client with a correct peer, no sample is negative, and so
the estimate is not, exactly when no acknowledgement arrives for a segment that
was sent for the first time since the loop read `current_time`, under a later
reading of the clock. -/
theorem samples_nonneg_iff {startTime : ℚ} {actions : List Action}
    (admitted : (machine startTime).Admits (machine startTime).start
      actions) :
    (AtEveryStep startTime (fun loop action =>
        ∀ sample, loop.sample? action = some sample → 0 ≤ sample) actions ∧
      ∀ earlier, earlier <+: actions → EstimateNonneg
        ((machine startTime).exec (machine startTime).start earlier)) ↔
      AtEveryStep startTime (fun loop action => ¬ loop.AcksLate action)
        actions := by
  have step : ∀ earlier action, earlier ++ [action] <+: actions →
      (machine startTime).Enabled
          ((machine startTime).exec (machine startTime).start earlier) action ∧
        Clocked
          ((machine startTime).exec (machine startTime).start earlier) := by
    rintro earlier action ⟨later, rfl⟩
    obtain ⟨before, enabled⟩ := (machine startTime).admits_append_singleton.mp
      ((machine startTime).admits_of_append admitted)
    exact ⟨enabled, clocked_of_reachable (.exec .start before)⟩
  constructor
  · rintro ⟨nonneg, _⟩ earlier action isPrefix
    obtain ⟨enabled, clocked⟩ := step earlier action isPrefix
    exact (clocked.sample_nonneg_iff enabled).mp
      (nonneg earlier action isPrefix)
  · intro onTime
    have nonneg : AtEveryStep startTime (fun loop action =>
        ∀ sample, loop.sample? action = some sample → 0 ≤ sample)
        actions := by
      intro earlier action isPrefix
      obtain ⟨enabled, clocked⟩ := step earlier action isPrefix
      exact (clocked.sample_nonneg_iff enabled).mpr
        (onTime earlier action isPrefix)
    refine ⟨nonneg, fun earlier => ?_⟩
    induction earlier using List.reverseRecOn with
    | nil =>
        intro _ estimate present
        exact absurd present (by simp [Machine.exec, machine, sender,
          Party.new, Endpoint.new, RUDPSender.new])
    | append_singleton earlier action inductionHypothesis =>
        intro isPrefix
        rw [Machine.exec_append_singleton]
        exact (inductionHypothesis
          ((List.prefix_append _ _).trans isPrefix)).next
            (nonneg earlier action isPrefix)

theorem samples_nonneg_iff_sentDuringWait :
    (AtEveryStep 0 (fun loop action =>
        ∀ sample, loop.sample? action = some sample → 0 ≤ sample)
        sentDuringWait ∧
      ∀ earlier, earlier <+: sentDuringWait → EstimateNonneg
        ((machine 0).exec (machine 0).start earlier)) ↔
      AtEveryStep 0 (fun loop action => ¬ loop.AcksLate action)
        sentDuringWait :=
  samples_nonneg_iff (by decide +kernel)

end ClientLoop

end RudpAgentStack

import RudpAgentStack.Rudp.SequenceSpace
import RudpAgentStack.Transport.Raising

/-!
# No datagram ends the receive loop

The congestion window of a sender never falls below one segment, so nothing is
divided by zero, and a receiver never expects a number above the count of
segments it has processed, so every acknowledgement packs while fewer than
`2 ^ 32` datagrams have arrived.  Both hold of every connection of a transport,
whatever bytes arrive from whatever addresses.
-/

namespace RudpAgentStack

open Foundation

namespace RUDPSender

variable {sender : RUDPSender}

/-! ## Removing what is acknowledged -/

/-- Taking one entry out of an unacked map takes its payload out. -/
theorem payloadBytes_del
    {unacked : Dict Int UnackedPacket} {seq : Int} {packetInfo : UnackedPacket}
    (found : unacked.get? seq = some packetInfo) :
    payloadBytes (unacked.del seq) =
      payloadBytes unacked - packetInfo.packet.payload.length := by
  have parts := payloadBytes_filter_add unacked fun key => decide (key = seq)
  have single : payloadBytes
      (unacked.filter fun key _ => decide (key = seq)) =
        packetInfo.packet.payload.length := by
    simp only [payloadBytes, Dict.filter, Dict.entries_filter_key found]
    simp
  have rest : (unacked.filter fun key _ => !decide (key = seq)) =
      unacked.del seq := by
    simp [Dict.del]
  rw [single, rest] at parts
  omega

/-- The loop of `on_ack_received` over present, distinct keys raises nothing
and removes them all. -/
theorem removeKeys_eq
    {seqs : List Int} (distinct : seqs.Nodup) (sender : RUDPSender)
    (present : ∀ seq ∈ seqs, seq ∈ sender.unackedPackets) :
    sender.removeKeys seqs = .ok { sender with
      inflightBytes := sender.inflightBytes -
        payloadBytes (sender.unackedPackets.filter fun seq _ =>
          decide (seq ∈ seqs))
      unackedPackets := sender.unackedPackets.filter fun seq _ =>
        !decide (seq ∈ seqs) } := by
  induction seqs generalizing sender with
  | nil =>
      have nothing : payloadBytes (sender.unackedPackets.filter
          fun seq _ => decide (seq ∈ ([] : List Int))) = 0 := by
        simp [payloadBytes, Dict.filter]
      rw [nothing]
      simp [removeKeys, Dict.filter]
  | cons seq rest inductionHypothesis =>
      obtain ⟨fresh, distinct⟩ := List.nodup_cons.mp distinct
      obtain ⟨packetInfo, found⟩ :=
        (sender.unackedPackets.mem_iff_exists_get? seq).mp
          (present seq List.mem_cons_self)
      have remaining : ∀ other ∈ rest,
          other ∈ sender.unackedPackets.del seq := by
        intro other member
        refine (Dict.mem_del _ _ _).mpr
          ⟨?_, present other (List.mem_cons_of_mem _ member)⟩
        rintro rfl
        exact fresh member
      have kept : ∀ other : Int, (decide (other ≠ seq) &&
          !decide (other ∈ rest)) = !decide (other ∈ seq :: rest) := by
        intro other
        by_cases same : other = seq <;> simp [same]
      have removed : ∀ other : Int, (decide (other ∈ seq :: rest) &&
          decide (other ≠ seq)) = (decide (other ≠ seq) &&
            decide (other ∈ rest)) := by
        intro other
        by_cases same : other = seq <;> simp [same]
      have inRemoved : (sender.unackedPackets.filter fun other _ =>
          decide (other ∈ seq :: rest)).get? seq = some packetInfo := by
        simp [found]
      have bytes := payloadBytes_del inRemoved
      simp only [Dict.del, Dict.filter_filter, removed] at bytes
      rw [removeKeys, found]
      simp only
      rw [inductionHypothesis distinct _ remaining]
      simp only [Dict.del, Dict.filter_filter, kept, bytes]
      congr 2
      ring

/-- The loop of `on_ack_received` removes what the plain operation removes. -/
theorem removeKeys_eq_removeAcked (sender : RUDPSender) (ackNum : Int) :
    sender.removeKeys
        (sender.unackedPackets.keys.filter fun seq => decide (seq < ackNum)) =
      .ok (sender.removeAcked ackNum) := by
  have distinct : (sender.unackedPackets.keys.filter fun seq =>
      decide (seq < ackNum)).Nodup := sender.unackedPackets.nodup.filter _
  have present : ∀ seq ∈ sender.unackedPackets.keys.filter fun seq =>
      decide (seq < ackNum), seq ∈ sender.unackedPackets :=
    fun seq member => (List.mem_filter.mp member).1
  have acked : ∀ entry ∈ sender.unackedPackets.entries,
      decide (entry.1 ∈ sender.unackedPackets.keys.filter fun seq =>
        decide (seq < ackNum)) = decide (entry.1 < ackNum) := by
    intro entry member
    have key : entry.1 ∈ sender.unackedPackets.keys :=
      List.mem_map_of_mem member
    simp [List.mem_filter, key]
  have takenOut : (sender.unackedPackets.filter fun seq _ =>
      decide (seq ∈ sender.unackedPackets.keys.filter fun seq =>
        decide (seq < ackNum))) =
      sender.unackedPackets.filter fun seq _ => decide (seq < ackNum) := by
    simp only [Dict.filter, Dict.mk.injEq]
    exact List.filter_congr acked
  have left : (sender.unackedPackets.filter fun seq _ =>
      !decide (seq ∈ sender.unackedPackets.keys.filter fun seq =>
        decide (seq < ackNum))) =
      sender.unackedPackets.filter fun seq _ => !decide (seq < ackNum) := by
    simp only [Dict.filter, Dict.mk.injEq]
    apply List.filter_congr
    intro entry member
    rw [acked entry member]
  rw [removeKeys_eq distinct sender present, takenOut, left]
  rfl

/-- The highest acknowledged key is found exactly when it is unacked. -/
theorem sampleRtt?_eq
    (sender : RUDPSender) (ackNum : Int) (currentTime : ℚ) :
    sender.sampleRtt?
        (sender.unackedPackets.keys.filter fun seq => decide (seq < ackNum))
        (ackNum - 1) currentTime =
      .ok (sender.sampleRtt (ackNum - 1) currentTime) := by
  unfold sampleRtt?
  split
  · next listed =>
      obtain ⟨packetInfo, found⟩ :=
        (sender.unackedPackets.mem_iff_exists_get? _).mp
          (List.mem_filter.mp listed).1
      rw [found]
  · next unlisted =>
      have absent : ackNum - 1 ∉ sender.unackedPackets := by
        intro present
        exact unlisted (List.mem_filter.mpr ⟨present, by simp⟩)
      rw [sampleRtt, (sender.unackedPackets.get?_eq_none_iff _).mpr absent]

/-- While the congestion window is not zero, a new acknowledgement raises
nothing. -/
theorem onNewAck?_eq
    (widened : sender.cwnd ≠ 0) (ackNum : Int) (currentTime : ℚ) :
    sender.onNewAck? ackNum currentTime =
      .ok (sender.onNewAck ackNum currentTime) := by
  have sampled := sampleRtt?_eq { sender with
    base := ackNum
    dupAckCount := 0
    lastAckReceived := ackNum } ackNum currentTime
  obtain ⟨rtt, rto, frame⟩ := sampleRtt_frame { sender with
    base := ackNum
    dupAckCount := 0
    lastAckReceived := ackNum } (ackNum - 1) currentTime
  have removed := removeKeys_eq_removeAcked { sender with
    base := ackNum
    dupAckCount := 0
    lastAckReceived := ackNum
    rtt := rtt
    rto := rto } ackNum
  simp only at sampled removed
  simp only [onNewAck?, onNewAck, sampled, frame, growCwnd?]
  have defined : ¬ ((RUDPSender.removeAcked { sender with
      base := ackNum
      dupAckCount := 0
      lastAckReceived := ackNum
      rtt := rtt
      rto := rto } ackNum).ccState = .avoidance ∧
      (RUDPSender.removeAcked { sender with
        base := ackNum
        dupAckCount := 0
        lastAckReceived := ackNum
        rtt := rtt
        rto := rto } ackNum).cwnd = 0) := fun divides => widened divides.2
  simp only [bind, Except.bind, removed, if_neg defined]
  rfl

/-- While the congestion window is not zero, no acknowledgement raises
anything. -/
theorem onAckReceived?_eq
    (widened : sender.cwnd ≠ 0) (ackNum rwnd : Int) (currentTime : ℚ) :
    sender.onAckReceived? ackNum rwnd currentTime =
      .ok (sender.onAckReceived ackNum rwnd currentTime) := by
  simp only [onAckReceived?, onAckReceived]
  split
  · apply onNewAck?_eq
    exact widened
  · split <;> rfl

/-! ## The congestion window -/

/-- The congestion window and its threshold hold a segment. -/
structure Widened (sender : RUDPSender) : Prop where
  cwnd : (mss : ℚ) ≤ sender.cwnd
  ssthresh : (mss : ℚ) ≤ sender.ssthresh

theorem widened_new (windowSize : Int) : Widened (new windowSize) where
  cwnd := by norm_num [new, initialCwnd]
  ssthresh := by norm_num [new, initialSsthresh, mss]

namespace Widened

theorem cwnd_ne_zero (widened : Widened sender) : sender.cwnd ≠ 0 :=
  (mss_cast_pos.trans_le widened.cwnd).ne'

theorem trySend (widened : Widened sender) (currentTime : ℚ) :
    Widened (sender.trySend currentTime).1 := by
  obtain ⟨_, _, _, _, equal⟩ := sender.trySend_frame currentTime
  rw [equal]
  exact ⟨widened.cwnd, widened.ssthresh⟩

theorem enqueueData (widened : Widened sender)
    (data : Bytes) (msgId : Int) (currentTime : ℚ) :
    Widened (sender.enqueueData data msgId currentTime).1 := by
  unfold RUDPSender.enqueueData
  apply trySend
  exact ⟨widened.cwnd, widened.ssthresh⟩

theorem growCwnd (widened : Widened sender) : Widened sender.growCwnd := by
  have segment := mss_cast_pos
  have current := widened.cwnd
  unfold RUDPSender.growCwnd
  split
  · exact { widened with cwnd := by simp only; linarith }
  · have increment : 0 ≤ (mss * mss : ℚ) / sender.cwnd :=
      div_nonneg (by positivity) (by linarith)
    exact { widened with cwnd := by simp only; linarith }
  · exact { widened with cwnd := widened.ssthresh }

theorem onNewAck (widened : Widened sender)
    (ackNum : Int) (currentTime : ℚ) :
    Widened (sender.onNewAck ackNum currentTime).1 := by
  rw [onNewAck_eq, afterNewAck]
  obtain ⟨_, _, sampled⟩ := sampleRtt_frame
    { sender with
      base := ackNum
      dupAckCount := 0
      lastAckReceived := ackNum } (ackNum - 1) currentTime
  rw [sampled]
  apply trySend
  apply growCwnd
  exact ⟨widened.cwnd, widened.ssthresh⟩

/-- The threshold after a loss leaves room for two segments. -/
theorem mss_le_halved (cwnd : ℚ) : (mss : ℚ) ≤ max (cwnd / 2) (2 * mss) := by
  have segment := mss_cast_pos
  exact le_trans (by linarith) (le_max_right _ _)

theorem enterFastRecovery (sender : RUDPSender) :
    Widened sender.enterFastRecovery := by
  have segment := mss_cast_pos
  have threshold := mss_le_halved sender.cwnd
  refine ⟨?_, threshold⟩
  simp only [RUDPSender.enterFastRecovery]
  linarith

theorem fastRetransmit (widened : Widened sender) (currentTime : ℚ) :
    Widened (sender.fastRetransmit currentTime).1 := by
  unfold RUDPSender.fastRetransmit
  split
  · exact widened
  · exact ⟨widened.cwnd, widened.ssthresh⟩

theorem onDuplicateAck (widened : Widened sender) (currentTime : ℚ) :
    Widened (sender.onDuplicateAck currentTime).1 := by
  have segment := mss_cast_pos
  have current := widened.cwnd
  simp only [RUDPSender.onDuplicateAck]
  split
  · apply fastRetransmit
    exact enterFastRecovery _
  · split
    · apply trySend
      exact { widened with cwnd := by simp only; linarith }
    · exact ⟨widened.cwnd, widened.ssthresh⟩

theorem onAckReceived (widened : Widened sender)
    (ackNum rwnd : Int) (currentTime : ℚ) :
    Widened (sender.onAckReceived ackNum rwnd currentTime).1 := by
  simp only [RUDPSender.onAckReceived]
  split
  · apply onNewAck
    exact ⟨widened.cwnd, widened.ssthresh⟩
  · split
    · apply onDuplicateAck
      exact ⟨widened.cwnd, widened.ssthresh⟩
    · exact ⟨widened.cwnd, widened.ssthresh⟩

theorem checkTimeouts (widened : Widened sender) (currentTime : ℚ) :
    Widened (sender.checkTimeouts currentTime).1 := by
  unfold RUDPSender.checkTimeouts
  split
  · exact widened
  · split
    · exact ⟨le_rfl, mss_le_halved sender.cwnd⟩
    · exact widened

end Widened

end RUDPSender

/-! ## The receiver -/

namespace RUDPReceiver

/-- No more segments are accepted than were processed. -/
theorem Run.size_accepted_le (segments : List RUDPPacket) :
    (Run.after segments).accepted.size ≤ segments.length := by
  induction segments using List.reverseRecOn with
  | nil => exact le_rfl
  | append_singleton segments segment inductionHypothesis =>
      rw [Run.after_append_singleton, List.length_append, List.length_singleton]
      have grown := (Run.after segments).accepted.size_set_le segment.seqNum
        segment
      simp only [Run.next, Run.accept]
      split <;> omega

/-- The expected number is at most the count of segments processed. -/
theorem Run.expectedSeq_le (segments : List RUDPPacket) :
    (Run.after segments).receiver.expectedSeq ≤ segments.length := by
  have settled := Run.settled_after segments
  have accepted := Run.size_accepted_le segments
  have taken := Dict.card_le_size_of_mem
    (Finset.Ico 0 (Run.after segments).receiver.expectedSeq)
    (fun seq member => settled.tracks.below seq (Finset.mem_Ico.mp member).1
      (Finset.mem_Ico.mp member).2)
  rw [Int.card_Ico] at taken
  omega

/-- A receiver that has processed at most so many segments. -/
def Processed (receiver : RUDPReceiver) (count : Nat) : Prop :=
  ∃ segments, segments.length ≤ count ∧
    receiver = (Run.after segments).receiver

theorem processed_new (count : Nat) : new.Processed count :=
  ⟨[], Nat.zero_le _, rfl⟩

namespace Processed

variable {receiver : RUDPReceiver} {count : Nat}

theorem mono (processed : receiver.Processed count) {later : Nat}
    (more : count ≤ later) : receiver.Processed later := by
  obtain ⟨segments, counted, rfl⟩ := processed
  exact ⟨segments, counted.trans more, rfl⟩

/-- One more segment, and the number its acknowledgement carries. -/
theorem processSegment (processed : receiver.Processed count)
    (segment : RUDPPacket) :
    (receiver.processSegment segment).receiver.Processed (count + 1) ∧
      Link.Acknowledges (receiver.processSegment segment).ackPacket
        (count + 1) := by
  obtain ⟨segments, counted, rfl⟩ := processed
  have settled := Run.settled_after segments
  have stepped := Run.after_append_singleton segments segment
  have later : (Run.after (segments ++ [segment])).receiver =
      ((Run.after segments).receiver.processSegment segment).receiver := by
    rw [stepped]
    rfl
  have bound := Run.expectedSeq_le (segments ++ [segment])
  have nonneg := (Run.settled_after
    (segments ++ [segment])).tracks.expectedSeq_nonneg
  obtain ⟨ackNum, _, flags⟩ :=
    (Run.after segments).receiver.processSegment_ack segment
  rw [later] at bound nonneg
  rw [List.length_append, List.length_singleton] at bound
  refine ⟨⟨segments ++ [segment], by simpa using counted, later.symm⟩, ?_⟩
  exact
    { seqNum := rfl
      ackNum_nonneg := by rw [← ackNum] at nonneg; exact nonneg
      ackNum_le := by
        rw [← ackNum] at bound
        simp only [ReceiverResult.ackPacket]
        omega
      flags := flags
      rwnd := (settled.advertised segment).2
      ackOnly := ⟨rfl, rfl, rfl⟩ }

end Processed

end RUDPReceiver

/-! ## The transport -/

namespace RUDPServerTransport

/-- A connection that has processed at most so many segments. -/
structure Steady (count : Nat) (conn : Endpoint) : Prop where
  sender : RUDPSender.Widened conn.sender
  receiver : conn.receiver.Processed count

theorem steady_new (count : Nat) : Steady count .new where
  sender := RUDPSender.widened_new _
  receiver := RUDPReceiver.processed_new count

namespace Steady

variable {conn : Endpoint} {count : Nat}

/-- The acknowledgement of a segment packs below the limit. -/
theorem ackPacket_pack (steady : Steady count conn)
    (few : count + 1 < 2 ^ 32) (segment : RUDPPacket) :
    ∃ datagram,
      (conn.receiver.processSegment segment).ackPacket.pack = .ok datagram := by
  have acknowledges := (steady.receiver.processSegment segment).2
  have bound := acknowledges.ackNum_le
  obtain ⟨datagram, _, packed, _⟩ := acknowledges.packs_iff.mpr (by omega)
  exact ⟨datagram, packed⟩

/-- An acknowledgement raises nothing and keeps the sender's window. -/
theorem acknowledge?_eq (steady : Steady count conn)
    (packet : RUDPPacket) (currentTime : ℚ) :
    ∃ acked, conn.acknowledge? packet currentTime = .ok acked ∧
      acked = (if packet.isAck then
        conn.sender.onAckReceived packet.ackNum packet.rwnd currentTime
      else (conn.sender, [])) ∧
      RUDPSender.Widened acked.1 := by
  unfold Endpoint.acknowledge?
  split
  · exact ⟨_, RUDPSender.onAckReceived?_eq steady.sender.cwnd_ne_zero _ _ _,
      rfl, steady.sender.onAckReceived _ _ _⟩
  · exact ⟨_, rfl, rfl, steady.sender⟩

end Steady

/-- Every connection has processed at most so many segments. -/
def Sound (count : Nat) (transport : RUDPServerTransport) : Prop :=
  ∀ addr conn, transport.connections.get? addr = some conn →
    Steady count conn

theorem sound_new (count : Nat) : Sound count .new := by
  intro addr conn found
  simp [RUDPServerTransport.new] at found

namespace Sound

variable {transport : RUDPServerTransport} {count : Nat}

theorem mono (sound : Sound count transport) {later : Nat}
    (more : count ≤ later) : Sound later transport := by
  intro addr conn found
  have steady := sound addr conn found
  exact ⟨steady.sender, steady.receiver.mono more⟩

theorem connection (sound : Sound count transport) (addr : Address) :
    Steady count (transport.connection addr) := by
  unfold RUDPServerTransport.connection
  cases found : transport.connections.get? addr with
  | none => exact steady_new count
  | some conn => exact sound addr conn found

theorem store (sound : Sound count transport) (addr : Address)
    {result : EndpointResult} (steady : Steady count result.endpoint) :
    Sound count (transport.store addr result).transport := by
  intro other conn found
  simp only [RUDPServerTransport.store, Dict.get?_set] at found
  split at found
  · obtain rfl := Option.some.inj found
    exact steady
  · exact sound other conn found

theorem send (sound : Sound count transport) (call : Send) :
    Sound count (transport.send call.data call.requestId call.clientAddr
      call.currentTime).transport := by
  have steady := sound.connection call.clientAddr
  apply sound.store
  exact ⟨steady.sender.enqueueData _ _ _, steady.receiver⟩

theorem sendAll (sound : Sound count transport) (calls : List Send) :
    Sound count (RUDPServerTransport.sendAll calls transport).1 := by
  induction calls generalizing transport with
  | nil => exact sound
  | cons call rest inductionHypothesis =>
      exact inductionHypothesis (sound.send call)

theorem tickConnections (sound : Sound count transport) (currentTime : ℚ) :
    Sound count (transport.tickConnections currentTime).transport := by
  intro addr conn found
  simp only [RUDPServerTransport.tickConnections, Dict.get?_mapValues,
    Option.map_eq_some_iff] at found
  obtain ⟨earlier, stored, rfl⟩ := found
  have steady := sound addr earlier stored
  exact ⟨steady.sender.checkTimeouts currentTime, steady.receiver⟩

/-- What a packet does to a sound transport while fewer than `2 ^ 32`
datagrams have arrived. -/
theorem handlePacket (sound : Sound count transport)
    (few : count + 1 < 2 ^ 32) {data : Bytes} {packet : RUDPPacket}
    (read : RUDPPacket.unpack data = .ok packet) (addr : Address)
    (currentTime : ℚ) (replies : List (List Send)) :
    ∃ result,
      transport.handleDatagram? data addr currentTime replies = .ok result ∧
      Sound (count + 1) result.transport := by
  have steady := sound.connection addr
  obtain ⟨acked, returned, _, widened⟩ :=
    steady.acknowledge?_eq packet currentTime
  simp only [handleDatagram?, read, returned, bind, Except.bind]
  split
  · obtain ⟨datagram, packed⟩ := steady.ackPacket_pack few packet
    rw [packed]
    refine ⟨_, rfl, ?_⟩
    apply Sound.sendAll
    exact (sound.mono (Nat.le_succ count)).store addr
      ⟨widened, (steady.receiver.processSegment packet).1⟩
  · refine ⟨_, rfl, ?_⟩
    exact (sound.mono (Nat.le_succ count)).store addr
      ⟨widened, steady.receiver.mono (Nat.le_succ count)⟩

end Sound

/-- A datagram that does not unpack is dropped: no exception of `unpack` is a
`struct.error`. -/
theorem handleDatagram?_of_rejected
    {data : Bytes} {error : PacketError}
    (rejected : RUDPPacket.unpack data = .error error)
    (transport : RUDPServerTransport) (addr : Address) (currentTime : ℚ)
    (replies : List (List Send)) :
    transport.handleDatagram? data addr currentTime replies =
      .ok { transport := transport, sent := [], delivered := [] } := by
  unfold handleDatagram?
  rw [rejected]
  cases error with
  | structError =>
      exact absurd rejected (RUDPPacket.unpack_ne_structError data)
  | valueError message => rfl
  | checksumError message => rfl

/-- While fewer than `2 ^ 32` datagrams have arrived, the operation is the one
without exceptions: here for a message handler that sends nothing. -/
theorem Sound.handleDatagram?_eq
    {transport : RUDPServerTransport} {count : Nat}
    (sound : Sound count transport) (few : count + 1 < 2 ^ 32)
    (data : Bytes) (addr : Address) (currentTime : ℚ) :
    transport.handleDatagram? data addr currentTime [] =
      .ok (transport.handleDatagram data addr currentTime) := by
  cases read : RUDPPacket.unpack data with
  | error error =>
      rw [handleDatagram?_of_rejected read]
      simp only [handleDatagram, read]
  | ok packet =>
      have steady := sound.connection addr
      obtain ⟨acked, returned, same, _⟩ :=
        steady.acknowledge?_eq packet currentTime
      simp only [handleDatagram?, handleDatagram, read, returned, bind,
        Except.bind, Endpoint.demultiplex, ← same]
      split
      · obtain ⟨datagram, packed⟩ := steady.ackPacket_pack few packet
        rw [packed]
        simp [RUDPServerTransport.sendAll, RUDPServerTransport.store]
      · rfl

/-- One call keeps a transport sound, counting its datagram. -/
theorem Sound.perform
    {transport : RUDPServerTransport} {count : Nat}
    (sound : Sound count transport) (call : Call)
    (few : count + datagramCount [call] < 2 ^ 32) :
    ∃ later, call.perform transport = .ok later ∧
      Sound (count + datagramCount [call]) later := by
  cases call with
  | handleDatagram data addr currentTime replies =>
      have counted : datagramCount
          [.handleDatagram data addr currentTime replies] = 1 := rfl
      rw [counted] at few ⊢
      simp only [Call.perform, bind, Except.bind]
      cases read : RUDPPacket.unpack data with
      | error error =>
          rw [handleDatagram?_of_rejected read]
          exact ⟨_, rfl, sound.mono (Nat.le_succ count)⟩
      | ok packet =>
          obtain ⟨result, returned, later⟩ :=
            sound.handlePacket few read addr currentTime replies
          rw [returned]
          exact ⟨_, rfl, later⟩
  | send call => exact ⟨_, rfl, sound.send call⟩
  | tickConnections currentTime =>
      exact ⟨_, rfl, sound.tickConnections currentTime⟩

/-- Fewer than `2 ^ 32` datagrams among any calls leave a sound transport. -/
theorem sound_after (calls : List Call)
    (few : datagramCount calls < 2 ^ 32) :
    ∃ transport, after calls = .ok transport ∧
      Sound (datagramCount calls) transport := by
  induction calls using List.reverseRecOn with
  | nil =>
      exact ⟨.new, rfl, sound_new _⟩
  | append_singleton calls call inductionHypothesis =>
      have counted : datagramCount (calls ++ [call]) =
          datagramCount calls + datagramCount [call] :=
        List.countP_append
      rw [counted] at few ⊢
      obtain ⟨transport, returned, sound⟩ := inductionHypothesis (by omega)
      obtain ⟨later, performed, sound'⟩ := sound.perform call few
      refine ⟨later, ?_, sound'⟩
      rw [after, List.foldlM_append]
      rw [after] at returned
      simp [returned, performed, bind, Except.bind, pure, Except.pure]

/-- No datagram ends the receive loop.  After any calls of a new transport with
fewer than `2 ^ 32` datagrams among them, counting the one that follows, no
exception has left `_handle_datagram` and none leaves it now, and a byte string
that does not unpack leaves the transport as it is, sends nothing and delivers
nothing. -/
theorem handleDatagram?_returns
    (calls : List Call) (data : Bytes) (addr : Address) (currentTime : ℚ)
    (replies : List (List Send))
    (few : datagramCount calls + 1 < 2 ^ 32) :
    ∃ transport result, after calls = .ok transport ∧
      transport.handleDatagram? data addr currentTime replies = .ok result ∧
      ∀ error, RUDPPacket.unpack data = .error error →
        result = { transport := transport, sent := [], delivered := [] } := by
  obtain ⟨transport, returned, sound⟩ := sound_after calls (by omega)
  cases read : RUDPPacket.unpack data with
  | error error =>
      exact ⟨transport, _, returned,
        handleDatagram?_of_rejected read transport addr currentTime replies,
        fun _ _ => rfl⟩
  | ok packet =>
      obtain ⟨result, handled, _⟩ :=
        sound.handlePacket few read addr currentTime replies
      refine ⟨transport, result, returned, handled, ?_⟩
      intro error rejected
      cases rejected

/-- A data packet with all flags and the largest numbers, after a send, a tick
and a datagram that does not unpack. -/
theorem handleDatagram?_returns_sample :
    let data := List.replicate 11 0xFF ++ [0] ++ List.replicate 9 0xFF
    ∃ transport result,
      after
          [.send ⟨[1], 7, ("10.0.0.1", 5000), 0⟩, .tickConnections 1,
            .handleDatagram [0xFF] ("10.0.0.1", 5000) 2 []] = .ok transport ∧
      transport.handleDatagram? data ("10.0.0.2", 6000) 3 [] = .ok result ∧
      ∀ error, RUDPPacket.unpack data = .error error →
        result = { transport := transport, sent := [], delivered := [] } :=
  handleDatagram?_returns _ _ _ _ _ (by decide)

end RUDPServerTransport

end RudpAgentStack

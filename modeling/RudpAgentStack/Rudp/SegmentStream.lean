import RudpAgentStack.Common.RudpSender
import RudpAgentStack.Rudp.WireFormat

/-!
# The segment stream of a sender

`enqueue_data` cuts each message into packets and numbers them consecutively
over the whole life of the sender.  The stream of a list of messages is the
list of all these packets.  The packet at position `k` carries sequence number
`k`, and reassembling the stream by its FIN flags gives the messages back.
-/

namespace RudpAgentStack

open Foundation

namespace RUDPPacket

/-- What reassembly sees of a packet: its payload and its FIN flag. -/
def segment (packet : RUDPPacket) : Segment UInt8 :=
  (packet.payload, packet.isFin)

@[simp] theorem segment_withChecksum (packet : RUDPPacket) (checksum : Int) :
    (packet.withChecksum checksum).segment = packet.segment := rfl

/-- The shape `enqueue_data` gives to every packet. -/
structure IsEnqueued (packet : RUDPPacket) : Prop where
  ackNum : packet.ackNum = 0
  flags : packet.flags = flagFin ∨ packet.flags = 0
  rwnd : packet.rwnd = 0
  fields : ∃ msgId offset, packet.msgId = some msgId ∧
    packet.offset = some offset
  payload : packet.payload.length ≤ mss

theorem IsEnqueued.hasWireShape
    {packet : RUDPPacket} (enqueued : packet.IsEnqueued) :
    packet.HasWireShape := .inl enqueued.fields

theorem IsEnqueued.isAck
    {packet : RUDPPacket} (enqueued : packet.IsEnqueued) :
    packet.isAck = false := by
  rcases enqueued.flags with final | inner
  · rw [RUDPPacket.isAck, final]
    decide
  · rw [RUDPPacket.isAck, inner]
    decide

theorem IsEnqueued.hasData
    {packet : RUDPPacket} (enqueued : packet.IsEnqueued) :
    packet.hasData = true := by
  obtain ⟨msgId, offset, msgIdPresent, offsetPresent⟩ := enqueued.fields
  simp [RUDPPacket.hasData, msgIdPresent, offsetPresent]

end RUDPPacket

namespace RUDPSender

/-! ## The packets of one message -/

@[simp] theorem length_messagePackets
    (msgId seqNum offset : Int) (chunks : List Bytes) :
    (messagePackets msgId seqNum offset chunks).length = chunks.length := by
  induction chunks generalizing seqNum offset with
  | nil => rfl
  | cons chunk rest inductionHypothesis =>
      simp [messagePackets, inductionHypothesis]

/-- Packets of a message are numbered consecutively. -/
theorem seqNum_messagePackets
    {msgId seqNum offset : Int} {chunks : List Bytes}
    {index : Nat} {packet : RUDPPacket}
    (found : (messagePackets msgId seqNum offset chunks)[index]? =
      some packet) :
    packet.seqNum = seqNum + index := by
  induction chunks generalizing seqNum offset index with
  | nil => simp [messagePackets] at found
  | cons chunk rest inductionHypothesis =>
      cases index with
      | zero =>
          simp only [messagePackets, List.getElem?_cons_zero,
            Option.some.injEq] at found
          simp [← found]
      | succ index =>
          rw [messagePackets, List.getElem?_cons_succ] at found
          rw [inductionHypothesis found]
          push_cast
          ring

theorem isEnqueued_of_mem_messagePackets
    {msgId seqNum offset : Int} {chunks : List Bytes} {packet : RUDPPacket}
    (bounded : ∀ chunk ∈ chunks, chunk.length ≤ mss)
    (member : packet ∈ messagePackets msgId seqNum offset chunks) :
    packet.IsEnqueued := by
  induction chunks generalizing seqNum offset with
  | nil => simp [messagePackets] at member
  | cons chunk rest inductionHypothesis =>
      rw [messagePackets, List.mem_cons] at member
      rcases member with rfl | member
      · exact
          { ackNum := rfl
            flags := by cases rest <;> simp
            rwnd := rfl
            fields := ⟨msgId, offset, rfl, rfl⟩
            payload := bounded chunk (by simp) }
      · exact inductionHypothesis
          (fun chunk inRest => bounded chunk (by simp [inRest])) member

/-- Message id and offset of a packet, where the offset counts the bytes of
the chunks before it. -/
theorem reassembly_of_mem_messagePackets
    {msgId seqNum offset : Int} {chunks : List Bytes} {packet : RUDPPacket}
    (member : packet ∈ messagePackets msgId seqNum offset chunks) :
    packet.msgId = some msgId ∧
      ∃ packetOffset, packet.offset = some packetOffset ∧
        offset ≤ packetOffset ∧
        packetOffset ≤ offset + chunks.flatten.length := by
  induction chunks generalizing seqNum offset with
  | nil => simp [messagePackets] at member
  | cons chunk rest inductionHypothesis =>
      rw [messagePackets, List.mem_cons] at member
      simp only [List.flatten_cons, List.length_append, Nat.cast_add]
      rcases member with rfl | member
      · exact ⟨rfl, offset, rfl, le_rfl, by omega⟩
      · obtain ⟨sameId, packetOffset, present, lower, upper⟩ :=
          inductionHypothesis member
        exact ⟨sameId, packetOffset, present, by omega, by omega⟩

/-- The FIN flag marks exactly the last packet of a message. -/
theorem map_segment_messagePackets
    (msgId seqNum offset : Int) (chunks : List Bytes) :
    (messagePackets msgId seqNum offset chunks).map RUDPPacket.segment =
      markLast chunks := by
  induction chunks generalizing seqNum offset with
  | nil => rfl
  | cons chunk rest inductionHypothesis =>
      rw [messagePackets, List.map_cons, inductionHypothesis, markLast_cons]
      congr 1
      cases rest with
      | nil => rfl
      | cons next rest => rfl

/-! ## The stream of a list of messages -/

/-- All packets made for a list of messages with their ids, numbered from
`seqNum` on. -/
def packetsFrom (seqNum : Int) : List (Bytes × Int) → List RUDPPacket
  | [] => []
  | (data, msgId) :: rest =>
      let packets := messagePackets msgId seqNum 0 (slices mss data)
      packets ++ packetsFrom (seqNum + packets.length) rest

/-- The segment stream of a sender that has been given these messages. -/
def stream (messages : List (Bytes × Int)) : List RUDPPacket :=
  packetsFrom 0 messages

theorem packetsFrom_append
    (seqNum : Int) (first second : List (Bytes × Int)) :
    packetsFrom seqNum (first ++ second) =
      packetsFrom seqNum first ++
        packetsFrom (seqNum + (packetsFrom seqNum first).length) second := by
  induction first generalizing seqNum with
  | nil => simp [packetsFrom]
  | cons message rest inductionHypothesis =>
      simp only [List.cons_append, packetsFrom, inductionHypothesis,
        List.append_assoc, List.length_append, Nat.cast_add, add_assoc]

/-- A further message extends the stream by its packets, numbered from the
current length of the stream. -/
theorem stream_append_singleton
    (messages : List (Bytes × Int)) (data : Bytes) (msgId : Int) :
    stream (messages ++ [(data, msgId)]) =
      stream messages ++
        messagePackets msgId (stream messages).length 0
          (slices mss data) := by
  simp [stream, packetsFrom_append, packetsFrom]

theorem seqNum_packetsFrom
    {seqNum : Int} {messages : List (Bytes × Int)}
    {index : Nat} {packet : RUDPPacket}
    (found : (packetsFrom seqNum messages)[index]? = some packet) :
    packet.seqNum = seqNum + index := by
  induction messages generalizing seqNum index with
  | nil => simp [packetsFrom] at found
  | cons message rest inductionHypothesis =>
      obtain ⟨data, msgId⟩ := message
      simp only [packetsFrom, List.getElem?_append] at found
      split at found
      · exact seqNum_messagePackets found
      · next beyond =>
          rw [inductionHypothesis found]
          omega

/-- The packet at position `index` of a stream has sequence number `index`. -/
theorem seqNum_stream
    {messages : List (Bytes × Int)} {index : Nat} {packet : RUDPPacket}
    (found : (stream messages)[index]? = some packet) :
    packet.seqNum = index := by
  rw [seqNum_packetsFrom found, zero_add]

/-- Every packet of a stream belongs to one of its messages. -/
theorem mem_packetsFrom
    {seqNum : Int} {messages : List (Bytes × Int)} {packet : RUDPPacket}
    (member : packet ∈ packetsFrom seqNum messages) :
    ∃ data msgId first, (data, msgId) ∈ messages ∧
      packet ∈ messagePackets msgId first 0 (slices mss data) := by
  induction messages generalizing seqNum with
  | nil => simp [packetsFrom] at member
  | cons message rest inductionHypothesis =>
      obtain ⟨data, msgId⟩ := message
      simp only [packetsFrom, List.mem_append] at member
      rcases member with here | later
      · exact ⟨data, msgId, seqNum, by simp, here⟩
      · obtain ⟨data', msgId', first, inRest, inPackets⟩ :=
          inductionHypothesis later
        exact ⟨data', msgId', first, by simp [inRest], inPackets⟩

theorem mss_pos : 0 < mss := by decide

theorem isEnqueued_of_mem_stream
    {messages : List (Bytes × Int)} {packet : RUDPPacket}
    (member : packet ∈ stream messages) :
    packet.IsEnqueued := by
  obtain ⟨data, msgId, first, _, inPackets⟩ := mem_packetsFrom member
  exact isEnqueued_of_mem_messagePackets
    (fun chunk => length_le_of_mem_slices) inPackets

/-- Message ids and offsets of a stream come from its messages. -/
theorem reassembly_of_mem_stream
    {messages : List (Bytes × Int)} {packet : RUDPPacket}
    (member : packet ∈ stream messages) :
    ∃ data msgId offset, (data, msgId) ∈ messages ∧
      packet.msgId = some msgId ∧ packet.offset = some offset ∧
      0 ≤ offset ∧ offset ≤ data.length := by
  obtain ⟨data, msgId, first, inMessages, inPackets⟩ := mem_packetsFrom member
  obtain ⟨sameId, offset, present, lower, upper⟩ :=
    reassembly_of_mem_messagePackets inPackets
  rw [flatten_slices mss_pos, zero_add] at upper
  exact ⟨data, msgId, offset, inMessages, sameId, present, lower, upper⟩

/-- A message whose id and length fit the 32-bit reassembly fields. -/
def MessageInRange (message : Bytes × Int) : Prop :=
  (0 ≤ message.2 ∧ message.2 < 2 ^ 32) ∧ message.1.length < 2 ^ 32

instance (message : Bytes × Int) : Decidable (MessageInRange message) :=
  inferInstanceAs (Decidable (_ ∧ _))

/-- A packet of the stream has a place on the wire as long as its sequence
number fits the header. -/
theorem onWire_of_mem_stream
    {messages : List (Bytes × Int)} {packet : RUDPPacket}
    (inRange : ∀ message ∈ messages, MessageInRange message)
    (member : packet ∈ stream messages)
    (numbered : packet.seqNum < 2 ^ 32) :
    packet.OnWire := by
  have enqueued := isEnqueued_of_mem_stream member
  obtain ⟨index, found⟩ := List.mem_iff_getElem?.mp member
  have seqNum := seqNum_stream found
  obtain ⟨data, msgId, offset, inMessages, sameId, present, lower, upper⟩ :=
    reassembly_of_mem_stream member
  obtain ⟨idRange, lengthRange⟩ := inRange _ inMessages
  refine ⟨⟨⟨by omega, numbered⟩, ?_, ?_, ?_⟩,
    .inl ⟨msgId, offset, sameId, present, idRange, lower, ?_⟩⟩
  · rw [enqueued.ackNum]
    norm_num
  · rcases enqueued.flags with final | inner
    · rw [final]
      decide
    · rw [inner]
      decide
  · rw [enqueued.rwnd]
    norm_num
  · simp only at lengthRange
    omega

/-- Reassembling the stream of some messages completes exactly these
messages. -/
theorem feedAll_packetsFrom
    (state : Reassembly UInt8) (noPending : state.pending = [])
    (seqNum : Int) (messages : List (Bytes × Int)) :
    state.feedAll ((packetsFrom seqNum messages).map RUDPPacket.segment) =
      ⟨state.messages ++ messages.map Prod.fst, []⟩ := by
  induction messages generalizing state seqNum with
  | nil =>
      ext1
      · simp [packetsFrom]
      · simpa [packetsFrom] using noPending
  | cons message rest inductionHypothesis =>
      obtain ⟨data, msgId⟩ := message
      simp only [packetsFrom, List.map_append, Reassembly.feedAll_append,
        map_segment_messagePackets]
      rw [Reassembly.feedAll_markLast state (slices_ne_nil mss_pos data),
        inductionHypothesis _ rfl, flatten_slices mss_pos, noPending]
      simp

/-- The messages completed by the first segments of a stream are a prefix of
the messages of the stream. -/
theorem messages_feedAll_take_prefix
    (messages : List (Bytes × Int)) (count : Nat) :
    (Reassembly.start.feedAll
        (((stream messages).take count).map
          RUDPPacket.segment)).messages <+:
      messages.map Prod.fst := by
  have whole := feedAll_packetsFrom .start rfl 0 messages
  have part := Reassembly.messages_feedAll_prefix_of_prefix .start
    ((List.take_prefix count (stream messages)).map RUDPPacket.segment)
  rw [stream, whole] at part
  simpa [stream, Reassembly.start] using part

/-- The stream of the first messages comes first. -/
theorem stream_prefix_stream
    {first messages : List (Bytes × Int)}
    (isPrefix : first <+: messages) :
    stream first <+: stream messages := by
  obtain ⟨later, rfl⟩ := isPrefix
  rw [stream, stream, packetsFrom_append]
  exact List.prefix_append _ _

/-- A message has at least one packet. -/
theorem messagePackets_ne_nil (msgId seqNum offset : Int) (data : Bytes) :
    messagePackets msgId seqNum offset (slices mss data) ≠ [] := by
  intro none
  have length := congrArg List.length none
  rw [length_messagePackets] at length
  exact slices_ne_nil mss_pos data (List.length_eq_zero_iff.mp length)

/-- The last packet of a message ends the stream up to this message. -/
theorem exists_last_packet
    (earlier : List (Bytes × Int)) (data : Bytes) (msgId : Int) :
    ∃ packet ∈ messagePackets msgId (stream earlier).length 0
        (slices mss data),
      (stream (earlier ++ [(data, msgId)]))[
        (stream (earlier ++ [(data, msgId)])).length - 1]? = some packet := by
  have nonempty := messagePackets_ne_nil msgId (stream earlier).length 0 data
  refine ⟨_, List.getLast_mem nonempty, ?_⟩
  rw [← List.getLast?_eq_getElem?, stream_append_singleton,
    List.getLast?_append_of_ne_nil _ nonempty,
    List.getLast?_eq_getLast_of_ne_nil nonempty]

/-- Enough segments of a stream complete its first messages. -/
theorem prefix_messages_feedAll_take
    {first messages : List (Bytes × Int)}
    (isPrefix : first <+: messages)
    {count : Nat} (enough : (stream first).length ≤ count) :
    first.map Prod.fst <+:
      (Reassembly.start.feedAll
        (((stream messages).take count).map
          RUDPPacket.segment)).messages := by
  have whole := feedAll_packetsFrom .start rfl 0 first
  have inside : stream first <+: (stream messages).take count := by
    rw [List.prefix_take_iff]
    exact ⟨stream_prefix_stream isPrefix, enough⟩
  have part := Reassembly.messages_feedAll_prefix_of_prefix .start
    (inside.map RUDPPacket.segment)
  rw [stream, whole] at part
  simpa [Reassembly.start] using part

end RUDPSender

end RudpAgentStack

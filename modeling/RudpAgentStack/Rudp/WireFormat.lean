import RudpAgentStack.Common.RudpPacket

/-!
# The RUDP wire format

A data packet is told from an ACK-only packet by the length of its datagram
alone, and the checksum is recomputed on both sides.  Reading a datagram gives
a packet exactly when that packet has one of the two shapes, carries its own
checksum and packs to the datagram, so `pack` and `unpack` are inverse to each
other on the wire format.
-/

namespace RudpAgentStack

open Foundation

namespace RUDPPacket

/-- Every fixed-header field of the packet fits its width. -/
structure HeaderInRange (packet : RUDPPacket) : Prop where
  seqNum : 0 ≤ packet.seqNum ∧ packet.seqNum < 2 ^ 32
  ackNum : 0 ≤ packet.ackNum ∧ packet.ackNum < 2 ^ 32
  flags : 0 ≤ packet.flags ∧ packet.flags < 2 ^ 8
  rwnd : 0 ≤ packet.rwnd ∧ packet.rwnd < 2 ^ 16

/-- A data packet: both reassembly fields are set and fit their width. -/
def IsData (packet : RUDPPacket) : Prop :=
  ∃ msgId offset : Int, packet.msgId = some msgId ∧
    packet.offset = some offset ∧
    (0 ≤ msgId ∧ msgId < 2 ^ 32) ∧ (0 ≤ offset ∧ offset < 2 ^ 32)

/-- An ACK-only packet: no reassembly fields and no payload. -/
structure IsAckOnly (packet : RUDPPacket) : Prop where
  msgId : packet.msgId = none
  offset : packet.offset = none
  payload : packet.payload = []

/-- A packet whose fields have a place on the wire. -/
structure OnWire (packet : RUDPPacket) : Prop where
  header : HeaderInRange packet
  shape : IsData packet ∨ IsAckOnly packet

theorem structUnpack_eq_ok_iff
    (format : List Nat) (bytes : Bytes)
    (values : BinaryRecord.Fields format) :
    structUnpack format bytes = .ok values ↔
      structPack format values = .ok bytes := by
  have inverse := BinaryRecord.unpack_eq_some_iff format bytes values
  unfold structUnpack structPack
  cases read : BinaryRecord.unpack format bytes <;>
    cases written : BinaryRecord.pack format values <;>
    simp_all

theorem exists_structPack_iff
    (format : List Nat) (values : BinaryRecord.Fields format) :
    (∃ bytes, structPack format values = .ok bytes) ↔
      BinaryRecord.InRange format values := by
  rw [← BinaryRecord.exists_pack_iff]
  unfold structPack
  cases BinaryRecord.pack format values <;> simp

theorem exists_structUnpack_iff (format : List Nat) (bytes : Bytes) :
    (∃ values, structUnpack format bytes = .ok values) ↔
      bytes.length = format.sum := by
  rw [← BinaryRecord.exists_unpack_iff]
  unfold structUnpack
  cases BinaryRecord.unpack format bytes <;> simp

theorem length_of_structPack
    {format : List Nat} {values : BinaryRecord.Fields format} {bytes : Bytes}
    (packed : structPack format values = .ok bytes) :
    bytes.length = format.sum := by
  unfold structPack at packed
  split at packed
  · next written =>
      obtain rfl := Except.ok.inj packed
      exact BinaryRecord.length_of_pack written
  · exact absurd packed (by simp)

/-! ## Writing -/

/-- The bytes of a packet are its header, its reassembly fields and its
payload. -/
theorem packetBytes_eq_ok_iff
    (packet : RUDPPacket) (checksum : Int) (data : Bytes) :
    packet.packetBytes checksum = .ok data ↔
      ∃ header reassembly,
        structPack fixedHeaderFormat
          (packet.seqNum, packet.ackNum, packet.flags, packet.rwnd,
            checksum, ()) = .ok header ∧
        packet.reassemblyBytes = .ok reassembly ∧
        header ++ reassembly ++ packet.payload = data := by
  unfold packetBytes
  split
  · next header reassembly headerPacked reassemblyPacked =>
      simp [headerPacked, reassemblyPacked]
  · next headerFails => simp [headerFails]
  · next headerPacked reassemblyFails => simp [reassemblyFails]

/-- The reassembly fields are either absent or fit their width. -/
def ReassemblyInRange (packet : RUDPPacket) : Prop :=
  ∀ msgId offset, packet.msgId = some msgId → packet.offset = some offset →
    (0 ≤ msgId ∧ msgId < 2 ^ 32) ∧ (0 ≤ offset ∧ offset < 2 ^ 32)

theorem exists_reassemblyBytes_iff (packet : RUDPPacket) :
    (∃ bytes, packet.reassemblyBytes = .ok bytes) ↔
      ReassemblyInRange packet := by
  unfold reassemblyBytes ReassemblyInRange
  cases packet.msgId <;> cases packet.offset <;>
    simp [exists_structPack_iff, BinaryRecord.InRange]

/-- Writing a packet under a 16-bit checksum succeeds exactly when its fields
are in range. -/
theorem exists_packetBytes_iff
    (packet : RUDPPacket) (checksum : Int)
    (checksumRange : 0 ≤ checksum ∧ checksum < 2 ^ 16) :
    (∃ data, packet.packetBytes checksum = .ok data) ↔
      HeaderInRange packet ∧ ReassemblyInRange packet := by
  have headerPacks := exists_structPack_iff fixedHeaderFormat
    (packet.seqNum, packet.ackNum, packet.flags, packet.rwnd, checksum, ())
  have fits : BinaryRecord.InRange fixedHeaderFormat
      (packet.seqNum, packet.ackNum, packet.flags, packet.rwnd, checksum, ())
      ↔ HeaderInRange packet := by
    simp only [BinaryRecord.InRange]
    constructor
    · rintro ⟨seqNum, ackNum, flags, rwnd, _⟩
      exact ⟨by omega, by omega, by omega, by omega⟩
    · rintro ⟨seqNum, ackNum, flags, rwnd⟩
      exact ⟨by omega, by omega, by omega, by omega, by omega, trivial⟩
  rw [← fits, ← headerPacks, ← exists_reassemblyBytes_iff]
  simp only [packetBytes_eq_ok_iff]
  constructor
  · rintro ⟨_, header, reassembly, headerPacked, reassemblyPacked, _⟩
    exact ⟨⟨header, headerPacked⟩, ⟨reassembly, reassemblyPacked⟩⟩
  · rintro ⟨⟨header, headerPacked⟩, ⟨reassembly, reassemblyPacked⟩⟩
    exact ⟨_, header, reassembly, headerPacked, reassemblyPacked, rfl⟩

/-- The checksum is computed whenever the packet can be written. -/
theorem exists_calculateChecksum_iff (packet : RUDPPacket) :
    (∃ checksum, packet.calculateChecksum = .ok checksum) ↔
      HeaderInRange packet ∧ ReassemblyInRange packet := by
  rw [← exists_packetBytes_iff packet 0 (by norm_num)]
  unfold calculateChecksum
  cases packet.packetBytes 0 <;> simp

theorem onesComplementChecksum_range (bytes : Bytes) :
    0 < onesComplementChecksum bytes ∧
      onesComplementChecksum bytes < 2 ^ 16 := by
  have adjusted : ∀ word : BitVec 16,
      0 < (if word.toNat = 0 then 0xFFFF else word.toNat) ∧
        (if word.toNat = 0 then 0xFFFF else word.toNat) < 2 ^ 16 := by
    intro word
    split
    · norm_num
    · next nonzero => exact ⟨Nat.pos_of_ne_zero nonzero, word.isLt⟩
  exact adjusted _

/-- A computed checksum fits the 16-bit field and is never zero. -/
theorem calculateChecksum_range
    {packet : RUDPPacket} {checksum : Int}
    (computed : packet.calculateChecksum = .ok checksum) :
    0 < checksum ∧ checksum < 2 ^ 16 := by
  unfold calculateChecksum at computed
  split at computed
  · exact absurd computed (by simp)
  · next bytes _ =>
      obtain rfl := Except.ok.inj computed
      exact_mod_cast onesComplementChecksum_range bytes

theorem pack_eq_ok_iff (packet : RUDPPacket) (data : Bytes) :
    packet.pack = .ok data ↔
      ∃ checksum, packet.calculateChecksum = .ok checksum ∧
        packet.packetBytes checksum = .ok data := by
  unfold pack
  cases packet.calculateChecksum <;> simp

/-- `pack` succeeds exactly on packets whose fields are in range. -/
theorem exists_pack_iff (packet : RUDPPacket) :
    (∃ data, packet.pack = .ok data) ↔
      HeaderInRange packet ∧ ReassemblyInRange packet := by
  rw [← exists_calculateChecksum_iff]
  simp only [pack_eq_ok_iff]
  constructor
  · rintro ⟨_, checksum, computed, _⟩
    exact ⟨checksum, computed⟩
  · rintro ⟨checksum, computed⟩
    have range := calculateChecksum_range computed
    have inRange := (exists_calculateChecksum_iff packet).mp ⟨_, computed⟩
    obtain ⟨data, written⟩ :=
      (exists_packetBytes_iff packet checksum ⟨by omega, range.2⟩).mpr inRange
    exact ⟨data, checksum, computed, written⟩

/-! ## Reading -/

/-- The two shapes a datagram can be read as. -/
def HasWireShape (packet : RUDPPacket) : Prop :=
  (∃ msgId offset, packet.msgId = some msgId ∧ packet.offset = some offset) ∨
    IsAckOnly packet

theorem reassemblyBytes_of_isAckOnly
    {packet : RUDPPacket} (ackOnly : IsAckOnly packet) :
    packet.reassemblyBytes = .ok [] := by
  unfold reassemblyBytes
  rw [ackOnly.msgId]

/-- The fields read from a datagram are those of the packet of wire shape that
is written as this datagram. -/
theorem unpackFields_eq_ok_iff (data : Bytes) (packet : RUDPPacket) :
    unpackFields data = .ok packet ↔
      HasWireShape packet ∧ packet.packetBytes packet.checksum = .ok data := by
  constructor
  · intro read
    unfold unpackFields at read
    split at read
    · exact absurd read (by simp)
    · next headerPresent =>
      split at read
      · exact absurd read (by simp)
      · next seqNum ackNum flags rwnd checksum headerRead =>
        have headerPacked := (structUnpack_eq_ok_iff _ _ _).mp headerRead
        split at read
        · split at read
          · exact absurd read (by simp)
          · split at read
            · exact absurd read (by simp)
            · next msgId offset reassemblyRead =>
              obtain rfl := Except.ok.inj read
              refine ⟨.inl ⟨msgId, offset, rfl, rfl⟩, ?_⟩
              rw [packetBytes_eq_ok_iff]
              refine ⟨_, _, headerPacked,
                (structUnpack_eq_ok_iff _ _ _).mp reassemblyRead, ?_⟩
              simp only [← List.drop_drop, List.append_assoc,
                List.take_append_drop]
        · next noMore =>
          obtain rfl := Except.ok.inj read
          refine ⟨.inr ⟨rfl, rfl, rfl⟩, ?_⟩
          rw [packetBytes_eq_ok_iff]
          refine ⟨_, _, headerPacked, rfl, ?_⟩
          simp only [List.append_nil]
          exact List.take_of_length_le (by omega)
  · rintro ⟨shape, written⟩
    obtain ⟨header, reassembly, headerPacked, reassemblyPacked, rfl⟩ :=
      (packetBytes_eq_ok_iff _ _ _).mp written
    have headerLength : header.length = fixedHeaderSize :=
      length_of_structPack headerPacked
    have headerRead := (structUnpack_eq_ok_iff _ _ _).mpr headerPacked
    rcases shape with ⟨msgId, offset, msgIdPresent, offsetPresent⟩ | ackOnly
    · simp only [reassemblyBytes, msgIdPresent, offsetPresent]
        at reassemblyPacked
      have reassemblyLength : reassembly.length = reassemblySize :=
        length_of_structPack reassemblyPacked
      have reassemblyRead :=
        (structUnpack_eq_ok_iff _ _ _).mpr reassemblyPacked
      have headerTaken :
          (header ++ reassembly ++ packet.payload).take fixedHeaderSize =
            header := by
        rw [List.append_assoc]
        exact List.take_left' headerLength
      have reassemblyTaken :
          ((header ++ reassembly ++ packet.payload).drop
            fixedHeaderSize).take reassemblySize = reassembly := by
        rw [List.append_assoc, List.drop_left' headerLength]
        exact List.take_left' reassemblyLength
      have payloadLeft :
          (header ++ reassembly ++ packet.payload).drop
            (fixedHeaderSize + reassemblySize) = packet.payload := by
        apply List.drop_left'
        rw [List.length_append, headerLength, reassemblyLength]
      have enough : fixedHeaderSize + reassemblySize ≤
          (header ++ reassembly ++ packet.payload).length := by
        simp only [List.length_append, headerLength, reassemblyLength]
        omega
      have more : 0 < reassemblySize := by decide
      rw [unpackFields, if_neg (by omega), headerTaken, headerRead]
      simp only
      rw [if_pos (by omega), if_neg (by omega), reassemblyTaken,
        reassemblyRead, payloadLeft]
      simp only [← msgIdPresent, ← offsetPresent]
    · rw [reassemblyBytes_of_isAckOnly ackOnly] at reassemblyPacked
      obtain rfl := Except.ok.inj reassemblyPacked
      simp only [ackOnly.payload, List.append_nil]
      rw [unpackFields, if_neg (by omega),
        List.take_of_length_le (by omega), headerRead]
      simp only
      rw [if_neg (by omega)]
      obtain ⟨noMsgId, noOffset, noPayload⟩ := ackOnly
      cases packet
      simp_all

theorem unpack_eq_ok_iff (data : Bytes) (packet : RUDPPacket) :
    unpack data = .ok packet ↔
      unpackFields data = .ok packet ∧
        packet.calculateChecksum = .ok packet.checksum := by
  constructor
  · intro accepted
    unfold unpack at accepted
    split at accepted
    · exact absurd accepted (by simp)
    · next fields =>
      split at accepted
      · exact absurd accepted (by simp)
      · next computed =>
        split at accepted
        · exact absurd accepted (by simp)
        · next equal =>
          obtain rfl := Except.ok.inj accepted
          exact ⟨fields, by rw [computed, not_not.mp equal]⟩
  · rintro ⟨fields, computed⟩
    simp [unpack, fields, computed]

/-- Reading a datagram gives a packet exactly when that packet has a wire
shape, carries its own checksum and packs to the datagram. -/
theorem unpack_eq_ok_iff_pack (data : Bytes) (packet : RUDPPacket) :
    unpack data = .ok packet ↔
      HasWireShape packet ∧
        packet.calculateChecksum = .ok packet.checksum ∧
        packet.pack = .ok data := by
  rw [unpack_eq_ok_iff, unpackFields_eq_ok_iff, pack_eq_ok_iff]
  constructor
  · rintro ⟨⟨shape, written⟩, computed⟩
    exact ⟨shape, computed, packet.checksum, computed, written⟩
  · rintro ⟨shape, computed, checksum, computed', written⟩
    obtain rfl := Except.ok.inj (computed.symm.trans computed')
    exact ⟨⟨shape, written⟩, computed⟩

/-- The packet as `pack` leaves it, with the computed checksum stored. -/
def withChecksum (packet : RUDPPacket) (checksum : Int) : RUDPPacket :=
  { packet with checksum := checksum }

@[simp] theorem seqNum_withChecksum (packet : RUDPPacket) (checksum : Int) :
    (packet.withChecksum checksum).seqNum = packet.seqNum := rfl

/-- A packed packet of wire shape is read back with its checksum filled in. -/
theorem unpack_of_pack
    {packet : RUDPPacket} {data : Bytes}
    (shape : HasWireShape packet)
    (packed : packet.pack = .ok data) :
    ∃ checksum, packet.calculateChecksum = .ok checksum ∧
      unpack data = .ok (packet.withChecksum checksum) := by
  obtain ⟨checksum, computed, written⟩ := (pack_eq_ok_iff _ _).mp packed
  refine ⟨checksum, computed, ?_⟩
  rw [unpack_eq_ok_iff_pack]
  refine ⟨?_, computed, packed⟩
  rcases shape with reassembly | ackOnly
  · exact .inl reassembly
  · exact .inr ⟨ackOnly.msgId, ackOnly.offset, ackOnly.payload⟩

/-- Reading never raises `struct.error`: every slice that is unpacked has
exactly the length of its format, and a packet that was read can be written. -/
theorem unpack_ne_structError (data : Bytes) :
    unpack data ≠ .error .structError := by
  have headerReads : ¬ data.length < fixedHeaderSize →
      ∃ values, structUnpack fixedHeaderFormat (data.take fixedHeaderSize) =
        .ok values := by
    intro present
    rw [exists_structUnpack_iff, List.length_take]
    simp only [fixedHeaderSize] at present ⊢
    omega
  have reassemblyReads :
      ¬ data.length < fixedHeaderSize + reassemblySize →
      ∃ values, structUnpack reassemblyFormat
        ((data.drop fixedHeaderSize).take reassemblySize) = .ok values := by
    intro present
    rw [exists_structUnpack_iff, List.length_take, List.length_drop]
    simp only [fixedHeaderSize, reassemblySize] at present ⊢
    omega
  have fieldsRead : unpackFields data ≠ .error .structError := by
    unfold unpackFields
    split
    · simp
    · next present =>
      obtain ⟨values, headerRead⟩ := headerReads present
      rw [headerRead]
      simp only
      split
      · split
        · simp
        · next enough =>
          obtain ⟨values, reassemblyRead⟩ := reassemblyReads enough
          rw [reassemblyRead]
          simp
      · simp
  unfold unpack
  split
  · next error fields =>
      intro equal
      exact fieldsRead (fields.trans equal)
  · next packet fields =>
      have written := ((unpackFields_eq_ok_iff _ _).mp fields).2
      have zeroWritten :
          HeaderInRange packet ∧ ReassemblyInRange packet := by
        obtain ⟨header, reassembly, headerPacked, reassemblyPacked, _⟩ :=
          (packetBytes_eq_ok_iff _ _ _).mp written
        have inRange :=
          (exists_structPack_iff _ _).mp ⟨header, headerPacked⟩
        simp only [BinaryRecord.InRange] at inRange
        obtain ⟨seqNum, ackNum, flags, rwnd, _⟩ := inRange
        exact ⟨⟨by omega, by omega, by omega, by omega⟩,
          (exists_reassemblyBytes_iff packet).mp
            ⟨reassembly, reassemblyPacked⟩⟩
      obtain ⟨calculated, computed⟩ :=
        (exists_calculateChecksum_iff packet).mpr zeroWritten
      rw [computed]
      simp only
      split <;> simp

/-! ## Both directions together -/

theorem OnWire.hasWireShape
    {packet : RUDPPacket} (onWire : OnWire packet) : HasWireShape packet := by
  rcases onWire.shape with ⟨msgId, offset, msgIdPresent, offsetPresent, _⟩ |
    ackOnly
  · exact .inl ⟨msgId, offset, msgIdPresent, offsetPresent⟩
  · exact .inr ackOnly

theorem OnWire.reassemblyInRange
    {packet : RUDPPacket} (onWire : OnWire packet) :
    ReassemblyInRange packet := by
  intro msgId offset msgIdPresent offsetPresent
  rcases onWire.shape with ⟨msgId', offset', present, present', ranges⟩ |
    ackOnly
  · rw [msgIdPresent, Option.some.injEq] at present
    rw [offsetPresent, Option.some.injEq] at present'
    exact present ▸ present' ▸ ranges
  · exact absurd (ackOnly.msgId.symm.trans msgIdPresent) (by simp)

/-- A packet on the wire packs, and its datagram is read back as the packet
with the checksum that packing stored. -/
theorem OnWire.unpack_pack
    {packet : RUDPPacket} (onWire : OnWire packet) :
    ∃ datagram checksum, packet.pack = .ok datagram ∧
      packet.calculateChecksum = .ok checksum ∧
      unpack datagram = .ok (packet.withChecksum checksum) := by
  obtain ⟨datagram, packed⟩ := (exists_pack_iff packet).mpr
    ⟨onWire.header, onWire.reassemblyInRange⟩
  obtain ⟨checksum, computed, read⟩ :=
    unpack_of_pack onWire.hasWireShape packed
  exact ⟨datagram, checksum, packed, computed, read⟩

/-- The wire format is a bijection on its image: packing and unpacking are
inverse to each other, and whatever is not in the image raises `ValueError` or
its subclass `ChecksumError`. -/
theorem wireFormat_bijection :
    (∀ packet : RUDPPacket, OnWire packet →
      ∃ datagram checksum, packet.pack = .ok datagram ∧
        packet.calculateChecksum = .ok checksum ∧
        unpack datagram = .ok (packet.withChecksum checksum)) ∧
    (∀ data packet, unpack data = .ok packet → packet.pack = .ok data) ∧
    (∀ data error, unpack data = .error error →
      ∃ message, error = .valueError message ∨
        error = .checksumError message) := by
  refine ⟨fun packet onWire => onWire.unpack_pack, ?_, ?_⟩
  · intro data packet read
    exact ((unpack_eq_ok_iff_pack data packet).mp read).2.2
  · intro data error raised
    cases error with
    | structError => exact absurd raised (unpack_ne_structError data)
    | valueError message => exact ⟨message, .inl rfl⟩
    | checksumError message => exact ⟨message, .inr rfl⟩

/-- An empty data packet and an acknowledgement survive the round trip. -/
theorem wireFormat_bijection_examples :
    (∃ datagram checksum,
      pack { seqNum := 7, ackNum := 0, flags := flagFin, rwnd := 0,
             msgId := some 1, offset := some 0 } = .ok datagram ∧
      calculateChecksum { seqNum := 7, ackNum := 0, flags := flagFin, rwnd := 0,
                          msgId := some 1, offset := some 0 } = .ok checksum ∧
      unpack datagram = .ok
        { seqNum := 7, ackNum := 0, flags := flagFin, rwnd := 0,
          checksum := checksum, msgId := some 1, offset := some 0 }) ∧
    (∃ datagram checksum,
      pack { seqNum := 0, ackNum := 8, flags := flagAck, rwnd := 64 } =
        .ok datagram ∧
      calculateChecksum { seqNum := 0, ackNum := 8, flags := flagAck,
                          rwnd := 64 } = .ok checksum ∧
      unpack datagram = .ok
        { seqNum := 0, ackNum := 8, flags := flagAck, rwnd := 64,
          checksum := checksum }) := by
  refine ⟨wireFormat_bijection.1 _ ⟨⟨?_, ?_, ?_, ?_⟩, .inl ⟨1, 0, ?_⟩⟩,
    wireFormat_bijection.1 _ ⟨⟨?_, ?_, ?_, ?_⟩, .inr ⟨?_, ?_, ?_⟩⟩⟩ <;> decide

end RUDPPacket

end RudpAgentStack

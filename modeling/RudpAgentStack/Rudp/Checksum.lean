import RudpAgentStack.Foundation.OnesComplement
import RudpAgentStack.Rudp.WireFormat

/-!
# What the checksum detects

The checksum of a datagram is the complement of the one's complement sum of its
16-bit words, taken with the checksum field blank.  The field is at an odd
offset, so its two bytes belong to two words, one shared with `rwnd` and one
with `msg_id`.  A change inside the field alone, or inside one word outside the
field that does not exchange `0x0000` and `0xFFFF`, is always detected.
-/

namespace RudpAgentStack

open Foundation
open Foundation.OnesComplement

namespace RUDPPacket

/-! ## The checksum as a residue -/

/-- The summation loop adds the words of the padded bytes. -/
theorem addWords_padded (csum : Nat) (bytes : Bytes) :
    addWords csum (if bytes.length % 2 = 1 then bytes ++ [0] else bytes) =
      csum + (words bytes).sum := by
  induction bytes using words.induct generalizing csum with
  | case1 high low rest inductionHypothesis =>
      have parity : (high :: low :: rest).length % 2 = 1 ↔
          rest.length % 2 = 1 := by
        simp only [List.length_cons]
        omega
      have step := inductionHypothesis
        (csum + ((high.toNat <<< 8) + low.toNat))
      rw [words, List.sum_cons]
      by_cases odd : rest.length % 2 = 1
      · rw [if_pos odd] at step
        rw [if_pos (parity.mpr odd), List.cons_append, List.cons_append,
          addWords, step, Nat.shiftLeft_eq]
        omega
      · rw [if_neg odd] at step
        rw [if_neg (fun isOdd => odd (parity.mp isOdd)), addWords, step,
          Nat.shiftLeft_eq]
        omega
  | case2 high =>
      rw [if_pos (by simp), words, List.sum_singleton]
      simp only [List.cons_append, List.nil_append, addWords,
        Nat.shiftLeft_eq, UInt8.toNat_zero]
      omega
  | case3 => rfl

/-- The carry loop carries around the end. -/
theorem addCarry_eq (csum : Nat) :
    addCarry csum = endAround 65535 csum := by
  induction csum using addCarry.induct with
  | case1 csum carry inductionHypothesis =>
      have low : csum &&& 0xFFFF = csum % 65536 :=
        Nat.and_two_pow_sub_one_eq_mod csum 16
      have high : csum >>> 16 = csum / 65536 :=
        Nat.shiftRight_eq_div_pow csum 16
      rw [addCarry, if_pos carry, inductionHypothesis, low, high]
      exact endAround_carry 65535 csum
  | case2 csum noCarry =>
      rw [Nat.shiftRight_eq_div_pow] at noCarry
      rw [addCarry, Nat.shiftRight_eq_div_pow, if_neg noCarry,
        endAround_of_le (by omega)]

/-- The checksum depends on the sum of the words modulo `65535` only. -/
theorem onesComplementChecksum_eq (bytes : Bytes) :
    onesComplementChecksum bytes = 65535 - (words bytes).sum % 65535 := by
  have carried : addCarry (addWords 0
      (if bytes.length % 2 = 1 then bytes ++ [0] else bytes)) =
        endAround 65535 (words bytes).sum := by
    rw [addCarry_eq, addWords_padded, Nat.zero_add]
  have complement := complement_endAround (by norm_num : 0 < 65535)
    (words bytes).sum
  have bounded : endAround 65535 (words bytes).sum < 65536 := by
    have below := Nat.mod_lt ((words bytes).sum - 1)
      (by norm_num : 0 < 65535)
    unfold endAround
    split <;> omega
  rw [← complement]
  unfold onesComplementChecksum
  simp only [carried, BitVec.toNat_not, BitVec.toNat_ofNat]
  rw [Nat.mod_eq_of_lt (by omega)]

/-! ## The checksum field -/

/-- Bytes 11 and 12 of a datagram. -/
def checksumField (data : Bytes) : Bytes := (data.drop 11).take 2

/-- A datagram with its checksum field taken as zero. -/
def blankChecksum (data : Bytes) : Bytes :=
  data.take 11 ++ [0, 0] ++ data.drop 13

/-- The fixed header ends in its checksum. -/
theorem structPack_fixedHeader
    {seqNum ackNum flags rwnd checksum : Int} {header : Bytes}
    (packed : structPack fixedHeaderFormat
      (seqNum, ackNum, flags, rwnd, checksum, ()) = .ok header) :
    ∃ fields, fields.length = 11 ∧
      header = fields ++ toBigEndian 2 checksum.toNat ∧
      (0 ≤ checksum ∧ checksum < 256 ^ 2) ∧
      structPack fixedHeaderFormat (seqNum, ackNum, flags, rwnd, 0, ()) =
        .ok (fields ++ [0, 0]) := by
  obtain ⟨inSeqNum, inAckNum, inFlags, inRwnd, inChecksum, -⟩ :=
    (exists_structPack_iff _ _).mp ⟨header, packed⟩
  refine ⟨toBigEndian 4 seqNum.toNat ++ toBigEndian 4 ackNum.toNat ++
    toBigEndian 1 flags.toNat ++ toBigEndian 2 rwnd.toNat,
    by simp, ?_, inChecksum, ?_⟩
  · simp only [structPack, BinaryRecord.pack] at packed
    rw [if_pos inSeqNum, if_pos inAckNum, if_pos inFlags, if_pos inRwnd,
      if_pos inChecksum] at packed
    have written := Except.ok.inj packed
    simp only [List.append_nil] at written
    simp only [← written, List.append_assoc]
  · simp only [structPack, BinaryRecord.pack]
    rw [if_pos inSeqNum, if_pos inAckNum, if_pos inFlags, if_pos inRwnd,
      if_pos (by norm_num)]
    simp [toBigEndian]

/-- A packet with zero for its checksum is packed to the datagram with the
field blank. -/
theorem packetBytes_zero {packet : RUDPPacket} {checksum : Int} {data : Bytes}
    (packed : packet.packetBytes checksum = .ok data) :
    packet.packetBytes 0 = .ok (blankChecksum data) := by
  obtain ⟨header, reassembly, headerPacked, reassemblyPacked, rfl⟩ :=
    (packetBytes_eq_ok_iff _ _ _).mp packed
  obtain ⟨fields, length, rfl, inRange, blankPacked⟩ :=
    structPack_fixedHeader headerPacked
  have blank : blankChecksum (fields ++ toBigEndian 2 checksum.toNat ++
      reassembly ++ packet.payload) =
        fields ++ [0, 0] ++ reassembly ++ packet.payload := by
    have prefixLength :
        (fields ++ toBigEndian 2 checksum.toNat).length = 13 := by
      rw [List.length_append, length, length_toBigEndian]
    rw [blankChecksum, List.append_assoc _ reassembly,
      List.drop_left' prefixLength, List.append_assoc fields,
      List.take_left' length]
    simp only [List.append_assoc]
  rw [blank]
  exact (packetBytes_eq_ok_iff _ _ _).mpr
    ⟨_, _, blankPacked, reassemblyPacked, rfl⟩

/-- The checksum of a packet is that of its datagram with the field blank. -/
theorem calculateChecksum_of_packetBytes
    {packet : RUDPPacket} {checksum : Int} {data : Bytes}
    (packed : packet.packetBytes checksum = .ok data) :
    packet.calculateChecksum =
      .ok (onesComplementChecksum (blankChecksum data) : Nat) := by
  rw [calculateChecksum, packetBytes_zero packed]

/-- The packet read from a datagram has the checksum of the field and is summed
as the datagram with the field blank. -/
theorem calculateChecksum_of_unpackFields
    {data : Bytes} {packet : RUDPPacket}
    (read : unpackFields data = .ok packet) :
    packet.checksum = ofBigEndian (checksumField data) ∧
      packet.calculateChecksum =
        .ok (onesComplementChecksum (blankChecksum data) : Nat) := by
  have written := ((unpackFields_eq_ok_iff _ _).mp read).2
  refine ⟨?_, calculateChecksum_of_packetBytes written⟩
  obtain ⟨header, reassembly, headerPacked, _, rfl⟩ :=
    (packetBytes_eq_ok_iff _ _ _).mp written
  obtain ⟨fields, length, rfl, inRange, _⟩ :=
    structPack_fixedHeader headerPacked
  have fits : packet.checksum.toNat < 256 ^ 2 := by omega
  have field : checksumField (fields ++
      toBigEndian 2 packet.checksum.toNat ++ reassembly ++
        packet.payload) = toBigEndian 2 packet.checksum.toNat := by
    rw [checksumField, List.append_assoc, List.append_assoc,
      List.drop_left' length]
    exact List.take_left' (length_toBigEndian _ _)
  rw [field, ofBigEndian_toBigEndian fits, Int.toNat_of_nonneg inRange.1]

/-- Whether the fields of a datagram can be read depends on its length. -/
theorem exists_unpackFields_iff (data : Bytes) :
    (∃ packet, unpackFields data = .ok packet) ↔
      data.length = 13 ∨ 21 ≤ data.length := by
  constructor
  · rintro ⟨packet, read⟩
    obtain ⟨shape, written⟩ := (unpackFields_eq_ok_iff _ _).mp read
    obtain ⟨header, reassembly, headerPacked, reassemblyPacked, rfl⟩ :=
      (packetBytes_eq_ok_iff _ _ _).mp written
    have headerLength : header.length = 13 :=
      length_of_structPack headerPacked
    rw [List.length_append, List.length_append, headerLength]
    rcases shape with ⟨msgId, offset, msgIdPresent, offsetPresent⟩ | ackOnly
    · right
      simp only [reassemblyBytes, msgIdPresent, offsetPresent]
        at reassemblyPacked
      have reassemblyLength : reassembly.length = 8 :=
        length_of_structPack reassemblyPacked
      omega
    · left
      rw [reassemblyBytes_of_isAckOnly ackOnly] at reassemblyPacked
      obtain rfl := Except.ok.inj reassemblyPacked
      rw [ackOnly.payload]
      rfl
  · intro lengths
    have headerSize : fixedHeaderSize = 13 := rfl
    have recordSize : reassemblySize = 8 := rfl
    obtain ⟨⟨seqNum, ackNum, flags, rwnd, checksum, _⟩, headerRead⟩ :=
      (exists_structUnpack_iff fixedHeaderFormat
        (data.take fixedHeaderSize)).mpr (by
          rw [List.length_take]
          change min fixedHeaderSize data.length = 13
          omega)
    rw [unpackFields, if_neg (by omega), headerRead]
    simp only
    by_cases more : fixedHeaderSize < data.length
    · obtain ⟨⟨msgId, offset, _⟩, reassemblyRead⟩ :=
        (exists_structUnpack_iff reassemblyFormat
          ((data.drop fixedHeaderSize).take reassemblySize)).mpr (by
            rw [List.length_take, List.length_drop]
            change min reassemblySize (data.length - fixedHeaderSize) = 8
            omega)
      rw [if_pos more, if_neg (by omega), reassemblyRead]
      exact ⟨_, rfl⟩
    · rw [if_neg more]
      exact ⟨_, rfl⟩

/-- The checksum field agrees with the sum of the rest. -/
def ChecksumAgrees (data : Bytes) : Prop :=
  ofBigEndian (checksumField data) =
    onesComplementChecksum (blankChecksum data)

/-- A datagram of a readable length whose checksum does not agree raises
`ChecksumError`. -/
theorem unpack_checksumError {data : Bytes}
    (lengths : data.length = 13 ∨ 21 ≤ data.length)
    (disagrees : ¬ ChecksumAgrees data) :
    ∃ message, unpack data = .error (.checksumError message) := by
  obtain ⟨packet, read⟩ := (exists_unpackFields_iff data).mpr lengths
  obtain ⟨carried, computed⟩ := calculateChecksum_of_unpackFields read
  have different : packet.checksum ≠
      (onesComplementChecksum (blankChecksum data) : Nat) := by
    rw [carried]
    exact_mod_cast disagrees
  rw [unpack, read]
  simp only [computed]
  rw [if_pos different]
  exact ⟨_, rfl⟩

/-- The checksum of a packed datagram agrees. -/
theorem checksumAgrees_of_pack {packet : RUDPPacket} {datagram : Bytes}
    (onWire : OnWire packet) (packed : packet.pack = .ok datagram) :
    ChecksumAgrees datagram ∧
      (datagram.length = 13 ∨ 21 ≤ datagram.length) := by
  obtain ⟨checksum, _, accepted⟩ := unpack_of_pack onWire.hasWireShape packed
  obtain ⟨read, computed⟩ := (unpack_eq_ok_iff _ _).mp accepted
  obtain ⟨carried, computed'⟩ := calculateChecksum_of_unpackFields read
  have same := Except.ok.inj (computed.symm.trans computed')
  refine ⟨?_, (exists_unpackFields_iff datagram).mp ⟨_, read⟩⟩
  rw [carried] at same
  exact_mod_cast same

/-! ## Localised changes -/

theorem getElem?_blankChecksum {data : Bytes}
    (long : 13 ≤ data.length) (index : Nat) :
    (blankChecksum data)[index]? =
      if index = 11 ∨ index = 12 then some 0 else data[index]? := by
  have front : (data.take 11).length = 11 := by
    rw [List.length_take]
    omega
  have both : (data.take 11 ++ [0, 0]).length = 13 := by
    rw [List.length_append, front]
    rfl
  unfold blankChecksum
  rcases lt_trichotomy index 11 with before | rfl | after
  · rw [if_neg (by omega), List.getElem?_append_left (by omega),
      List.getElem?_append_left (by omega), List.getElem?_take_of_lt before]
  · rw [if_pos (.inl rfl), List.getElem?_append_left (by omega),
      List.getElem?_append_right (by omega), front]
    rfl
  · by_cases last : index = 12
    · subst last
      rw [if_pos (.inr rfl), List.getElem?_append_left (by omega),
        List.getElem?_append_right (by omega), front]
      rfl
    · rw [if_neg (by omega), List.getElem?_append_right (by omega), both,
        List.getElem?_drop]
      congr 1
      omega

theorem length_blankChecksum {data : Bytes} (long : 13 ≤ data.length) :
    (blankChecksum data).length = data.length := by
  simp only [blankChecksum, List.length_append, List.length_take,
    List.length_drop, List.length_cons, List.length_nil]
  omega

/-- A 16-bit word of the summation, with the checksum field taken as zero. -/
def summationWord (data : Bytes) (index : Nat) : Nat :=
  word (blankChecksum data) index

/-- Two datagrams differ in the checksum field only. -/
def DifferInField (datagram data : Bytes) : Prop :=
  ∀ index, index ≠ 11 → index ≠ 12 → data[index]? = datagram[index]?

/-- Two datagrams differ only in bytes of one summation word outside the
checksum field, and the change does not exchange `0x0000` and `0xFFFF`. -/
structure DifferInWord (datagram data : Bytes) (changed : Nat) : Prop where
  elsewhere : ∀ index, index / 2 ≠ changed →
    data[index]? = datagram[index]?
  field : data[11]? = datagram[11]? ∧ data[12]? = datagram[12]?
  notRaised : ¬ (summationWord datagram changed = 0x0000 ∧
    summationWord data changed = 0xFFFF)
  notLowered : ¬ (summationWord datagram changed = 0xFFFF ∧
    summationWord data changed = 0x0000)

variable {datagram data : Bytes}

theorem checksumField_congr
    (same : data[11]? = datagram[11]? ∧ data[12]? = datagram[12]?) :
    checksumField data = checksumField datagram := by
  apply List.ext_getElem?
  intro index
  simp only [checksumField, List.getElem?_take, List.getElem?_drop]
  split
  · next inField =>
      obtain rfl | rfl : index = 0 ∨ index = 1 := by omega
      · exact same.1
      · exact same.2
  · rfl

/-- A change of the field alone is a change of what it says. -/
theorem DifferInField.disagrees
    (differ : DifferInField datagram data)
    (sameLength : data.length = datagram.length)
    (long : 13 ≤ datagram.length) (changed : data ≠ datagram)
    (agrees : ChecksumAgrees datagram) : ¬ ChecksumAgrees data := by
  intro agrees'
  have blank : blankChecksum data = blankChecksum datagram := by
    apply List.ext_getElem?
    intro index
    rw [getElem?_blankChecksum (by omega), getElem?_blankChecksum long]
    split
    · rfl
    · next outside => exact differ index (by omega) (by omega)
  have fieldLength : (checksumField data).length =
      (checksumField datagram).length := by
    simp only [checksumField, List.length_take, List.length_drop, sameLength]
  have value : ofBigEndian (checksumField data) =
      ofBigEndian (checksumField datagram) := by
    rw [agrees', agrees, blank]
  have field : checksumField data = checksumField datagram := by
    rw [← toBigEndian_ofBigEndian (checksumField data), fieldLength, value,
      toBigEndian_ofBigEndian]
  apply changed
  apply List.ext_getElem?
  intro index
  by_cases inField : index = 11 ∨ index = 12
  · have same := congrArg (fun bytes : Bytes => bytes[index - 11]?) field
    simp only [checksumField, List.getElem?_take, List.getElem?_drop] at same
    rw [if_pos (by omega), if_pos (by omega),
      show 11 + (index - 11) = index by omega] at same
    exact same
  · exact differ index (by omega) (by omega)

/-- A change of one word changes the sum. -/
theorem DifferInWord.disagrees {changedWord : Nat}
    (differ : DifferInWord datagram data changedWord)
    (sameLength : data.length = datagram.length)
    (long : 13 ≤ datagram.length) (changed : data ≠ datagram)
    (agrees : ChecksumAgrees datagram) : ¬ ChecksumAgrees data := by
  have long' : 13 ≤ data.length := by omega
  have blankLength :
      (blankChecksum data).length = (blankChecksum datagram).length := by
    rw [length_blankChecksum long, length_blankChecksum long', sameLength]
  have different :
      summationWord data changedWord ≠ summationWord datagram changedWord := by
    intro same
    obtain ⟨high, low⟩ := byteAt_eq_of_word_eq same
    apply changed
    apply List.ext_getElem?
    intro index
    by_cases inWord : index / 2 = changedWord
    · have byte : byteAt (blankChecksum data) index =
          byteAt (blankChecksum datagram) index := by
        rcases Nat.mod_two_eq_zero_or_one index with even | odd
        · rwa [show index = 2 * changedWord by omega]
        · rwa [show index = 2 * changedWord + 1 by omega]
      have found := getElem?_eq_of_byteAt_eq blankLength byte
      rw [getElem?_blankChecksum long', getElem?_blankChecksum long] at found
      by_cases inField : index = 11 ∨ index = 12
      · rcases inField with rfl | rfl
        · exact differ.field.1
        · exact differ.field.2
      · rwa [if_neg inField, if_neg inField] at found
    · exact differ.elsewhere index inWord
  have residues := sum_words_mod_ne blankLength
    (fun index outside => by
      rw [getElem?_blankChecksum long', getElem?_blankChecksum long,
        differ.elsewhere index outside])
    different differ.notRaised differ.notLowered
  intro agrees'
  unfold ChecksumAgrees at agrees agrees'
  rw [checksumField_congr differ.field, agrees, onesComplementChecksum_eq,
    onesComplementChecksum_eq] at agrees'
  have below := Nat.mod_lt (words (blankChecksum data)).sum
    (by norm_num : 0 < 65535)
  have below' := Nat.mod_lt (words (blankChecksum datagram)).sum
    (by norm_num : 0 < 65535)
  omega

/-- A change of one byte changes no other byte of the words. -/
theorem byteAt_blankChecksum_set
    (long : 13 ≤ datagram.length) {index other : Nat} (byte : UInt8)
    (distinct : index ≠ other) :
    byteAt (blankChecksum (datagram.set index byte)) other =
      byteAt (blankChecksum datagram) other := by
  have long' : 13 ≤ (datagram.set index byte).length := by
    rwa [List.length_set]
  simp only [byteAt, getElem?_blankChecksum long', getElem?_blankChecksum long,
    List.getElem?_set_ne distinct]

/-- Of two words with a byte in common, one is not `0x0000` and the other
`0xFFFF`. -/
theorem not_exchanged_of_commonByte
    {changed other : Nat} (inWord : other / 2 = changed)
    (same : byteAt (blankChecksum data) other =
      byteAt (blankChecksum datagram) other) :
    ¬ (summationWord datagram changed = 0x0000 ∧
      summationWord data changed = 0xFFFF) := by
  have word_eq : ∀ bytes : Bytes, summationWord bytes changed =
      256 * byteAt (blankChecksum bytes) (2 * changed) +
        byteAt (blankChecksum bytes) (2 * changed + 1) := fun _ => rfl
  have position : other = 2 * changed ∨ other = 2 * changed + 1 := by
    omega
  have low := byteAt_lt (blankChecksum data) (2 * changed + 1)
  rw [word_eq, word_eq]
  rcases position with rfl | rfl
  · omega
  · omega

/-- A change of one byte is local: of the field, or of a word in which the other
byte stays as it is. -/
theorem differ_set (long : 13 ≤ datagram.length) (index : Nat) (byte : UInt8) :
    DifferInField datagram (datagram.set index byte) ∨
      DifferInWord datagram (datagram.set index byte) (index / 2) := by
  have others : ∀ other, index ≠ other →
      (datagram.set index byte)[other]? = datagram[other]? :=
    fun other distinct => List.getElem?_set_ne distinct
  by_cases inField : index = 11 ∨ index = 12
  · left
    intro other notFirst notSecond
    exact others other (by omega)
  · right
    -- the neighbour of the byte has one value, which is in both words
    have neighbour : ∃ other, other / 2 = index / 2 ∧ index ≠ other := by
      rcases Nat.mod_two_eq_zero_or_one index with even | odd
      · exact ⟨index + 1, by omega, by omega⟩
      · exact ⟨index - 1, by omega, by omega⟩
    obtain ⟨other, inWord, distinct⟩ := neighbour
    have same := byteAt_blankChecksum_set long byte distinct
    have notLowered := not_exchanged_of_commonByte inWord same.symm
    exact
      { elsewhere := fun other outside => others other (by
          rintro rfl
          exact outside rfl)
        field := ⟨others 11 (by omega), others 12 (by omega)⟩
        notRaised := not_exchanged_of_commonByte inWord same
        notLowered := fun lowered => notLowered lowered.symm }

/-- Localised corruption of a packed datagram is always detected: a change of
bytes of the checksum field only, or of bytes outside it in one summation word
that is not exchanged between `0x0000` and `0xFFFF`.  In particular a change of
any one byte is. -/
theorem localised_corruption_detected
    {packet : RUDPPacket} {datagram : Bytes}
    (onWire : OnWire packet) (packed : packet.pack = .ok datagram) :
    (∀ data, data.length = datagram.length → data ≠ datagram →
      (DifferInField datagram data ∨
        ∃ changed, DifferInWord datagram data changed) →
      ∃ message, unpack data = .error (.checksumError message)) ∧
    ∀ index byte, datagram.set index byte ≠ datagram →
      ∃ message, unpack (datagram.set index byte) =
        .error (.checksumError message) := by
  obtain ⟨agrees, lengths⟩ := checksumAgrees_of_pack onWire packed
  have long : 13 ≤ datagram.length := by omega
  have detected : ∀ data, data.length = datagram.length →
      data ≠ datagram →
      (DifferInField datagram data ∨
        ∃ changed, DifferInWord datagram data changed) →
      ∃ message, unpack data = .error (.checksumError message) := by
    intro data sameLength changed localised
    apply unpack_checksumError (by rwa [sameLength])
    rcases localised with inField | ⟨changedWord, inWord⟩
    · exact inField.disagrees sameLength long changed agrees
    · exact inWord.disagrees sameLength long changed agrees
  refine ⟨detected, fun index byte changed => ?_⟩
  apply detected _ List.length_set changed
  rcases differ_set long index byte with inField | inWord
  · exact .inl inField
  · exact .inr ⟨_, inWord⟩

/-- A flipped bit in `ack_num` and one in the checksum of an acknowledgement. -/
theorem localised_corruption_detected_ack :
    (∃ message, unpack [0, 0, 0, 0, 0, 0, 0, 3, 2, 0, 64, 189, 254] =
      .error (.checksumError message)) ∧
    ∃ message, unpack [0, 0, 0, 0, 0, 0, 0, 1, 2, 0, 64, 189, 255] =
      .error (.checksumError message) := by
  have onWire : OnWire
      { seqNum := 0, ackNum := 1, flags := flagAck, rwnd := 64 } :=
    ⟨⟨by decide, by decide, by decide, by decide⟩, .inr ⟨rfl, rfl, rfl⟩⟩
  have packed : RUDPPacket.pack
      { seqNum := 0, ackNum := 1, flags := flagAck, rwnd := 64 } =
        .ok [0, 0, 0, 0, 0, 0, 0, 1, 2, 0, 64, 189, 254] := by
    decide +kernel
  have detected := (localised_corruption_detected onWire packed).2
  exact ⟨detected 7 3 (by decide), detected 12 255 (by decide)⟩

end RUDPPacket

end RudpAgentStack

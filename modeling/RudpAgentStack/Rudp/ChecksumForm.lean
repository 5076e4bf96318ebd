import RudpAgentStack.Rudp.Checksum
import Mathlib.Data.Nat.ModEq
import Mathlib.Logic.Function.Iterate

/-!
# The closed form of the checksum

The carry loop ends after some number of rounds, each of which keeps the sum
modulo `65535`.  What the complement and the replacement of `0x0000` make of
the result is `65535` less the sum of the words modulo `65535`, so that the
checksums of two packets agree exactly when their sums are congruent.
-/

namespace RudpAgentStack

open Foundation
open Foundation.OnesComplement

namespace RUDPPacket

/-- One round of the carry loop. -/
def carryRound (csum : Nat) : Nat := (csum &&& 0xFFFF) + (csum >>> 16)

/-- The carry loop makes so many rounds: its condition holds before each of them
and no longer after the last. -/
def LoopEnds (csum rounds : Nat) : Prop :=
  (∀ earlier < rounds, 0 < carryRound^[earlier] csum >>> 16) ∧
    carryRound^[rounds] csum >>> 16 = 0

/-- The carry loop ends, and returns what its last round leaves. -/
theorem exists_loopEnds (csum : Nat) :
    ∃ rounds, LoopEnds csum rounds ∧
      addCarry csum = carryRound^[rounds] csum := by
  induction csum using addCarry.induct with
  | case1 csum carry inductionHypothesis =>
      obtain ⟨rounds, ⟨before, after⟩, result⟩ := inductionHypothesis
      refine ⟨rounds + 1, ⟨?_, after⟩, ?_⟩
      · intro earlier inRange
        cases earlier with
        | zero => exact carry
        | succ earlier => exact before earlier (Nat.lt_of_succ_lt_succ inRange)
      · rw [addCarry, if_pos carry]
        exact result
  | case2 csum noCarry =>
      refine ⟨0, ⟨fun earlier inRange => absurd inRange earlier.not_lt_zero,
        Nat.eq_zero_of_not_pos noCarry⟩, ?_⟩
      rw [addCarry, if_neg noCarry]
      rfl

/-- Sum of the 16-bit words of a datagram, with the checksum field taken as
zero and a zero byte added to an odd length. -/
def wordSum (datagram : Bytes) : Nat := (words (blankChecksum datagram)).sum

/-- The bytes with a zero byte added when their number is odd. -/
def padded (bytes : Bytes) : Bytes :=
  if bytes.length % 2 = 1 then bytes ++ [0] else bytes

/-- What the carry loop starts from is the sum of the words. -/
theorem addWords_wordSum (datagram : Bytes) :
    addWords 0 (padded (blankChecksum datagram)) = wordSum datagram :=
  (addWords_padded 0 _).trans (Nat.zero_add _)

/-- A checksum of the closed form tells the residue of the sum. -/
theorem complement_residue_eq_iff (sum sum' : Nat) :
    65535 - sum % 65535 = 65535 - sum' % 65535 ↔ sum ≡ sum' [MOD 65535] := by
  have below := Nat.mod_lt sum (by norm_num : 0 < 65535)
  have below' := Nat.mod_lt sum' (by norm_num : 0 < 65535)
  unfold Nat.ModEq
  omega

/-- The checksum of a packed packet is `65535` less the sum of the words of its
datagram modulo `65535`. -/
theorem calculateChecksum_of_pack
    {packet : RUDPPacket} {datagram : Bytes}
    (packed : packet.pack = .ok datagram) :
    packet.calculateChecksum =
      .ok ((65535 - wordSum datagram % 65535 : Nat) : Int) := by
  unfold pack at packed
  cases calculated : packet.calculateChecksum with
  | error error =>
      rw [calculated] at packed
      cases packed
  | ok checksum =>
      rw [calculated] at packed
      rw [← calculated, calculateChecksum_of_packetBytes packed,
        onesComplementChecksum_eq]
      rfl

/-- For every packet that packs, the carry loop starts from the sum of the
words of the datagram and ends.  The checksum is `65535` less that sum modulo
`65535`, it is positive and fits its field, and another packet has the same one
exactly when the sums are congruent. -/
theorem calculateChecksum_closedForm
    {packet : RUDPPacket} {datagram : Bytes}
    (packed : packet.pack = .ok datagram) :
    (∃ rounds,
      LoopEnds (addWords 0 (padded (blankChecksum datagram))) rounds) ∧
      addWords 0 (padded (blankChecksum datagram)) = wordSum datagram ∧
      (∃ checksum : Nat, packet.calculateChecksum = .ok (checksum : Int) ∧
        checksum = 65535 - wordSum datagram % 65535 ∧
        0 < checksum ∧ checksum < 2 ^ 16) ∧
      ∀ other otherDatagram, RUDPPacket.pack other = .ok otherDatagram →
        (other.calculateChecksum = packet.calculateChecksum ↔
          wordSum otherDatagram ≡ wordSum datagram [MOD 65535]) := by
  have below := Nat.mod_lt (wordSum datagram) (by norm_num : 0 < 65535)
  refine ⟨?_, addWords_wordSum datagram,
    ⟨_, calculateChecksum_of_pack packed, rfl, ?_, ?_⟩, ?_⟩
  · obtain ⟨rounds, ends, _⟩ :=
      exists_loopEnds (addWords 0 (padded (blankChecksum datagram)))
    exact ⟨rounds, ends⟩
  · omega
  · omega
  · intro other otherDatagram otherPacked
    rw [calculateChecksum_of_pack packed, calculateChecksum_of_pack otherPacked,
      Except.ok.injEq, Nat.cast_inj]
    exact complement_residue_eq_iff _ _

/-- An acknowledgement of an odd length, whose words add up to `16897`. -/
theorem calculateChecksum_closedForm_ack :
    wordSum [0, 0, 0, 0, 0, 0, 0, 1, 2, 0, 64, 189, 254] = 16897 ∧
    ∃ checksum : Nat, RUDPPacket.calculateChecksum
        { seqNum := 0, ackNum := 1, flags := flagAck, rwnd := 64 } =
          .ok (checksum : Int) ∧
      checksum = 65535 - wordSum
        [0, 0, 0, 0, 0, 0, 0, 1, 2, 0, 64, 189, 254] % 65535 ∧
      0 < checksum ∧ checksum < 2 ^ 16 := by
  have packed : RUDPPacket.pack
      { seqNum := 0, ackNum := 1, flags := flagAck, rwnd := 64 } =
        .ok [0, 0, 0, 0, 0, 0, 0, 1, 2, 0, 64, 189, 254] := by
    decide +kernel
  refine ⟨by decide +kernel, ?_⟩
  exact (calculateChecksum_closedForm packed).2.2.1

end RUDPPacket

end RudpAgentStack

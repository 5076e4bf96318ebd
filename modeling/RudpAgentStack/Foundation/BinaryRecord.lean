import Mathlib.Data.List.Basic
import Mathlib.Data.List.Induction
import Mathlib.Algebra.Order.Ring.Int
import Mathlib.Tactic.NormNum
import Mathlib.Tactic.Ring

/-!
# Big-endian binary records

A record format is a list of byte widths.  Packing writes every field as an
unsigned big-endian integer and fails when a field does not fit; unpacking
reads the fields of a byte string of exactly the right length.  The two
operations are inverse partial functions (`unpack_eq_some_iff`), from which
every round trip of a concrete format follows.
-/

namespace Foundation

/-- Byte strings. -/
abbrev Bytes := List UInt8

/-! ## Unsigned integers of a fixed width -/

/-- The low `width` bytes of a number, most significant byte first. -/
def toBigEndian : (width : Nat) → Nat → Bytes
  | 0, _ => []
  | width + 1, value => toBigEndian width (value / 256) ++ [UInt8.ofNat value]

/-- The number written by a byte string, most significant byte first. -/
def ofBigEndian (bytes : Bytes) : Nat :=
  bytes.foldl (fun value byte => value * 256 + byte.toNat) 0

@[simp] theorem length_toBigEndian (width value : Nat) :
    (toBigEndian width value).length = width := by
  induction width generalizing value with
  | zero => rfl
  | succ width inductionHypothesis =>
      simp [toBigEndian, inductionHypothesis]

@[simp] theorem ofBigEndian_nil : ofBigEndian [] = 0 := rfl

@[simp] theorem ofBigEndian_append_singleton (bytes : Bytes) (byte : UInt8) :
    ofBigEndian (bytes ++ [byte]) = ofBigEndian bytes * 256 + byte.toNat := by
  simp [ofBigEndian]

/-- A byte string writes a number below `256` to the power of its length. -/
theorem ofBigEndian_lt (bytes : Bytes) :
    ofBigEndian bytes < 256 ^ bytes.length := by
  induction bytes using List.reverseRecOn with
  | nil => simp
  | append_singleton bytes byte inductionHypothesis =>
      have byteBound := byte.toNat_lt
      rw [ofBigEndian_append_singleton, List.length_append,
        List.length_singleton, pow_succ]
      omega

/-- Reading back a written number keeps it when it fits the width. -/
theorem ofBigEndian_toBigEndian
    {width value : Nat} (fits : value < 256 ^ width) :
    ofBigEndian (toBigEndian width value) = value := by
  induction width generalizing value with
  | zero =>
      rw [pow_zero] at fits
      simp [toBigEndian]
      omega
  | succ width inductionHypothesis =>
      rw [pow_succ] at fits
      have quotientFits : value / 256 < 256 ^ width := by omega
      rw [toBigEndian, ofBigEndian_append_singleton,
        inductionHypothesis quotientFits, UInt8.toNat_ofNat']
      omega

/-- Writing a number that was read gives the same bytes. -/
theorem toBigEndian_ofBigEndian (bytes : Bytes) :
    toBigEndian bytes.length (ofBigEndian bytes) = bytes := by
  induction bytes using List.reverseRecOn with
  | nil => rfl
  | append_singleton bytes byte inductionHypothesis =>
      have byteBound := byte.toNat_lt
      have quotient :
          (ofBigEndian bytes * 256 + byte.toNat) / 256 = ofBigEndian bytes := by
        omega
      have lastByte :
          UInt8.ofNat (ofBigEndian bytes * 256 + byte.toNat) = byte := by
        apply UInt8.toNat_inj.mp
        rw [UInt8.toNat_ofNat']
        omega
      rw [ofBigEndian_append_singleton, List.length_append,
        List.length_singleton, toBigEndian, quotient, lastByte,
        inductionHypothesis]

/-! ## Records -/

namespace BinaryRecord

/-- The field values of a record format. -/
@[reducible] def Fields : List Nat → Type
  | [] => Unit
  | _ :: widths => Int × Fields widths

/-- Every field fits its width. -/
def InRange : (widths : List Nat) → Fields widths → Prop
  | [], _ => True
  | width :: widths, (value, values) =>
      (0 ≤ value ∧ value < 256 ^ width) ∧ InRange widths values

/-- Write a record, failing on a field that is out of range. -/
def pack : (widths : List Nat) → Fields widths → Option Bytes
  | [], _ => some []
  | width :: widths, (value, values) =>
      if 0 ≤ value ∧ value < 256 ^ width then
        (pack widths values).map (toBigEndian width value.toNat ++ ·)
      else none

/-- Read a record from a byte string of exactly its size. -/
def unpack : (widths : List Nat) → Bytes → Option (Fields widths)
  | [], bytes => if bytes = [] then some () else none
  | width :: widths, bytes =>
      if width ≤ bytes.length then
        (unpack widths (bytes.drop width)).map
          (((ofBigEndian (bytes.take width) : Nat) : Int), ·)
      else none

/-- Packing succeeds exactly on records in range. -/
theorem exists_pack_iff
    (widths : List Nat) (values : Fields widths) :
    (∃ bytes, pack widths values = some bytes) ↔ InRange widths values := by
  induction widths with
  | nil => simp [pack, InRange]
  | cons width widths inductionHypothesis =>
      obtain ⟨value, values⟩ := values
      by_cases fits : 0 ≤ value ∧ value < 256 ^ width
      · rw [pack, if_pos fits, InRange, ← inductionHypothesis]
        simp only [Option.map_eq_some_iff, fits, and_self, true_and]
        constructor
        · rintro ⟨_, rest, packed, _⟩
          exact ⟨rest, packed⟩
        · rintro ⟨rest, packed⟩
          exact ⟨_, rest, packed, rfl⟩
      · simp [pack, InRange, fits]

/-- A packed record is as long as its format says. -/
theorem length_of_pack
    {widths : List Nat} {values : Fields widths} {bytes : Bytes}
    (packed : pack widths values = some bytes) :
    bytes.length = widths.sum := by
  induction widths generalizing bytes with
  | nil =>
      simp only [pack, Option.some.injEq] at packed
      simp [← packed]
  | cons width widths inductionHypothesis =>
      obtain ⟨value, values⟩ := values
      simp only [pack] at packed
      split at packed
      · obtain ⟨rest, restPacked, rfl⟩ := Option.map_eq_some_iff.mp packed
        simp [inductionHypothesis restPacked]
      · exact absurd packed (by simp)

/-- The bytes of one field followed by the rest of a record. -/
private theorem split_field_iff
    {width : Nat} {value : Int} {rest bytes : Bytes} :
    (width ≤ bytes.length ∧ bytes.drop width = rest ∧
        ((ofBigEndian (bytes.take width) : Nat) : Int) = value) ↔
      ((0 ≤ value ∧ value < 256 ^ width) ∧
        toBigEndian width value.toNat ++ rest = bytes) := by
  constructor
  · rintro ⟨enough, rfl, rfl⟩
    have taken : (bytes.take width).length = width := by
      rw [List.length_take]
      omega
    have bound := ofBigEndian_lt (bytes.take width)
    rw [taken] at bound
    refine ⟨⟨by omega, by exact_mod_cast bound⟩, ?_⟩
    have rewritten := toBigEndian_ofBigEndian (bytes.take width)
    rw [taken] at rewritten
    rw [Int.toNat_natCast, rewritten, List.take_append_drop]
  · rintro ⟨⟨nonnegative, bound⟩, rfl⟩
    have natBound : value.toNat < 256 ^ width := by
      rw [← Int.toNat_of_nonneg nonnegative] at bound
      exact_mod_cast bound
    refine ⟨by simp, ?_, ?_⟩
    · exact List.drop_left' (length_toBigEndian width value.toNat)
    · rw [List.take_left' (length_toBigEndian width value.toNat),
        ofBigEndian_toBigEndian natBound, Int.toNat_of_nonneg nonnegative]

/-- Packing and unpacking are inverse partial functions. -/
theorem unpack_eq_some_iff
    (widths : List Nat) (bytes : Bytes) (values : Fields widths) :
    unpack widths bytes = some values ↔ pack widths values = some bytes := by
  induction widths generalizing bytes with
  | nil =>
      by_cases done : bytes = [] <;> simp [unpack, pack, done, eq_comm]
  | cons width widths inductionHypothesis =>
      obtain ⟨value, values⟩ := values
      have read :
          unpack (width :: widths) bytes = some (value, values) ↔
            ∃ rest, pack widths values = some rest ∧
              (width ≤ bytes.length ∧ bytes.drop width = rest ∧
                ((ofBigEndian (bytes.take width) : Nat) : Int) = value) := by
        by_cases enough : width ≤ bytes.length
        · simp only [unpack, if_pos enough, Option.map_eq_some_iff,
            inductionHypothesis, Prod.mk.injEq]
          constructor
          · rintro ⟨_, packed, valueEquality, rfl⟩
            exact ⟨_, packed, enough, rfl, valueEquality⟩
          · rintro ⟨_, packed, _, rfl, valueEquality⟩
            exact ⟨values, packed, valueEquality, rfl⟩
        · simp [unpack, enough]
      have written :
          pack (width :: widths) (value, values) = some bytes ↔
            ∃ rest, pack widths values = some rest ∧
              ((0 ≤ value ∧ value < 256 ^ width) ∧
                toBigEndian width value.toNat ++ rest = bytes) := by
        by_cases fits : 0 ≤ value ∧ value < 256 ^ width
        · simp [pack, fits, Option.map_eq_some_iff]
        · simp [pack, fits]
      rw [read, written]
      simp only [split_field_iff]

/-- Unpacking succeeds exactly on byte strings of the record's size. -/
theorem exists_unpack_iff (widths : List Nat) (bytes : Bytes) :
    (∃ values, unpack widths bytes = some values) ↔
      bytes.length = widths.sum := by
  constructor
  · rintro ⟨values, unpacked⟩
    exact length_of_pack ((unpack_eq_some_iff widths bytes values).mp unpacked)
  · induction widths generalizing bytes with
    | nil =>
        intro lengthEquality
        exact ⟨(), by simp [unpack, List.length_eq_zero_iff.mp lengthEquality]⟩
    | cons width widths inductionHypothesis =>
        intro lengthEquality
        rw [List.sum_cons] at lengthEquality
        have restLength : (bytes.drop width).length = widths.sum := by
          rw [List.length_drop]
          omega
        obtain ⟨values, unpacked⟩ := inductionHypothesis _ restLength
        refine ⟨(((ofBigEndian (bytes.take width) : Nat) : Int), values), ?_⟩
        rw [unpack, if_pos (by omega), unpacked, Option.map_some]

end BinaryRecord

end Foundation

import RudpAgentStack.Foundation.BinaryRecord
import Mathlib.Algebra.BigOperators.Group.List.Basic

/-!
# One's complement sums

A byte string is read as big-endian 16-bit words, padded with a zero byte to
even length.  Adding the words with end-around carry computes their sum modulo
`65535`, where zero and `65535` stand for the same residue.  A change within
one word is therefore seen in the sum unless it exchanges these two.
-/

namespace Foundation

namespace OnesComplement

/-! ## End-around carry -/

/-- What end-around carries leave of a number: its residue, taken from `1` on,
unless the number is zero. -/
def endAround (modulus value : Nat) : Nat :=
  if value = 0 then 0 else (value - 1) % modulus + 1

theorem endAround_of_le {modulus value : Nat} (fits : value ≤ modulus) :
    endAround modulus value = value := by
  unfold endAround
  split
  · next zero => exact zero.symm
  · rw [Nat.mod_eq_of_lt (by omega)]
    omega

/-- Carrying once around the end changes nothing. -/
theorem endAround_carry (modulus value : Nat) :
    endAround modulus (value % (modulus + 1) + value / (modulus + 1)) =
      endAround modulus value := by
  have parts := Nat.mod_add_div value (modulus + 1)
  rw [Nat.succ_mul] at parts
  generalize value % (modulus + 1) = remainder at parts ⊢
  generalize value / (modulus + 1) = quotient at parts ⊢
  unfold endAround
  by_cases zero : value = 0
  · rw [if_pos zero, if_pos (by omega)]
  · have positive : remainder + quotient ≠ 0 := by
      intro vanishes
      obtain rfl : quotient = 0 := by omega
      simp only [Nat.mul_zero] at parts
      omega
    have shifted : value - 1 =
        remainder + quotient - 1 + modulus * quotient := by
      omega
    rw [if_neg positive, if_neg zero, shifted, Nat.add_mul_mod_self_left]

/-- The complement of an end-around sum, with `modulus` in place of zero,
depends on the residue alone. -/
theorem complement_endAround {modulus : Nat} (positive : 0 < modulus)
    (value : Nat) :
    (if modulus - endAround modulus value = 0 then modulus
      else modulus - endAround modulus value) = modulus - value % modulus := by
  unfold endAround
  by_cases zero : value = 0
  · simp [zero]
  · rw [if_neg zero]
    have below := Nat.mod_lt (value - 1) positive
    have successor : value % modulus = ((value - 1) % modulus + 1) % modulus := by
      rw [Nat.mod_add_mod, Nat.sub_add_cancel (Nat.pos_of_ne_zero zero)]
    by_cases last : (value - 1) % modulus + 1 = modulus
    · rw [if_pos (by omega), successor, last, Nat.mod_self, Nat.sub_zero]
    · have smaller : (value - 1) % modulus + 1 < modulus := by omega
      rw [if_neg (by omega), successor, Nat.mod_eq_of_lt smaller]

/-! ## Words -/

/-- The byte at an index, zero beyond the end. -/
def byteAt (bytes : Bytes) (index : Nat) : Nat :=
  bytes[index]?.elim 0 UInt8.toNat

/-- The word at an index. -/
def word (bytes : Bytes) (index : Nat) : Nat :=
  256 * byteAt bytes (2 * index) + byteAt bytes (2 * index + 1)

/-- The words of a byte string, the last one padded. -/
def words : Bytes → List Nat
  | high :: low :: rest => (256 * high.toNat + low.toNat) :: words rest
  | [high] => [256 * high.toNat]
  | [] => []

theorem byteAt_lt (bytes : Bytes) (index : Nat) : byteAt bytes index < 256 := by
  unfold byteAt
  cases bytes[index]? with
  | none => simp
  | some byte => exact byte.toNat_lt

theorem word_lt (bytes : Bytes) (index : Nat) : word bytes index < 65536 := by
  have high := byteAt_lt bytes (2 * index)
  have low := byteAt_lt bytes (2 * index + 1)
  unfold word
  omega

theorem byteAt_of_length_le {bytes : Bytes} {index : Nat}
    (beyond : bytes.length ≤ index) : byteAt bytes index = 0 := by
  rw [byteAt, List.getElem?_eq_none beyond, Option.elim_none]

/-- Byte strings of one length that agree on an index as numbers agree on
it. -/
theorem getElem?_eq_of_byteAt_eq {left right : Bytes} {index : Nat}
    (sameLength : left.length = right.length)
    (same : byteAt left index = byteAt right index) :
    left[index]? = right[index]? := by
  by_cases inside : index < left.length
  · have inside' : index < right.length := by omega
    simp only [byteAt, List.getElem?_eq_getElem inside,
      List.getElem?_eq_getElem inside', Option.elim_some] at same
    rw [List.getElem?_eq_getElem inside, List.getElem?_eq_getElem inside',
      UInt8.toNat_inj.mp same]
  · rw [List.getElem?_eq_none (by omega), List.getElem?_eq_none (by omega)]

/-- Equal words have equal bytes. -/
theorem byteAt_eq_of_word_eq {left right : Bytes} {index : Nat}
    (same : word left index = word right index) :
    byteAt left (2 * index) = byteAt right (2 * index) ∧
      byteAt left (2 * index + 1) = byteAt right (2 * index + 1) := by
  have leftLow := byteAt_lt left (2 * index + 1)
  have rightLow := byteAt_lt right (2 * index + 1)
  unfold word at same
  omega

theorem word_of_length_le {bytes : Bytes} {index : Nat}
    (beyond : bytes.length ≤ 2 * index) : word bytes index = 0 := by
  rw [word, byteAt_of_length_le beyond, byteAt_of_length_le (by omega)]

theorem getElem?_words (bytes : Bytes) (index : Nat) :
    (words bytes)[index]? =
      if 2 * index < bytes.length then some (word bytes index) else none := by
  induction bytes using words.induct generalizing index with
  | case1 high low rest inductionHypothesis =>
      cases index with
      | zero => simp [words, word, byteAt]
      | succ index =>
          rw [words, List.getElem?_cons_succ, inductionHypothesis]
          refine if_congr (by simp only [List.length_cons]; omega) ?_ rfl
          simp [word, byteAt, Nat.mul_add]
  | case2 high =>
      cases index with
      | zero => simp [words, word, byteAt]
      | succ index =>
          simp [words]
  | case3 => simp [words]

/-- Two byte strings that differ in the bytes of one word only differ in that
word. -/
theorem words_eq_set {left right : Bytes} {changed : Nat}
    (sameLength : right.length = left.length)
    (elsewhere : ∀ index, index / 2 ≠ changed →
      right[index]? = left[index]?) :
    words right = (words left).set changed (word right changed) := by
  apply List.ext_getElem?
  intro index
  rw [List.getElem?_set', getElem?_words, getElem?_words, sameLength]
  by_cases same : changed = index
  · subst same
    rw [if_pos rfl]
    split <;> rfl
  · rw [if_neg same]
    have high := elsewhere (2 * index) (by omega)
    have low := elsewhere (2 * index + 1) (by omega)
    simp only [word, byteAt, high, low]

/-- Replacing one number of a list moves its sum by their difference. -/
theorem sum_set_add {values : List Nat} {index old : Nat}
    (found : values[index]? = some old) (new : Nat) :
    (values.set index new).sum + old = values.sum + new := by
  induction values generalizing index with
  | nil => simp at found
  | cons value values inductionHypothesis =>
      cases index with
      | zero =>
          obtain rfl : value = old := by simpa using found
          simp only [List.set_cons_zero, List.sum_cons]
          omega
      | succ index =>
          have shorter := inductionHypothesis
            (by rwa [List.getElem?_cons_succ] at found)
          simp only [List.set_cons_succ, List.sum_cons]
          omega

/-- A change within one word that does not exchange zero and `65535` changes
the sum modulo `65535`. -/
theorem sum_words_mod_ne {left right : Bytes} {changed : Nat}
    (sameLength : right.length = left.length)
    (elsewhere : ∀ index, index / 2 ≠ changed →
      right[index]? = left[index]?)
    (different : word right changed ≠ word left changed)
    (notRaised : ¬ (word left changed = 0 ∧ word right changed = 65535))
    (notLowered : ¬ (word left changed = 65535 ∧ word right changed = 0)) :
    (words right).sum % 65535 ≠ (words left).sum % 65535 := by
  have present : 2 * changed < left.length := by
    by_contra beyond
    rw [word_of_length_le (by omega), word_of_length_le (by omega)]
      at different
    exact different rfl
  have found : (words left)[changed]? = some (word left changed) := by
    rw [getElem?_words, if_pos present]
  have moved := sum_set_add found (word right changed)
  rw [← words_eq_set sameLength elsewhere] at moved
  have leftBound := word_lt left changed
  have rightBound := word_lt right changed
  omega

end OnesComplement

end Foundation

import RudpAgentStack.Foundation.Text

/-!
# Encoding and decoding UTF-8

Every text without surrogates is read back from its encoding, so different
texts have different encodings.  What is decoded has no surrogates, and where
strict decoding succeeds the replacing one replaces nothing.
-/

namespace Foundation

namespace Text

/-! ## Sequences -/

theorem decodeSequence_one {lead : UInt8} (rest : Bytes)
    (bound : lead.toNat < 0x80) :
    decodeSequence lead rest = (some lead.toNat, rest) := by
  rw [decodeSequence, if_pos (UInt8.lt_iff_toNat_lt.mpr bound)]

theorem decodeSequence_two {lead : UInt8} (rest : Bytes)
    (low : 0xC2 ≤ lead.toNat) (high : lead.toNat < 0xE0) :
    decodeSequence lead rest =
      decodeTail 1 0x80 0xBF (lead.toNat - 0xC0) rest := by
  simp only [decodeSequence, UInt8.lt_iff_toNat_lt, UInt8.reduceToNat]
  rw [if_neg (by omega), if_neg (by omega), if_pos high]

/-- The second byte of three excludes long forms and surrogates. -/
theorem decodeSequence_three {lead : UInt8} (rest : Bytes)
    (low : 0xE0 ≤ lead.toNat) (high : lead.toNat < 0xF0) :
    decodeSequence lead rest =
      decodeTail 2 (if lead.toNat = 0xE0 then 0xA0 else 0x80)
        (if lead.toNat = 0xED then 0x9F else 0xBF) (lead.toNat - 0xE0)
        rest := by
  simp only [decodeSequence, UInt8.lt_iff_toNat_lt, ← UInt8.toNat_inj,
    UInt8.reduceToNat]
  rw [if_neg (by omega), if_neg (by omega), if_neg (by omega), if_pos high]
  split
  · next first => simp [first]
  · split
    · next surrogates => simp [surrogates]
    · rfl

/-- The second byte of four excludes long forms and what is out of range. -/
theorem decodeSequence_four {lead : UInt8} (rest : Bytes)
    (low : 0xF0 ≤ lead.toNat) (high : lead.toNat < 0xF5) :
    decodeSequence lead rest =
      decodeTail 3 (if lead.toNat = 0xF0 then 0x90 else 0x80)
        (if lead.toNat = 0xF4 then 0x8F else 0xBF) (lead.toNat - 0xF0)
        rest := by
  simp only [decodeSequence, UInt8.lt_iff_toNat_lt, ← UInt8.toNat_inj,
    UInt8.reduceToNat]
  rw [if_neg (by omega), if_neg (by omega), if_neg (by omega),
    if_neg (by omega), if_neg (by omega), if_neg (by omega)]
  split
  · next first => simp [first]
  · split
    · next middle => rw [if_neg (by omega)]
    · next last =>
        have isLast : lead.toNat = 0xF4 := by omega
        simp [isLast]

/-- A lead byte that starts no sequence. -/
theorem decodeSequence_none {lead : UInt8} (rest : Bytes)
    (invalid : (0x80 ≤ lead.toNat ∧ lead.toNat < 0xC2) ∨ 0xF5 ≤ lead.toNat) :
    decodeSequence lead rest = (none, rest) := by
  simp only [decodeSequence, UInt8.lt_iff_toNat_lt, ← UInt8.toNat_inj,
    UInt8.reduceToNat]
  rw [if_neg (by omega)]
  split
  · rfl
  · rw [if_neg (by omega), if_neg (by omega), if_neg (by omega),
      if_neg (by omega), if_neg (by omega), if_neg (by omega),
      if_neg (by omega)]

/-! ## Reading back what was written -/

theorem toNat_ofNat {value : Nat} (bound : value < 256) :
    (UInt8.ofNat value).toNat = value :=
  UInt8.toNat_ofNat_of_lt' bound

theorem decodeTail_cons
    {low high : UInt8} {byte : Nat} (missing value : Nat) (rest : Bytes)
    (bound : byte < 256) (above : low.toNat ≤ byte)
    (below : byte ≤ high.toNat) :
    decodeTail (missing + 1) low high value (.ofNat byte :: rest) =
      decodeTail missing 0x80 0xBF (value * 64 + (byte - 0x80)) rest := by
  rw [decodeTail, if_pos, toNat_ofNat bound]
  simp only [UInt8.le_iff_toNat_le, toNat_ofNat bound]
  exact ⟨above, below⟩

/-- A continuation byte as the encoding writes it. -/
theorem decodeTail_tail
    (missing value part : Nat) (rest : Bytes) :
    decodeTail (missing + 1) 0x80 0xBF value
        (.ofNat (0x80 + part % 64) :: rest) =
      decodeTail missing 0x80 0xBF (value * 64 + part % 64) rest := by
  have short := Nat.mod_lt part (show 0 < 64 by decide)
  rw [decodeTail_cons _ _ _ (by omega)
    (by simp only [UInt8.reduceToNat]; omega)
    (by simp only [UInt8.reduceToNat]; omega), Nat.add_sub_cancel_left]

/-- The encoding of a code point that is no surrogate is read back. -/
theorem decodeSequence_encodePoint
    (point : CodePoint) (valid : isSurrogate point = false) (rest : Bytes) :
    ∃ lead tail, encodePoint point = lead :: tail ∧
      decodeSequence lead (tail ++ rest) = (some point.val, rest) := by
  have bound := point.isLt
  unfold isSurrogate at valid
  unfold encodePoint
  generalize point.val = value at bound valid ⊢
  simp only [Bool.and_eq_false_iff, decide_eq_false_iff_not, not_le] at valid
  simp only [Nat.shiftRight_eq_div_pow, Nat.pow_zero, Nat.div_one,
    Nat.reducePow]
  split
  · next one =>
      refine ⟨_, _, rfl, ?_⟩
      have leadValue := toNat_ofNat (show value < 256 by omega)
      rw [decodeSequence_one _ (by omega), leadValue, List.nil_append]
  · split
    · next two =>
        refine ⟨_, _, rfl, ?_⟩
        have leadValue := toNat_ofNat (show 0xC0 + value / 64 < 256 by omega)
        rw [decodeSequence_two _ (by omega) (by omega), leadValue,
          List.cons_append, decodeTail_tail, decodeTail]
        simp only [Prod.mk.injEq, Option.some.injEq, List.nil_append, and_true]
        omega
    · split
      · next three =>
          refine ⟨_, _, rfl, ?_⟩
          have leadValue :=
            toNat_ofNat (show 0xE0 + value / 4096 < 256 by omega)
          rw [decodeSequence_three _ (by omega) (by omega), leadValue,
            List.cons_append, List.cons_append, decodeTail_cons _ _ _
              (by omega) (by split <;> simp only [UInt8.reduceToNat] <;> omega)
              (by split <;> simp only [UInt8.reduceToNat] <;> omega),
            decodeTail_tail, decodeTail]
          simp only [Prod.mk.injEq, Option.some.injEq, List.nil_append,
            and_true]
          omega
      · next four =>
          refine ⟨_, _, rfl, ?_⟩
          have leadValue :=
            toNat_ofNat (show 0xF0 + value / 262144 < 256 by omega)
          rw [decodeSequence_four _ (by omega) (by omega), leadValue,
            List.cons_append, List.cons_append, List.cons_append,
            decodeTail_cons _ _ _ (by omega)
              (by split <;> simp only [UInt8.reduceToNat] <;> omega)
              (by split <;> simp only [UInt8.reduceToNat] <;> omega),
            decodeTail_tail, decodeTail_tail, decodeTail]
          simp only [Prod.mk.injEq, Option.some.injEq, List.nil_append,
            and_true]
          omega

@[simp] theorem decodeSequences_nil (fuel : Nat) :
    decodeSequences fuel [] = [] := by
  cases fuel <;> rfl

theorem decodeSequences_encode
    {text : Text} (valid : ∀ point ∈ text, isSurrogate point = false)
    {fuel : Nat} (enough : (text.flatMap encodePoint).length ≤ fuel) :
    decodeSequences fuel (text.flatMap encodePoint) = text.map some := by
  induction text generalizing fuel with
  | nil => exact decodeSequences_nil fuel
  | cons point text inductionHypothesis =>
      rw [List.forall_mem_cons] at valid
      obtain ⟨lead, tail, encoded, decoded⟩ := decodeSequence_encodePoint point
        valid.1 (text.flatMap encodePoint)
      rw [List.flatMap_cons, encoded, List.cons_append] at enough ⊢
      rw [List.length_cons, List.length_append] at enough
      cases fuel with
      | zero => omega
      | succ fuel =>
          have inRange : point.val < 0x110000 := point.isLt
          simp only [decodeSequences, decoded, Option.bind_some, dif_pos inRange,
            Fin.eta, List.map_cons]
          rw [inductionHypothesis valid.2 (by omega)]

theorem mapM_id_eq_some_iff {α : Type} {items : List (Option α)}
    {values : List α} :
    items.mapM id = some values ↔ items = values.map some := by
  induction items generalizing values with
  | nil => cases values <;> simp
  | cons item items inductionHypothesis =>
      rw [List.mapM_cons]
      cases item with
      | none => cases values <;> simp
      | some value =>
          cases values with
          | nil => simp [Option.bind_eq_some_iff]
          | cons value' values =>
              simp [← inductionHypothesis, Option.bind_eq_some_iff, and_comm]

/-- The two ways to say that a text can be encoded. -/
theorem encodeUtf8_eq_some_iff {text : Text} {bytes : Bytes} :
    encodeUtf8 text = some bytes ↔
      (∀ point ∈ text, isSurrogate point = false) ∧
        text.flatMap encodePoint = bytes := by
  unfold encodeUtf8
  split
  · next surrogate =>
      rw [List.any_eq_true] at surrogate
      obtain ⟨point, member, isOne⟩ := surrogate
      simp only [reduceCtorEq, false_iff, not_and]
      intro valid
      rw [valid point member] at isOne
      cases isOne
  · next valid => simp_all

/-- A text has at least one byte for each character. -/
theorem length_le_flatMap_encodePoint (text : Text) :
    text.length ≤ (text.flatMap encodePoint).length := by
  induction text with
  | nil => exact le_rfl
  | cons point text inductionHypothesis =>
      have some : 1 ≤ (encodePoint point).length := by
        unfold encodePoint
        dsimp only
        split_ifs <;> simp
      rw [List.flatMap_cons, List.length_append, List.length_cons]
      omega

/-- What is encoded is read back. -/
theorem decodeUtf8_encodeUtf8
    {text : Text} {bytes : Bytes} (encoded : encodeUtf8 text = some bytes) :
    decodeUtf8 bytes = some text := by
  obtain ⟨valid, rfl⟩ := encodeUtf8_eq_some_iff.mp encoded
  rw [decodeUtf8, mapM_id_eq_some_iff, decodeSequences_encode valid le_rfl]

/-- Different texts have different encodings. -/
theorem encodeUtf8_inj
    {text text' : Text} {bytes : Bytes} (encoded : encodeUtf8 text = some bytes)
    (encoded' : encodeUtf8 text' = some bytes) : text = text' := by
  have read := decodeUtf8_encodeUtf8 encoded
  rw [decodeUtf8_encodeUtf8 encoded'] at read
  cases read
  rfl

/-! ## What is decoded -/

/-- A continuation byte in the expected range was read. -/
theorem exists_byte_of_decodeTail
    {missing value decoded : Nat} {low high : UInt8} {bytes remaining : Bytes}
    (read : decodeTail (missing + 1) low high value bytes =
      (some decoded, remaining)) :
    ∃ byte rest, low.toNat ≤ byte ∧ byte ≤ high.toNat ∧
      decodeTail missing 0x80 0xBF (value * 64 + (byte - 0x80)) rest =
        (some decoded, remaining) := by
  cases bytes with
  | nil => cases read
  | cons byte rest =>
      rw [decodeTail] at read
      split at read
      · next continues =>
          simp only [UInt8.le_iff_toNat_le] at continues
          exact ⟨byte.toNat, rest, continues.1, continues.2, read⟩
      · cases read

/-- Decoding yields no surrogates. -/
theorem not_surrogate_of_decodeSequence
    {lead : UInt8} {rest remaining : Bytes} {value : Nat}
    (read : decodeSequence lead rest = (some value, remaining)) :
    value < 0xD800 ∨ 0xDFFF < value := by
  by_cases one : lead.toNat < 0x80
  · rw [decodeSequence_one rest one] at read
    cases read
    omega
  by_cases two : 0xC2 ≤ lead.toNat ∧ lead.toNat < 0xE0
  · rw [decodeSequence_two rest two.1 two.2] at read
    obtain ⟨first, _, low, high, read⟩ := exists_byte_of_decodeTail read
    rw [decodeTail, Prod.mk.injEq, Option.some.injEq] at read
    simp only [UInt8.reduceToNat] at low high
    omega
  by_cases three : 0xE0 ≤ lead.toNat ∧ lead.toNat < 0xF0
  · rw [decodeSequence_three rest three.1 three.2] at read
    obtain ⟨first, _, low, high, read⟩ := exists_byte_of_decodeTail read
    obtain ⟨second, _, low', high', read⟩ := exists_byte_of_decodeTail read
    rw [decodeTail, Prod.mk.injEq, Option.some.injEq] at read
    simp only [UInt8.reduceToNat] at low' high'
    split at high <;> split at low <;>
      simp only [UInt8.reduceToNat] at low high <;> omega
  by_cases four : 0xF0 ≤ lead.toNat ∧ lead.toNat < 0xF5
  · rw [decodeSequence_four rest four.1 four.2] at read
    obtain ⟨first, _, low, high, read⟩ := exists_byte_of_decodeTail read
    obtain ⟨second, _, low', high', read⟩ := exists_byte_of_decodeTail read
    obtain ⟨third, _, low'', high'', read⟩ := exists_byte_of_decodeTail read
    rw [decodeTail, Prod.mk.injEq, Option.some.injEq] at read
    simp only [UInt8.reduceToNat] at low' high' low'' high''
    split at high <;> split at low <;>
      simp only [UInt8.reduceToNat] at low high <;> omega
  · rw [decodeSequence_none rest (by omega)] at read
    cases read

theorem isSurrogate_of_decodeSequences
    {fuel : Nat} {bytes : Bytes} {point : CodePoint}
    (member : some point ∈ decodeSequences fuel bytes) :
    isSurrogate point = false := by
  induction fuel generalizing bytes with
  | zero => cases member
  | succ fuel inductionHypothesis =>
      cases bytes with
      | nil => cases member
      | cons lead rest =>
          rw [decodeSequences] at member
          generalize read : decodeSequence lead rest = outcome at member
          obtain ⟨value, remaining⟩ := outcome
          rcases List.mem_cons.mp member with first | later
          · obtain ⟨value, rfl, inRange⟩ :=
              Option.bind_eq_some_iff.mp first.symm
            split at inRange
            · cases inRange
              have range := not_surrogate_of_decodeSequence read
              simp [isSurrogate]
              omega
            · cases inRange
          · exact inductionHypothesis later

/-- What strict decoding yields has no surrogates. -/
theorem isSurrogate_of_decodeUtf8
    {bytes : Bytes} {text : Text} (decoded : decodeUtf8 bytes = some text) :
    ∀ point ∈ text, isSurrogate point = false := by
  rw [decodeUtf8, mapM_id_eq_some_iff] at decoded
  intro point member
  have read : some point ∈ decodeSequences bytes.length bytes := by
    rw [decoded]
    exact List.mem_map_of_mem member
  exact isSurrogate_of_decodeSequences read

/-- Where strict decoding succeeds, nothing is replaced. -/
theorem decodeUtf8Replacing_of_decodeUtf8
    {bytes : Bytes} {text : Text} (decoded : decodeUtf8 bytes = some text) :
    decodeUtf8Replacing bytes = text := by
  rw [decodeUtf8, mapM_id_eq_some_iff] at decoded
  rw [decodeUtf8Replacing, decoded, List.map_map]
  exact List.map_id text

end Text

end Foundation

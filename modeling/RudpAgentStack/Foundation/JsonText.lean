import RudpAgentStack.Foundation.Json
import RudpAgentStack.Foundation.Utf8

/-!
# Lengths of JSON texts

Written strings are ASCII, so they have as many bytes as characters, and a
character takes twelve characters at most.
-/

namespace Foundation

/-! ## ASCII -/

namespace Text

/-- Every character is in ASCII. -/
def Ascii (text : Text) : Prop := ∀ point ∈ text, point.val < 0x80

theorem ascii_of_all
    {text : Text} (every : text.all (fun point => point.val < 0x80) = true) :
    Ascii text := by
  simpa [Ascii] using every

theorem Ascii.append
    {first second : Text} (firstAscii : Ascii first)
    (secondAscii : Ascii second) : Ascii (first ++ second) := by
  intro point member
  rcases List.mem_append.mp member with inFirst | inSecond
  · exact firstAscii point inFirst
  · exact secondAscii point inSecond

theorem ascii_join
    {separator : Text} {parts : List Text} (separatorAscii : Ascii separator)
    (partsAscii : ∀ part ∈ parts, Ascii part) :
    Ascii (join separator parts) := by
  unfold join
  induction parts with
  | nil => exact nofun
  | cons part parts inductionHypothesis =>
      rw [List.forall_mem_cons] at partsAscii
      cases parts with
      | nil =>
          rw [List.intercalate_singleton]
          exact partsAscii.1
      | cons next parts =>
          rw [List.intercalate_cons_cons]
          exact (partsAscii.1.append separatorAscii).append
            (inductionHypothesis partsAscii.2)

theorem ascii_ofInt (number : Int) : Ascii (ofInt number) := by
  intro point member
  have small := le_of_mem_ofInt member
  omega

/-- A text in ASCII can be encoded. -/
theorem Ascii.valid {text : Text} (ascii : Ascii text) :
    ∀ point ∈ text, isSurrogate point = false := by
  intro point member
  have small := ascii point member
  simp only [isSurrogate, Bool.and_eq_false_imp, decide_eq_true_eq]
  omega

/-- A text in ASCII has one byte for each character. -/
theorem encodeUtf8_of_ascii {text : Text} (ascii : Ascii text) :
    ∃ bytes, encodeUtf8 text = some bytes ∧ bytes.length = text.length := by
  refine ⟨text.flatMap encodePoint,
    encodeUtf8_eq_some_iff.mpr ⟨ascii.valid, rfl⟩, ?_⟩
  induction text with
  | nil => rfl
  | cons point text inductionHypothesis =>
    rw [Ascii, List.forall_mem_cons] at ascii
    have single : (encodePoint point).length = 1 := by
      simp [encodePoint, ascii.1]
    rw [List.flatMap_cons, List.length_append, single,
      inductionHypothesis ascii.2, List.length_cons, Nat.add_comm]

/-- The number of digits of a number. -/
theorem length_ofInt_le {number digits : Nat} (positive : 0 < digits)
    (bound : number < 10 ^ digits) : (ofInt number).length ≤ digits := by
  rw [ofInt_natCast, List.length_map]
  exact (Nat.length_toDigits_le_iff (by decide) positive).mpr bound

end Text

/-! ## Strings -/

namespace Json

theorem hexDigit_ascii (digit : Nat) : (hexDigit (digit % 16)).val < 0x80 := by
  have bounded : ∀ digit < 16, (hexDigit digit).val < 0x80 := by decide
  exact bounded _ (Nat.mod_lt _ (by decide))

theorem escapeUnit_ascii (unit : Nat) : Text.Ascii (escapeUnit unit) := by
  apply Text.ascii_of_all
  simp [escapeUnit, hexDigit_ascii]

theorem length_escapeUnit (unit : Nat) : (escapeUnit unit).length = 6 := rfl

/-- A written character is in ASCII. -/
theorem escapePoint_ascii (point : CodePoint) :
    Text.Ascii (escapePoint point) := by
  unfold escapePoint
  dsimp only
  split_ifs with _ _ _ _ _ _ _ printable
  -- the characters with an escape of their own
  any_goals
    apply Text.ascii_of_all
    decide
  · intro other member
    rw [List.mem_singleton] at member
    rw [member]
    exact printable.2.trans (by decide)
  · exact escapeUnit_ascii _
  · exact (escapeUnit_ascii _).append (escapeUnit_ascii _)

/-- A written character takes between one and twelve characters. -/
theorem length_escapePoint (point : CodePoint) :
    1 ≤ (escapePoint point).length ∧ (escapePoint point).length ≤ 12 := by
  unfold escapePoint
  dsimp only
  split_ifs <;> simp [length_escapeUnit]

theorem writeString_ascii (value : Text) : Text.Ascii (writeString value) := by
  refine Text.Ascii.append (.append (Text.ascii_of_all (by decide)) ?_)
    (Text.ascii_of_all (by decide))
  intro point member
  obtain ⟨source, _, written⟩ := List.mem_flatMap.mp member
  exact escapePoint_ascii source point written

theorem length_writeString (value : Text) :
    value.length + 2 ≤ (writeString value).length ∧
      (writeString value).length ≤ 12 * value.length + 2 := by
  have escaped : value.length ≤ (value.flatMap escapePoint).length ∧
      (value.flatMap escapePoint).length ≤ 12 * value.length := by
    induction value with
    | nil => exact ⟨le_rfl, le_rfl⟩
    | cons point value inductionHypothesis =>
      have single := length_escapePoint point
      rw [List.flatMap_cons, List.length_append, List.length_cons]
      omega
  simp only [writeString, List.length_append, List.length_singleton]
  omega

/-- A written character takes at most six characters for each byte of its
UTF-8 form. -/
theorem length_escapePoint_le (point : CodePoint) :
    (escapePoint point).length ≤ 6 * (Text.encodePoint point).length := by
  have atLeastOne : 1 ≤ (Text.encodePoint point).length := by
    unfold Text.encodePoint
    dsimp only
    split_ifs <;> simp
  by_cases wide : point.val < 0x10000
  · -- Below the astral planes one unit of six characters is enough.
    have narrow : (escapePoint point).length ≤ 6 := by
      unfold escapePoint
      dsimp only
      rw [if_pos wide]
      split_ifs <;> simp [length_escapeUnit]
    omega
  · have four : (Text.encodePoint point).length = 4 := by
      unfold Text.encodePoint
      dsimp only
      rw [if_neg (by omega), if_neg (by omega), if_neg wide]
      rfl
    have bound := (length_escapePoint point).2
    omega

/-- A written string takes at most six characters for each byte of its UTF-8
form, and its quotes. -/
theorem length_writeString_le (value : Text) :
    (writeString value).length ≤
      6 * (value.flatMap Text.encodePoint).length + 2 := by
  have escaped : (value.flatMap escapePoint).length ≤
      6 * (value.flatMap Text.encodePoint).length := by
    induction value with
    | nil => exact le_rfl
    | cons point value inductionHypothesis =>
        have single := length_escapePoint_le point
        rw [List.flatMap_cons, List.flatMap_cons, List.length_append,
          List.length_append]
        omega
  simp only [writeString, List.length_append, List.length_singleton]
  omega

/-! ## Objects -/

theorem writeMembers_eq_map (sortKeys : Bool) (entries : List (Text × Json)) :
    writeMembers sortKeys entries =
      entries.map fun entry => (entry.1, write sortKeys entry.2) := by
  induction entries with
  | nil => simp [writeMembers]
  | cons entry entries inductionHypothesis =>
      rw [writeMembers, inductionHypothesis, List.map_cons]

@[simp] theorem write_string_ascii (sortKeys : Bool) (value : Text) :
    Text.Ascii (write sortKeys (.string value)) := by
  rw [write]
  exact writeString_ascii value

@[simp] theorem write_int_ascii (sortKeys : Bool) (number : Int) :
    Text.Ascii (write sortKeys (.int number)) := by
  rw [write]
  exact Text.ascii_ofInt number

@[simp] theorem write_null_ascii (sortKeys : Bool) :
    Text.Ascii (write sortKeys .null) := by
  rw [write]
  exact Text.ascii_of_all (by decide)

/-- An object is written in ASCII if its members are. -/
theorem write_object_ascii
    (sortKeys : Bool) {entries : List (Text × Json)}
    (ascii : ∀ entry ∈ entries, Text.Ascii (write sortKeys entry.2)) :
    Text.Ascii (write sortKeys (.object entries)) := by
  have members : ∀ member ∈ writeMembers sortKeys entries,
      Text.Ascii member.2 := by
    rw [writeMembers_eq_map]
    intro member isMember
    obtain ⟨entry, isEntry, rfl⟩ := List.mem_map.mp isMember
    exact ascii entry isEntry
  rw [write]
  refine ((Text.ascii_of_all (by decide)).append (Text.ascii_join
    (Text.ascii_of_all (by decide)) ?_)).append (Text.ascii_of_all (by decide))
  intro part isPart
  obtain ⟨⟨key, text⟩, isMember, rfl⟩ := List.mem_map.mp isPart
  have inMembers : (key, text) ∈ writeMembers sortKeys entries := by
    split at isMember
    · exact (List.mem_insertionSort _).mp isMember
    · exact isMember
  exact ((writeString_ascii key).append (Text.ascii_of_all (by decide))).append
    (members _ inMembers)

end Json

end Foundation

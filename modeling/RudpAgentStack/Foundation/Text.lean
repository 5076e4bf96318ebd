import RudpAgentStack.Foundation.BinaryRecord
import Mathlib.Data.List.Infix
import Mathlib.Data.List.Lex

/-!
# Text as code points

Strings of the modelled language are sequences of Unicode code points in which
lone surrogates may occur, so they are lists of code points rather than
`String`s.  The module has the UTF-8 codec in its strict and its replacing
form, line splitting, and the searches and trimmings the program uses.
Decimals are shown to be readable.
-/

namespace Foundation

/-- Unicode code points, surrogates included. -/
abbrev CodePoint := Fin 0x110000

/-- There are code points, so numerals denote them. -/
instance CodePoint.neZero : NeZero (0x110000 : Nat) := ⟨by decide⟩

/-- Strings of code points. -/
abbrev Text := List CodePoint

namespace Text

theorem toNat_lt (char : Char) : char.toNat < 0x110000 := by
  have valid : char.toNat < 0xd800 ∨
      (0xdfff < char.toNat ∧ char.toNat < 0x110000) := char.valid
  omega

/-- The text written by a string literal. -/
def ofString (literal : String) : Text :=
  literal.toList.map fun char => ⟨char.toNat, toNat_lt char⟩

instance : Coe String Text := ⟨ofString⟩

/-- An integer in decimal. -/
def ofInt (number : Int) : Text := ofString (toString number)

/-! ## Decimals -/

theorem ofInt_natCast (number : Nat) :
    ofInt number = (Nat.toDigits 10 number).map
      fun char => ⟨char.toNat, toNat_lt char⟩ := by
  have shown : toString (number : Int) = number.repr := rfl
  rw [ofInt, ofString, shown, Nat.toList_repr]

/-- Decimals are made of digits. -/
theorem digit_of_mem_ofInt {number : Nat} {point : CodePoint}
    (member : point ∈ ofInt number) : 0x30 ≤ point.val ∧ point.val ≤ 0x39 := by
  rw [ofInt_natCast] at member
  obtain ⟨char, isDigit, rfl⟩ := List.mem_map.mp member
  have digit := Nat.isDigit_of_mem_toDigits (by decide) (by decide) isDigit
  simpa [Char.isDigit, UInt32.le_iff_toNat_le] using digit

/-- No character of a number, its sign included, comes after the digits. -/
theorem le_of_mem_ofInt {number : Int} {point : CodePoint}
    (member : point ∈ ofInt number) : point.val ≤ 0x39 := by
  cases number with
  | ofNat natural => exact (digit_of_mem_ofInt member).2
  | negSucc natural =>
      have signed : ofInt (.negSucc natural) =
          ofString "-" ++ ofInt ((natural + 1 : Nat) : Int) := by
        rw [ofInt, ofInt, ofString, ofString, ofString, ← List.map_append,
          ← String.toList_append]
        rfl
      rw [signed, List.mem_append] at member
      rcases member with sign | digit
      · rw [List.mem_singleton.mp sign]
        decide
      · exact (digit_of_mem_ofInt digit).2

/-- Different numbers have different decimals. -/
theorem ofInt_inj {number number' : Nat}
    (same : ofInt number = ofInt number') : number = number' := by
  rw [ofInt_natCast, ofInt_natCast] at same
  have digits : Nat.toDigits 10 number = Nat.toDigits 10 number' := by
    refine List.map_injective_iff.mpr (fun char char' same => ?_) same
    exact Char.toNat_inj.mp (Fin.mk.inj same)
  rw [← Nat.ofDigitChars_ten_toDigits (n := number), digits,
    Nat.ofDigitChars_ten_toDigits]

/-- A number is read off up to the first character that is no digit. -/
theorem ofInt_append_inj
    {number number' : Nat} {point : CodePoint} {rest rest' : Text}
    (noDigit : point.val < 0x30 ∨ 0x39 < point.val)
    (same : ofInt number ++ point :: rest = ofInt number' ++ point :: rest') :
    number = number' ∧ rest = rest' := by
  have absent : ∀ number : Nat, point ∉ ofInt number := by
    intro number member
    have digit := digit_of_mem_ofInt member
    omega
  have upTo : ∀ (number : Nat) rest,
      (ofInt number ++ point :: rest).takeWhile (· ≠ point) =
        ofInt number := by
    intro number rest
    rw [List.takeWhile_append_of_pos, List.takeWhile_cons_of_neg (by simp),
      List.append_nil]
    intro other member
    have different : other ≠ point := fun equal =>
      absent number (equal ▸ member)
    simpa using different
  have sameDecimal : ofInt number = ofInt number' := by
    rw [← upTo number rest, same, upTo number' rest']
  rw [sameDecimal, List.append_cancel_left_eq, List.cons.injEq] at same
  exact ⟨ofInt_inj sameDecimal, same.2⟩

/-! ## UTF-8 -/

/-- Surrogate code points, which UTF-8 cannot encode. -/
def isSurrogate (point : CodePoint) : Bool :=
  0xD800 ≤ point.val && point.val ≤ 0xDFFF

/-- The UTF-8 form of a code point. -/
def encodePoint (point : CodePoint) : Bytes :=
  let value := point.val
  let tail (shift : Nat) : UInt8 := .ofNat (0x80 + value >>> shift % 64)
  if value < 0x80 then [.ofNat value]
  else if value < 0x800 then [.ofNat (0xC0 + value >>> 6), tail 0]
  else if value < 0x10000 then
    [.ofNat (0xE0 + value >>> 12), tail 6, tail 0]
  else [.ofNat (0xF0 + value >>> 18), tail 12, tail 6, tail 0]

/-- The UTF-8 form of a text, if it has no surrogates. -/
def encodeUtf8 (text : Text) : Option Bytes :=
  if text.any isSurrogate then none else some (text.flatMap encodePoint)

/-- Read the continuation bytes of a sequence: the first of them lies between
`low` and `high`.  Returns the value read, if the sequence is complete, and the
rest of the bytes. -/
def decodeTail :
    (missing : Nat) → (low high : UInt8) → (value : Nat) → Bytes →
      Option Nat × Bytes
  | 0, _, _, value, rest => (some value, rest)
  | _ + 1, _, _, _, [] => (none, [])
  | missing + 1, low, high, value, byte :: rest =>
      if low ≤ byte ∧ byte ≤ high then
        decodeTail missing 0x80 0xBF (value * 64 + (byte.toNat - 0x80)) rest
      else (none, byte :: rest)

/-- Read one sequence given its first byte.  An ill-formed one ends before the
first byte that cannot continue it. -/
def decodeSequence (lead : UInt8) (rest : Bytes) : Option Nat × Bytes :=
  if lead < 0x80 then (some lead.toNat, rest)
  else if lead < 0xC2 then (none, rest)
  else if lead < 0xE0 then decodeTail 1 0x80 0xBF (lead.toNat - 0xC0) rest
  else if lead = 0xE0 then decodeTail 2 0xA0 0xBF 0 rest
  else if lead = 0xED then decodeTail 2 0x80 0x9F 0xD rest
  else if lead < 0xF0 then decodeTail 2 0x80 0xBF (lead.toNat - 0xE0) rest
  else if lead = 0xF0 then decodeTail 3 0x90 0xBF 0 rest
  else if lead < 0xF4 then decodeTail 3 0x80 0xBF (lead.toNat - 0xF0) rest
  else if lead = 0xF4 then decodeTail 3 0x80 0x8F 4 rest
  else (none, rest)

/-- The sequences of a byte string, ill-formed ones as `none`.  Every sequence
takes a byte at least, so the length of the string is enough fuel. -/
def decodeSequences : (fuel : Nat) → Bytes → List (Option CodePoint)
  | 0, _ => []
  | _ + 1, [] => []
  | fuel + 1, lead :: rest =>
      let (value, remaining) := decodeSequence lead rest
      value.bind (fun value =>
          if inRange : value < 0x110000 then some ⟨value, inRange⟩ else none) ::
        decodeSequences fuel remaining

/-- Strict decoding. -/
def decodeUtf8 (bytes : Bytes) : Option Text :=
  (decodeSequences bytes.length bytes).mapM id

/-- Decoding that puts U+FFFD in the place of every ill-formed sequence. -/
def decodeUtf8Replacing (bytes : Bytes) : Text :=
  (decodeSequences bytes.length bytes).map (·.getD 0xFFFD)

/-! ## Lines -/

/-- Characters at which `splitlines` breaks. -/
def isLineBreak (point : CodePoint) : Bool :=
  point ∈ ([0x0A, 0x0B, 0x0C, 0x0D, 0x1C, 0x1D, 0x1E, 0x85, 0x2028, 0x2029] :
    List CodePoint)

/-- `str.splitlines`, the part of the current line read so far given. -/
def splitlinesFrom (keepEnds : Bool) (line : Text) : Text → List Text
  | [] => if line = [] then [] else [line]
  | [point] =>
      if isLineBreak point then [if keepEnds then line ++ [point] else line]
      else [line ++ [point]]
  | point :: next :: rest =>
      if point = 0x0D ∧ next = 0x0A then
        (if keepEnds then line ++ [point, next] else line) ::
          splitlinesFrom keepEnds [] rest
      else if isLineBreak point then
        (if keepEnds then line ++ [point] else line) ::
          splitlinesFrom keepEnds [] (next :: rest)
      else splitlinesFrom keepEnds (line ++ [point]) (next :: rest)

/-- `str.splitlines` -/
def splitlines (text : Text) (keepEnds : Bool := false) : List Text :=
  splitlinesFrom keepEnds [] text

/-- Line ends as a file opened in text mode presents them: `\r\n` and `\r`
become `\n`. -/
def universalNewlines : Text → Text
  | [] => []
  | [point] => [if point = 0x0D then 0x0A else point]
  | point :: next :: rest =>
      if point = 0x0D ∧ next = 0x0A then 0x0A :: universalNewlines rest
      else
        (if point = 0x0D then 0x0A else point) ::
          universalNewlines (next :: rest)

/-- The lines a text-mode file object yields, each with its `\n`; the part of
the current line read so far is given. -/
def fileLinesFrom (line : Text) : Text → List Text
  | [] => if line = [] then [] else [line]
  | point :: rest =>
      if point = 0x0A then (line ++ [point]) :: fileLinesFrom [] rest
      else fileLinesFrom (line ++ [point]) rest

/-- The lines a text-mode file object yields. -/
def fileLines (text : Text) : List Text := fileLinesFrom [] text

/-! ## Searching and trimming -/

/-- `part in text` -/
def contains (text part : Text) : Bool := decide (part <:+: text)

/-- Characters that `str.strip` removes. -/
def isSpace (point : CodePoint) : Bool :=
  let value := point.val
  (0x09 ≤ value && value ≤ 0x0D) || (0x1C ≤ value && value ≤ 0x20) ||
    (0x2000 ≤ value && value ≤ 0x200A) ||
    value ∈ [0x85, 0xA0, 0x1680, 0x2028, 0x2029, 0x202F, 0x205F, 0x3000]

/-- `str.strip` -/
def strip (text : Text) : Text :=
  ((text.dropWhile isSpace).reverse.dropWhile isSpace).reverse

/-- `str.lower` on the letters A to Z.  No search of the program is for a
letter into which `str.lower` maps any other character. -/
def lower (text : Text) : Text :=
  text.map fun point =>
    if 0x41 ≤ point.val ∧ point.val ≤ 0x5A then point + 0x20 else point

/-- `separator.join(parts)` -/
def join (separator : Text) (parts : List Text) : Text :=
  separator.intercalate parts

end Text

end Foundation

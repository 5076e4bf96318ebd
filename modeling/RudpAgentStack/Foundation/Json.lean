import RudpAgentStack.Foundation.Text
import Mathlib.Data.List.Sort
import Mathlib.Data.Rat.Defs

/-!
# JSON values

The values a JSON text stands for in a dynamically typed language: numbers are
integers or floats, and objects are lists of members with the insertion order
of their keys.  Truth values, member access and comparisons across types are
those of the language; a comparison that the language refuses has no result.
-/

namespace Foundation

/-- The value of a float. -/
inductive FloatValue
  | finite (value : ℚ)
  | infinite (negative : Bool)
  | nan
  deriving DecidableEq

namespace FloatValue

/-- `left < right` -/
def lt : FloatValue → FloatValue → Bool
  | .nan, _ => false
  | _, .nan => false
  | .finite left, .finite right => left < right
  | .finite _, .infinite negative => !negative
  | .infinite negative, .finite _ => negative
  | .infinite left, .infinite right => left && !right

/-- `left == right` -/
def eq : FloatValue → FloatValue → Bool
  | .nan, _ => false
  | left, right => left = right

/-- `left <= right` -/
def le (left right : FloatValue) : Bool := left.lt right || left.eq right

/-- `left + right` for an integer on the right. -/
def addInt : FloatValue → Int → FloatValue
  | .finite left, right => .finite (left + right)
  | left, _ => left

/-- A size that is neither negative nor too large is a number. -/
theorem exists_finite
    {limit : Int} {size : FloatValue} (natural : (FloatValue.finite 0).le size = true)
    (small : (FloatValue.finite limit).lt size = false) :
    ∃ total : ℚ, size = .finite total ∧ 0 ≤ total ∧ total ≤ limit := by
  cases size with
  | nan => cases natural
  | finite total =>
      simp only [FloatValue.le, FloatValue.lt, FloatValue.eq,
        Bool.or_eq_true, decide_eq_true_eq, FloatValue.finite.injEq]
        at natural
      exact ⟨total, rfl, natural.elim le_of_lt le_of_eq,
        by simpa [FloatValue.lt] using small⟩
  | infinite negative =>
      cases negative
      · cases small
      · cases natural

theorem eq_finite_of_eq {position : FloatValue} {value : ℚ}
    (same : position.eq (.finite value) = true) : position = .finite value := by
  cases position with
  | nan => cases same
  | finite left => simpa [FloatValue.eq] using same
  | infinite negative => simp [FloatValue.eq] at same

end FloatValue

/-- A JSON value.  A float comes with the text `repr` gives for it. -/
inductive Json
  | null
  | bool (value : Bool)
  | int (value : Int)
  | float (repr : Text) (value : FloatValue)
  | string (value : Text)
  | array (elements : List Json)
  | object (members : List (Text × Json))

namespace Json

/-- The value counts as true in a condition. -/
def truthy : Json → Bool
  | .null => false
  | .bool value => value
  | .int value => value ≠ 0
  | .float _ value => value ≠ .finite 0
  | .string value => value ≠ []
  | .array elements => !elements.isEmpty
  | .object members => !members.isEmpty

/-- The member of an object under a key. -/
def get? (members : List (Text × Json)) (key : Text) : Option Json :=
  members.lookup key

/-- The member of an object under a key, `null` if there is none. -/
def get (members : List (Text × Json)) (key : Text) : Json :=
  (get? members key).getD .null

/-- Value of a number; truth values count as 0 and 1. -/
def number? : Json → Option FloatValue
  | .bool value => some (.finite (if value then 1 else 0))
  | .int value => some (.finite value)
  | .float _ value => some value
  | _ => none

/-- Value of an integer; truth values count as 0 and 1. -/
def integer? : Json → Option Int
  | .bool value => some (if value then 1 else 0)
  | .int value => some value
  | _ => none

theorem number?_of_integer?
    {value : Json} {integer : Int} (isInteger : value.integer? = some integer) :
    value.number? = some (.finite integer) := by
  cases value with
  | bool truth =>
    cases isInteger
    cases truth <;> rfl
  | int number =>
    cases isInteger
    rfl
  | _ => cases isInteger

/-- Whether a value equals an integer. -/
def equalsInt (value : Json) (number : Int) : Bool :=
  match value.number? with
  | some value => value.eq (.finite number)
  | none => false

/-! ## Writing -/

/-- A hexadecimal digit. -/
def hexDigit (digit : Nat) : CodePoint :=
  if digit < 10 then 0x30 + Fin.ofNat _ digit else 0x57 + Fin.ofNat _ digit

/-- A UTF-16 code unit as an escape sequence. -/
def escapeUnit (unit : Nat) : Text :=
  [0x5C, 0x75, hexDigit (unit / 4096 % 16), hexDigit (unit / 256 % 16),
    hexDigit (unit / 16 % 16), hexDigit (unit % 16)]

/-- A character inside a string, in ASCII. -/
def escapePoint (point : CodePoint) : Text :=
  let value := point.val
  if point = 0x22 then [0x5C, 0x22]
  else if point = 0x5C then [0x5C, 0x5C]
  else if point = 0x0A then [0x5C, 0x6E]
  else if point = 0x0D then [0x5C, 0x72]
  else if point = 0x09 then [0x5C, 0x74]
  else if point = 0x0C then [0x5C, 0x66]
  else if point = 0x08 then [0x5C, 0x62]
  else if 0x20 ≤ value ∧ value < 0x7F then [point]
  else if value < 0x10000 then escapeUnit value
  else
    escapeUnit (0xD800 + (value - 0x10000) / 1024) ++
      escapeUnit (0xDC00 + (value - 0x10000) % 1024)

/-- A string with its quotes. -/
def writeString (value : Text) : Text :=
  [0x22] ++ value.flatMap escapePoint ++ [0x22]

/-- A float: `repr`, except for the values JSON spells in its own way. -/
def writeFloat (repr : Text) : FloatValue → Text
  | .finite _ => repr
  | .infinite negative => if negative then "-Infinity" else "Infinity"
  | .nan => "NaN"

mutual

/-- The text of a value on one line, in ASCII, with or without the members of
objects in the order of their keys. -/
def write (sortKeys : Bool) : Json → Text
  | .null => "null"
  | .bool value => if value then "true" else "false"
  | .int value => Text.ofInt value
  | .float repr value => writeFloat repr value
  | .string value => writeString value
  | .array elements =>
      Text.ofString "[" ++ Text.join ", " (writeElements sortKeys elements) ++
        "]"
  | .object entries =>
      let written := writeMembers sortKeys entries
      let sorted :=
        if sortKeys then
          written.insertionSort fun left right => left.1 ≤ right.1
        else written
      Text.ofString "\x7b" ++ Text.join ", " (sorted.map fun (key, value) =>
        writeString key ++ ": " ++ value) ++ "\x7d"

/-- The texts of the elements of an array. -/
def writeElements (sortKeys : Bool) : List Json → List Text
  | [] => []
  | element :: elements =>
      write sortKeys element :: writeElements sortKeys elements

/-- The keys of an object with the texts of its members. -/
def writeMembers (sortKeys : Bool) : List (Text × Json) → List (Text × Text)
  | [] => []
  | (key, value) :: entries =>
      (key, write sortKeys value) :: writeMembers sortKeys entries

end

end Json

/-- How a JSON text is laid out. -/
structure JsonStyle where
  /-- Members are written in the order of their keys. -/
  sortKeys : Bool := false
  /-- Number of spaces each level is indented by. -/
  indent : Option Nat := none
  deriving DecidableEq

end Foundation

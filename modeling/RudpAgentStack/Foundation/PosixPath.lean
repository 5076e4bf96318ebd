import RudpAgentStack.Foundation.Text

/-!
# POSIX path names

The lexical operations on path names: joining, normalising, the directory part
and the longest common ancestor.  None of them looks at a file system.
-/

namespace Foundation

namespace PosixPath

/-- The path separator. -/
def separator : CodePoint := 0x2F

/-- The component that names the directory itself. -/
def current : Text := Text.ofString "."

/-- The component that names the parent directory. -/
def parent : Text := Text.ofString ".."

/-- Whether a path starts at the root. -/
def isAbsolute (path : Text) : Bool := path.head? == some separator

/-- The components between separators, empty ones included. -/
def split (path : Text) : List Text := path.splitOn separator

/-- Components put together with separators. -/
def unsplit (components : List Text) : Text :=
  Text.join [separator] components

/-- A path read from a base directory. -/
def join (base path : Text) : Text :=
  if isAbsolute path then path
  else if base = [] ∨ base.getLast? = some separator then base ++ path
  else base ++ separator :: path

/-- Number of separators a normalised path starts with: exactly two leading
separators are kept, any other positive number becomes one. -/
def leadingSeparators (path : Text) : Nat :=
  match (path.takeWhile (· = separator)).length with
  | 0 => 0
  | 2 => 2
  | _ => 1

/-- Add a component to those of a normalised path.  A parent component removes
the last one, is dropped at the root and kept where nothing can be removed. -/
def pushComponent
    (absolute : Bool) (components : List Text) (component : Text) :
    List Text :=
  if component = [] ∨ component = current then components
  else if component ≠ parent ∨ (absolute = false ∧ components = []) ∨
      components.getLast? = some parent then components ++ [component]
  else components.dropLast

/-- The components of a normalised path. -/
def resolve (path : Text) : List Text :=
  (split path).foldl (pushComponent (leadingSeparators path ≠ 0)) []

/-- The path without empty, current and removable parent components. -/
def normalize (path : Text) : Text :=
  let normalized :=
    List.replicate (leadingSeparators path) separator ++ unsplit (resolve path)
  if normalized = [] then current else normalized

/-- The path up to its last separator, without trailing separators unless it
has nothing else. -/
def directory (path : Text) : Text :=
  let head := (path.reverse.dropWhile (· ≠ separator)).reverse
  let trimmed := (head.reverse.dropWhile (· = separator)).reverse
  if trimmed = [] then head else trimmed

/-- Longest common initial part of two lists. -/
def commonPart {α : Type} [DecidableEq α] : List α → List α → List α
  | left :: lefts, right :: rights =>
      if left = right then left :: commonPart lefts rights else []
  | _, _ => []

/-- The components that count when looking for a common ancestor. -/
def meaningful (path : Text) : List Text :=
  (split path).filter fun component =>
    decide (component ≠ []) && decide (component ≠ current)

/-- Longest common ancestor of two absolute or two relative paths; there is
none of an absolute and a relative one. -/
def common (first second : Text) : Option Text :=
  if isAbsolute first = isAbsolute second then
    some ((if isAbsolute first then [separator] else []) ++
      unsplit (commonPart (meaningful first) (meaningful second)))
  else none

end PosixPath

end Foundation

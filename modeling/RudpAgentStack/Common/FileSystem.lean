import RudpAgentStack.Common.Host
import Mathlib.Logic.Function.Basic

/-!
# Files and their contents

What the agent relies on in the operating system: regular files have contents,
an operation reads or changes the file it names and no other, and renaming is
atomic.  What is left of its own file when an operation raises is open.
-/

namespace RudpAgentStack

open Foundation

/-- The contents of regular files by path. -/
abbrev Contents := Text → Option Bytes

/-- The content after writing at an offset, with zeros up to it.  Writing
nothing does not extend a file. -/
def overwrite (content : Bytes) (position : Nat) (data : Bytes) : Bytes :=
  if data = [] then content
  else
    content.take position ++ List.replicate (position - content.length) 0 ++
      data ++ content.drop (position + data.length)

variable {World α : Type}

/-- The computation leaves all contents as they are. -/
def LeavesContents (content : World → Contents) (action : Action World α) :
    Prop :=
  ∀ world, content (action.run world).2 = content world

/-- The computation changes the content of one file as described when it
returns, and no other file when it raises. -/
def Changes
    (content : World → Contents) (path : Text)
    (change : Option Bytes → Option Bytes) (action : Action World Unit) :
    Prop :=
  ∀ world, Ends action world
    (fun _ after => content after =
      Function.update (content world) path (change (content world path)))
    (fun _ after => ∀ other, other ≠ path →
      content after other = content world other)

/-- How the operations of a host read and change the contents of files. -/
structure FileSystem (host : Host World) where
  /-- The content of a regular file, none where there is no such file. -/
  content : World → Contents
  readFile_run : ∀ {world path bytes}, content world path = some bytes →
    (host.readFile path).run world = (.ok bytes, world)
  getsize_run : ∀ {world path bytes}, content world path = some bytes →
    (host.getsize path).run world = (.ok (bytes.length : Int), world)
  pathExists_of_content : ∀ {world path bytes},
    content world path = some bytes → host.pathExists path world = true
  uuid4 : LeavesContents content host.uuid4
  getsize : ∀ path, LeavesContents content (host.getsize path)
  listdir : ∀ path, LeavesContents content (host.listdir path)
  stat : ∀ path, LeavesContents content (host.stat path)
  makedirs : ∀ path, LeavesContents content (host.makedirs path)
  readFile : ∀ path, LeavesContents content (host.readFile path)
  openUpdate : ∀ path, LeavesContents content (host.openUpdate path)
  createEmpty : ∀ path,
    Changes content path (fun _ => some []) (host.createEmpty path)
  appendFile : ∀ path data, Changes content path
    (fun before => some (before.getD [] ++ data)) (host.appendFile path data)
  writeAt : ∀ path (position : Nat) data, Changes content path
    (fun before => some (overwrite (before.getD []) position data))
    (host.writeAt path position data)
  /-- A temporary file is new and empty. -/
  createTemporary : ∀ directory world,
    Ends (host.createTemporary directory) world
      (fun name after => content world name = none ∧
        content after = Function.update (content world) name (some []))
      (fun _ after => content after = content world)
  writeTemporary : ∀ name data, Changes content name
    (fun before => some (before.getD [] ++ data))
    (host.writeTemporary name data)
  flushTemporary : ∀ name, Changes content name id (host.flushTemporary name)
  syncTemporary : ∀ name, LeavesContents content (host.syncTemporary name)
  closeTemporary : ∀ name, Changes content name id (host.closeTemporary name)
  /-- Renaming moves the content, or does nothing. -/
  replace : ∀ source target world, Ends (host.replace source target) world
    (fun _ after => content after =
      if source = target then content world
      else Function.update (Function.update (content world) source none)
        target (content world source))
    (fun _ after => content after = content world)
  remove : ∀ path, Changes content path (fun _ => none) (host.remove path)

theorem LeavesContents.ends
    {content : World → Contents} {action : Action World α}
    (leaves : LeavesContents content action) (world : World) :
    Ends action world (fun _ after => content after = content world)
      (fun _ after => content after = content world) := by
  have same := leaves world
  unfold Ends
  generalize action.run world = result at same
  obtain ⟨error | value, after⟩ := result <;> exact same

end RudpAgentStack

import RudpAgentStack.Agent.TaskConduct
import RudpAgentStack.Agent.TaskOutcomes

/-!
# Atomic writes

`_atomic_write` fills a temporary file and renames it.  A failure of the
renaming removes the temporary file, but a failure while it is filled leaves it
behind: its name is bound after the content is written, and the cleanup asks
whether the name is bound.
-/

namespace RudpAgentStack

open Foundation

variable {World : Type} {host : Host World} {guard : PolicyGuard}

/-! ## Failures of temporary files -/

/-- An operation on a file that raises does not remove the file. -/
def Retains
    (content : World → Contents) (path : Text) (action : Action World Unit) :
    Prop :=
  ∀ world, content world path ≠ none →
    Ends action world (fun _ _ => True)
      (fun _ after => content after path ≠ none)

/-- A file that an operation changes is there afterwards, also if the operation
raises. -/
theorem Changes.isThere
    {content : World → Contents} {path : Text}
    {change : Option Bytes → Option Bytes} {action : Action World Unit}
    (changes : Changes content path change action)
    (retains : Retains content path action)
    (creates : ∀ before, before ≠ none → change before ≠ none)
    {world : World} (isThere : content world path ≠ none) :
    Ends action world (fun _ after => content after path ≠ none)
      (fun _ after => content after path ≠ none) := by
  apply ((changes world).and (retains world isThere)).mono
  · rintro _ after ⟨changed, _⟩
    rw [changed, Function.update_self]
    exact creates _ isThere
  · rintro _ after ⟨_, still⟩
    exact still

/-- The operations on temporary files do not remove them by failing. -/
structure RetainsTemporaries (files : FileSystem host) : Prop where
  writeTemporary : ∀ name data,
    Retains files.content name (host.writeTemporary name data)
  flushTemporary : ∀ name,
    Retains files.content name (host.flushTemporary name)
  closeTemporary : ∀ name,
    Retains files.content name (host.closeTemporary name)
  remove : ∀ name, Retains files.content name (host.remove name)

namespace RetainsTemporaries

variable
  {files : FileSystem host} (retains : RetainsTemporaries files)
  {temporary : Text} {world : World}
  (isThere : files.content world temporary ≠ none)

include retains isThere

theorem isThere_write (bytes : Bytes) :
    Ends (host.writeTemporary temporary bytes) world
      (fun _ after => files.content after temporary ≠ none)
      (fun _ after => files.content after temporary ≠ none) :=
  (files.writeTemporary temporary bytes).isThere
    (retains.writeTemporary temporary bytes)
    (fun _ _ => Option.some_ne_none _) isThere

theorem isThere_flush :
    Ends (host.flushTemporary temporary) world
      (fun _ after => files.content after temporary ≠ none)
      (fun _ after => files.content after temporary ≠ none) :=
  (files.flushTemporary temporary).isThere (retains.flushTemporary temporary)
    (fun _ some => some) isThere

theorem isThere_close :
    Ends (host.closeTemporary temporary) world
      (fun _ after => files.content after temporary ≠ none)
      (fun _ after => files.content after temporary ≠ none) :=
  (files.closeTemporary temporary).isThere (retains.closeTemporary temporary)
    (fun _ some => some) isThere

end RetainsTemporaries

namespace ToolDispatcher

theorem finishWrite_eq
    (safePath temporary : Text) (content : Except PyError Bytes) :
    finishWrite host safePath temporary content = (do
      tryCatch (fillTemporary host temporary content) fun error => do
        host.closeTemporary temporary
        throw error
      tryCatch (renameTemporary host safePath temporary) fun error => do
        if ← host.exists? temporary then host.remove temporary
        throw error) := rfl

/-- No operation that fills the temporary file fails: the content can be
encoded, it is written and flushed, and only the operating system may refuse
to synchronise it. -/
def Fills
    (host : Host World) (temporary : Text) (content : Except PyError Bytes)
    (created filled : World) : Prop :=
  ∃ bytes written flushed,
    content = .ok bytes ∧
    (host.writeTemporary temporary bytes).run created = (.ok (), written) ∧
    (host.flushTemporary temporary).run written = (.ok (), flushed) ∧
    ((host.syncTemporary temporary).run flushed = (.ok (), filled) ∨
      ∃ error, error.kind.isOsError = true ∧
        (host.syncTemporary temporary).run flushed = (.error error, filled))

/-- The operating system refuses to rename the filled file. -/
def FailsToRename
    (host : Host World) (safePath temporary : Text) (filled left : World) :
    Prop :=
  (∃ error, (host.closeTemporary temporary).run filled =
    (.error error, left)) ∨
  ∃ closed error,
    (host.closeTemporary temporary).run filled = (.ok (), closed) ∧
    (host.replace temporary safePath).run closed = (.error error, left)

/-- The temporary file is filled, and if it cannot be renamed it can be
removed. -/
def Finishes
    (host : Host World) (safePath temporary : Text)
    (content : Except PyError Bytes) (created : World) : Prop :=
  ∃ filled, Fills host temporary content created filled ∧
    ∀ left, FailsToRename host safePath temporary filled left →
      ∃ removed, (host.remove temporary).run left = (.ok (), removed)

theorem fillTemporary_returns_iff
    {temporary : Text} {content : Except PyError Bytes}
    {created filled : World} :
    (fillTemporary host temporary content).run created = (.ok (), filled) ↔
      Fills host temporary content created filled := by
  unfold fillTemporary
  simp only [run_bind_eq_ok_iff, run_lift_eq_ok_iff, run_tryCatch_eq_ok_iff]
  constructor
  · rintro ⟨bytes, _, ⟨given, rfl⟩, _, written, wrote, _, flushed, flushes,
      synced⟩
    refine ⟨bytes, written, flushed, given, wrote, flushes, ?_⟩
    rcases synced with synced | ⟨error, left, refused, handled⟩
    · exact .inl synced
    · right
      split at handled
      · next isOsError =>
          cases handled
          exact ⟨error, isOsError, refused⟩
      · cases handled
  · rintro ⟨bytes, written, flushed, given, wrote, flushes, synced⟩
    refine ⟨bytes, created, ⟨given, rfl⟩, (), written, wrote, (), flushed,
      flushes, ?_⟩
    rcases synced with synced | ⟨error, isOsError, refused⟩
    · exact .inl synced
    · exact .inr ⟨error, filled, refused, by rw [if_pos isOsError]; rfl⟩

theorem renameTemporary_raises_iff
    {safePath temporary : Text} {filled left : World} :
    (∃ error, (renameTemporary host safePath temporary).run filled =
      (.error error, left)) ↔
      FailsToRename host safePath temporary filled left := by
  unfold renameTemporary FailsToRename
  simp only [run_bind_eq_error_iff]
  constructor
  · rintro ⟨error, refused | ⟨_, closed, closes, refused⟩⟩
    · exact .inl ⟨error, refused⟩
    · exact .inr ⟨closed, error, closes, refused⟩
  · rintro (⟨error, refused⟩ | ⟨closed, error, closes, refused⟩)
    · exact ⟨error, .inl refused⟩
    · exact ⟨error, .inr ⟨(), closed, closes, refused⟩⟩

/-- The temporary file is there while it is filled, also after a failure. -/
theorem fillTemporary_isThere
    {files : FileSystem host} (retains : RetainsTemporaries files)
    {temporary : Text} (content : Except PyError Bytes) {created : World}
    (isThere : files.content created temporary ≠ none) :
    Ends (fillTemporary host temporary content) created
      (fun _ after => files.content after temporary ≠ none)
      (fun _ after => files.content after temporary ≠ none) := by
  refine Ends.bind_lift (fun bytes _ => ?_) fun _ _ => isThere
  refine (retains.isThere_write isThere bytes).bind fun _ written there => ?_
  refine (retains.isThere_flush there).bind fun _ flushed there => ?_
  have synced : Ends (host.syncTemporary temporary) flushed
      (fun _ after => files.content after temporary ≠ none)
      (fun _ after => files.content after temporary ≠ none) := by
    apply ((files.syncTemporary temporary).ends flushed).mono
    · intro _ after same
      rwa [same]
    · intro _ after same
      rwa [same]
  refine synced.tryCatch fun error after there => ?_
  split
  · exact there
  · exact there

/-- The temporary file is there when renaming it has failed. -/
theorem renameTemporary_isThere
    {files : FileSystem host} (retains : RetainsTemporaries files)
    (safePath : Text) {temporary : Text} {filled : World}
    (isThere : files.content filled temporary ≠ none) :
    Ends (renameTemporary host safePath temporary) filled (fun _ _ => True)
      (fun _ after => files.content after temporary ≠ none) := by
  refine (retains.isThere_close isThere).bind fun _ closed there => ?_
  apply (files.replace temporary safePath closed).mono
  · exact fun _ _ _ => trivial
  · intro _ after same
    rwa [same]

/-! ## All or nothing -/

/-- The file of a path has the new content, and no other file is changed. -/
def Written
    (files : FileSystem host) (guard : PolicyGuard) (path : Json)
    (content : Except PyError Bytes) (world after : World) : Prop :=
  ∃ safePath bytes,
    guard.validatePath path = .ok safePath ∧ content = .ok bytes ∧
    files.content after =
      Function.update (files.content world) safePath (some bytes)

/-- The file of a path is as before, and no file is there that was not. -/
def Restored
    (files : FileSystem host) (guard : PolicyGuard) (path : Json)
    (world after : World) : Prop :=
  (∀ safePath, guard.validatePath path = .ok safePath →
    files.content after safePath = files.content world safePath) ∧
  ∀ name, files.content world name = none → files.content after name = none

/-- An atomic write is all or nothing: it returns and has written the file, or
it raises and has left nothing. -/
def AllOrNothing
    (files : FileSystem host) (guard : PolicyGuard) (path : Json)
    (content : Except PyError Bytes) (world : World) : Prop :=
  Ends (atomicWrite host guard path content) world
    (fun _ after => Written files guard path content world after)
    (fun _ after => Restored files guard path world after)

/-- Nothing fails in filling the temporary file, if it is created at all, and
if it cannot be renamed it can be removed. -/
def Unharmed
    (host : Host World) (guard : PolicyGuard) (path : Json)
    (content : Except PyError Bytes) (world : World) : Prop :=
  ∀ safePath made temporary created,
    guard.validatePath path = .ok safePath →
    (host.makedirs (PosixPath.directory safePath)).run world =
      (.ok (), made) →
    (host.createTemporary (PosixPath.directory safePath)).run made =
      (.ok temporary, created) →
    Finishes host safePath temporary content created

theorem restored_of_same
    {files : FileSystem host} {path : Json} {world after : World}
    (same : files.content after = files.content world) :
    Restored files guard path world after :=
  ⟨fun _ _ => congrFun same _, fun name absent =>
    (congrFun same name).trans absent⟩

section

variable
  {files : FileSystem host} {path : Json} {safePath temporary : Text}
  {content : Except PyError Bytes} {world created : World}

/-- A temporary file that is still there was not there before. -/
theorem not_restored (guard : PolicyGuard) (path : Json)
    (absent : files.content world temporary = none) {after : World}
    (isThere : files.content after temporary ≠ none) :
    ¬ Restored files guard path world after := fun restored =>
  isThere (restored.2 temporary absent)

/-- Nothing is left if the temporary file is the only other file there is. -/
theorem restored_of_absent
    (absent : files.content world temporary = none) {after : World}
    (others : ∀ other, other ≠ temporary →
      files.content after other = files.content world other)
    (removed : files.content after temporary = none) :
    Restored files guard path world after := by
  apply restored_of_same
  funext name
  by_cases same : name = temporary
  · rw [same, removed, absent]
  · exact others name same

/-- The cleanup after the temporary file could not be renamed. -/
theorem removal_ends_iff
    (guard : PolicyGuard) (path : Json) (content : Except PyError Bytes)
    (retains : RetainsTemporaries files) (error : PyError)
    (absent : files.content world temporary = none) {left : World}
    (others : ∀ other, other ≠ temporary →
      files.content left other = files.content world other)
    (isThere : files.content left temporary ≠ none) :
    Ends (do
        if ← host.exists? temporary then host.remove temporary
        throw error : Action World Unit) left
      (fun _ after => Written files guard path content world after)
      (fun _ after => Restored files guard path world after) ↔
      ∃ removed, (host.remove temporary).run left = (.ok (), removed) := by
  obtain ⟨bytes, found⟩ := Option.ne_none_iff_exists'.mp isThere
  have present := files.pathExists_of_content found
  have checked : (host.exists? temporary).run left = (.ok true, left) := by
    rw [Host.exists?_run, present]
  rw [Ends.bind_iff, Ends.of_run_ok checked, if_pos rfl, Ends.bind_iff]
  have removes := Ends.iff_forall.mp (files.remove temporary left)
  have remains := Ends.iff_forall.mp (retains.remove temporary left isThere)
  rw [Ends.iff_forall]
  constructor
  · rintro ⟨_, raises⟩
    rcases ran : (host.remove temporary).run left with ⟨error' | _, after⟩
    · exact absurd (raises error' after ran)
        (not_restored guard path absent (remains.2 error' after ran))
    · exact ⟨after, rfl⟩
  · rintro ⟨removed, ran⟩
    have gone := removes.1 () removed ran
    constructor
    · intro _ after ran'
      rw [ran] at ran'
      cases ran'
      apply restored_of_absent absent
      · intro other different
        rw [gone, Function.update_of_ne different]
        exact others other different
      · rw [gone, Function.update_self]
    · intro _ after ran'
      rw [ran] at ran'
      cases ran'

/-- Filling and renaming the temporary file is all or nothing, exactly if the
file is filled, and removed where it is not renamed. -/
theorem finishWrite_ends_iff
    (retains : RetainsTemporaries files)
    (valid : guard.validatePath path = .ok safePath)
    (absent : files.content world temporary = none)
    (isNew : files.content created =
      Function.update (files.content world) temporary (some [])) :
    Ends (finishWrite host safePath temporary content) created
      (fun _ after => Written files guard path content world after)
      (fun _ after => Restored files guard path world after) ↔
      Finishes host safePath temporary content created := by
  have isThere : files.content created temporary ≠ none := by
    rw [isNew, Function.update_self]
    exact Option.some_ne_none _
  have there := Ends.iff_forall.mp
    (fillTemporary_isThere retains content isThere)
  rw [finishWrite_eq, Ends.bind_iff, Ends.tryCatch_iff]
  unfold Finishes
  rcases filling : (fillTemporary host temporary content).run created with
    ⟨error | _, filled⟩
  · -- The file was not filled: it is closed, and the exception goes on.
    rw [Ends.of_run_error filling, Ends.bind_iff]
    constructor
    · intro ends
      have closes :=
        (retains.isThere_close (there.2 error filled filling)).mono
          (fun _ _ => not_restored guard path absent)
          (fun _ _ => not_restored guard path absent)
      have impossible := (ends.and closes).mono
        (fun _ after both => both.2 both.1) (fun _ after both => both.2 both.1)
      exact impossible.run.elim
    · rintro ⟨filled', fills, _⟩
      rw [fillTemporary_returns_iff.mpr fills] at filling
      cases filling
  · rw [Ends.of_run_ok filling, Ends.tryCatch_iff]
    have full := Ends.iff_forall.mp
      (fillTemporary_ends files temporary content isNew)
    obtain ⟨bytes, given, full_eq⟩ := full.1 () filled filling
    have renames := Ends.iff_forall.mp
      (renameTemporary_ends files safePath absent full_eq)
    have remains := Ends.iff_forall.mp (renameTemporary_isThere retains
      safePath (there.1 () filled filling))
    have removal := fun error left
        (raised : (renameTemporary host safePath temporary).run filled =
          (.error error, left)) =>
      removal_ends_iff guard path content retains error absent
        (renames.2 error left raised) (remains.2 error left raised)
    constructor
    · intro ends
      obtain ⟨_, cleans⟩ := Ends.iff_forall.mp ends
      refine ⟨filled, fillTemporary_returns_iff.mp filling,
        fun left fails => ?_⟩
      obtain ⟨error, raised⟩ := renameTemporary_raises_iff.mpr fails
      exact (removal error left raised).mp (cleans error left raised)
    · rintro ⟨filled', fills, removes⟩
      have same := fillTemporary_returns_iff.mpr fills
      rw [filling] at same
      cases same
      refine Ends.iff_forall.mpr ⟨fun _ after renamed => ?_,
        fun error left raised => ?_⟩
      · exact ⟨safePath, bytes, valid, given, renames.1 () after renamed⟩
      · exact (removal error left raised).mpr
          (removes left (renameTemporary_raises_iff.mp ⟨error, raised⟩))

/-- The write is all or nothing if the directory or the temporary file cannot
be created, and else if its remaining part is. -/
theorem prepared_ends_iff
    (retains : RetainsTemporaries files)
    (valid : guard.validatePath path = .ok safePath) :
    Ends (do
        host.makedirs (PosixPath.directory safePath)
        let temporary ← host.createTemporary (PosixPath.directory safePath)
        finishWrite host safePath temporary content : Action World Unit) world
      (fun _ after => Written files guard path content world after)
      (fun _ after => Restored files guard path world after) ↔
      ∀ made temporary created,
        (host.makedirs (PosixPath.directory safePath)).run world =
          (.ok (), made) →
        (host.createTemporary (PosixPath.directory safePath)).run made =
          (.ok temporary, created) →
        Finishes host safePath temporary content created := by
  have makes := (files.makedirs (PosixPath.directory safePath)).ends world
  have made_eq := (Ends.iff_forall.mp makes).1
  rw [Ends.bind_iff_forall (makes.mono (fun _ _ _ => trivial)
    fun _ _ same => restored_of_same same)]
  have creates_iff : ∀ made,
      (host.makedirs (PosixPath.directory safePath)).run world =
        (.ok (), made) →
      (Ends (do
          let temporary ← host.createTemporary (PosixPath.directory safePath)
          finishWrite host safePath temporary content : Action World Unit) made
        (fun _ after => Written files guard path content world after)
        (fun _ after => Restored files guard path world after) ↔
        ∀ temporary created,
          (host.createTemporary (PosixPath.directory safePath)).run made =
            (.ok temporary, created) →
          Finishes host safePath temporary content created) := by
    intro made makes
    have creates := files.createTemporary (PosixPath.directory safePath) made
    rw [made_eq () made makes] at creates
    rw [Ends.bind_iff_forall (creates.mono (fun _ _ _ => trivial)
      fun _ _ same => restored_of_same same)]
    refine forall₃_congr fun temporary created created_eq => ?_
    obtain ⟨absent, isNew⟩ :=
      (Ends.iff_forall.mp creates).1 temporary created created_eq
    exact finishWrite_ends_iff retains valid absent isNew
  constructor
  · intro ends made temporary created makes
    exact (creates_iff made makes).mp (ends () made makes) temporary created
  · intro finishes _ made makes
    exact (creates_iff made makes).mpr fun temporary created =>
      finishes made temporary created makes

/-- An atomic write is all or nothing, exactly if nothing fails while its
temporary file is filled, and the file can be removed where it cannot be
renamed. -/
theorem atomic_write_all_or_nothing_iff
    (retains : RetainsTemporaries files) (guard : PolicyGuard) (path : Json)
    (content : Except PyError Bytes) (world : World) :
    AllOrNothing files guard path content world ↔
      Unharmed host guard path content world := by
  unfold AllOrNothing Unharmed
  rw [atomicWrite_eq]
  cases valid : guard.validatePath path with
  | error error =>
      apply iff_of_true
      · exact restored_of_same rfl
      · nofun
  | ok safePath =>
      simp only [Except.ok.injEq]
      constructor
      · rintro ends _ made temporary created rfl
        exact (prepared_ends_iff retains valid).mp ends made temporary created
      · intro unharmed
        exact (prepared_ends_iff retains valid).mpr fun made temporary created =>
          unharmed safePath made temporary created rfl

end

end ToolDispatcher

/-! ## Writes in memory -/

namespace Sample

open ToolDispatcher

/-- A host in memory does not fail on temporary files. -/
theorem memoryFiles_retains
    (texts : List (Text × Json)) (digests : List (Bytes × Text)) :
    RetainsTemporaries (memoryFiles texts digests) where
  writeTemporary := fun _ _ _ _ => trivial
  flushTemporary := fun _ _ _ => trivial
  closeTemporary := fun _ _ _ => trivial
  remove := fun _ _ _ => trivial

theorem unharmed_memoryHost (bytes : Bytes) :
    Unharmed (memoryHost [] []) policyGuard (.string "notes.txt") (.ok bytes)
      files := by
  intro safePath made temporary created _ _ _
  exact ⟨_, ⟨bytes, _, _, rfl, rfl, rfl, .inl rfl⟩, fun _ _ => ⟨_, rfl⟩⟩

/-- Replacing the file by another content is all or nothing. -/
theorem atomic_write_all_or_nothing_iff_notes :
    AllOrNothing (memoryFiles [] []) policyGuard (.string "notes.txt")
      (.ok [0x78]) files :=
  (atomic_write_all_or_nothing_iff (memoryFiles_retains [] []) policyGuard
    (.string "notes.txt") (.ok [0x78]) files).mpr (unharmed_memoryHost [0x78])

/-- A text with a lone surrogate. -/
def loneSurrogate : Text := [0xD800]

/-- Writing a lone surrogate raises and leaves an empty temporary file. -/
theorem loneSurrogate_leaves_temporary :
    ¬ AllOrNothing (memoryFiles [] []) policyGuard (.string "notes.txt")
      ((memoryHost [] []).encode loneSurrogate) files := by
  intro ends
  have raised : (atomicWrite (memoryHost [] []) policyGuard
      (.string "notes.txt") ((memoryHost [] []).encode loneSurrogate)).run
        files =
      (.error ⟨.unicodeEncodeError, "'utf-8' codec can't encode characters"⟩,
        files.set "/sandbox/tmp" []) := rfl
  have restored := (Ends.of_run_error raised).mp ends
  have absent : files.get? (Text.ofString "/sandbox/tmp") = none := rfl
  have left := restored.2 (Text.ofString "/sandbox/tmp") absent
  cases left

end Sample

end RudpAgentStack

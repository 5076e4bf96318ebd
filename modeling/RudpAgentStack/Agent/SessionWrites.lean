import Mathlib.Data.Set.Disjoint
import Mathlib.Order.CompletePartialOrder
import RudpAgentStack.Agent.ChunkEffects

/-!
# The writes of a session

Whatever chunks are sent to a new session, in whatever order, its writes lie
one after the other from the start of the file, and its next offset is the
number of bytes written.  A call that is refused changes nothing.
-/

namespace RudpAgentStack

open Foundation UploadSessionManager

variable {World : Type}

/-! ## Writes one after the other -/

/-- The positions that a call of a writer writes to. -/
def WriterCall.positions (write : WriterCall) : Set Int :=
  {position | ∃ start, write.offset = .int start ∧ start ≤ position ∧
    position < start + write.data.length}

/-- The number of bytes that were written. -/
def bytesWritten (log : List WriterCall) : Nat :=
  ((log.filter (·.succeeded)).map (·.data.length)).sum

/-- Every write begins where those before it end. -/
def Laid (log : List WriterCall) : Prop :=
  ∀ earlier write later, log = earlier ++ write :: later →
    write.offset = .int (bytesWritten earlier)

@[simp] theorem bytesWritten_nil : bytesWritten [] = 0 := rfl

@[simp] theorem bytesWritten_append (first second : List WriterCall) :
    bytesWritten (first ++ second) =
      bytesWritten first + bytesWritten second := by
  simp [bytesWritten]

@[simp] theorem bytesWritten_cons_writing
    (session : UploadSession) (data : Bytes) (succeeded : Bool)
    (log : List WriterCall) :
    bytesWritten (session.writing data succeeded :: log) =
      (if succeeded then data.length else 0) + bytesWritten log := by
  cases succeeded <;> simp [bytesWritten, UploadSession.writing]

theorem laid_nil : Laid [] := by
  intro earlier write later parts
  simp at parts

theorem laid_append_singleton {log : List WriterCall} {write : WriterCall} :
    Laid (log ++ [write]) ↔
      Laid log ∧ write.offset = .int (bytesWritten log) := by
  constructor
  · intro laid
    refine ⟨fun earlier other later parts => ?_, laid log write [] rfl⟩
    apply laid earlier other (later ++ [write])
    rw [parts, List.append_assoc, List.cons_append]
  · rintro ⟨laid, next⟩ earlier other later parts
    rcases later.eq_nil_or_concat with rfl | ⟨rest, last, rfl⟩
    · obtain ⟨rfl, same⟩ := List.append_inj' parts rfl
      rw [← List.singleton_inj.mp same]
      exact next
    · rw [List.concat_eq_append, ← List.cons_append, ← List.append_assoc]
        at parts
      exact laid earlier other rest (List.append_inj' parts rfl).1

/-- A write lies below the number of bytes written. -/
theorem Laid.lt_bytesWritten
    {log : List WriterCall} (laid : Laid log) {write : WriterCall}
    (member : write ∈ log) (succeeded : write.succeeded = true)
    {position : Int} (inside : position ∈ write.positions) :
    position < bytesWritten log := by
  obtain ⟨earlier, later, rfl⟩ := List.append_of_mem member
  obtain ⟨start, place, _, below⟩ := inside
  rw [laid earlier write later rfl, Json.int.injEq] at place
  have total : bytesWritten (write :: later) =
      write.data.length + bytesWritten later := by
    simp [bytesWritten, succeeded]
  rw [bytesWritten_append, total]
  omega

/-- No position is written twice. -/
theorem Laid.disjoint {log : List WriterCall} (laid : Laid log) :
    (log.filter (·.succeeded)).Pairwise fun first second =>
      Disjoint first.positions second.positions := by
  induction log using List.reverseRecOn with
  | nil => exact .nil
  | append_singleton log write inductionHypothesis =>
      obtain ⟨laidBefore, next⟩ := laid_append_singleton.mp laid
      rw [List.filter_append, List.pairwise_append]
      refine ⟨inductionHypothesis laidBefore, ?_, ?_⟩
      · exact (List.pairwise_singleton _ write).sublist List.filter_sublist
      intro first firstMember second secondMember
      obtain ⟨inside, succeeded⟩ := List.mem_filter.mp firstMember
      obtain rfl := List.mem_singleton.mp (List.mem_of_mem_filter secondMember)
      apply Set.disjoint_left.mpr
      intro position written again
      have below := laidBefore.lt_bytesWritten inside succeeded written
      obtain ⟨start, place, above, _⟩ := again
      rw [next, Json.int.injEq] at place
      omega

/-! ## What holds of a session -/

/-- The session counts the bytes written, and keeps chunks only if it may. -/
structure UploadSession.Counts
    (session : UploadSession) (mode : UploadMode) (uploadId : Text)
    (log : List WriterCall) : Prop where
  named : session.uploadId = uploadId
  counted : session.nextExpectedOffset = bytesWritten log
  unbuffered : mode = .strict → session.bufferedChunks = .empty

/-- The session between two calls: no chunk in the buffer could be written. -/
structure UploadSession.Settled
    (session : UploadSession) (mode : UploadMode) (uploadId : Text)
    (log : List WriterCall) : Prop
    extends session.Counts mode uploadId log where
  notWaiting : session.waiting = none

section Counts

variable
  {mode : UploadMode} {uploadId : Text} {log : List WriterCall}
  {session : UploadSession}

namespace UploadSession.Counts

/-- A write at the next offset of the session. -/
theorem laid_writing
    (counts : session.Counts mode uploadId log) (laid : Laid log)
    (data : Bytes) (succeeded : Bool) :
    Laid (log ++ [session.writing data succeeded]) := by
  apply laid_append_singleton.mpr
  exact ⟨laid, congrArg Json.int counts.counted⟩

theorem advanced
    (counts : session.Counts mode uploadId log) (data : Bytes) :
    (session.advanced data).Counts mode uploadId
      (log ++ [session.writing data true]) where
  named := counts.named
  counted := by
    simp [UploadSession.advanced, counts.counted]
  unbuffered := counts.unbuffered

/-- A write that raises is not counted. -/
theorem refused
    (counts : session.Counts mode uploadId log) (data : Bytes) :
    session.Counts mode uploadId (log ++ [session.writing data false]) where
  named := counts.named
  counted := by simp [counts.counted]
  unbuffered := counts.unbuffered

theorem popped
    (counts : session.Counts mode uploadId log)
    (bufferable : mode = .bufferable) :
    session.popped.Counts mode uploadId log where
  named := counts.named
  counted := counts.counted
  unbuffered := by
    rintro rfl
    cases bufferable

end UploadSession.Counts

/-- The loop over the buffer leaves no chunk that could be written. -/
theorem Drains.settled
    {final : UploadSession} {calls : List WriterCall}
    {result : Except PyError Unit}
    (drains : Drains mode session calls result final)
    (counts : session.Counts mode uploadId log) (laid : Laid log) :
    Laid (log ++ calls) ∧ final.Settled mode uploadId (log ++ calls) := by
  induction drains generalizing log with
  | @stops session nothing =>
      rw [List.append_nil]
      refine ⟨laid, counts, ?_⟩
      rcases nothing with strict | nothing
      · rw [UploadSession.waiting, counts.unbuffered strict]
        apply Dict.get?_empty
      · exact nothing
  | @fails session data error bufferable next =>
      refine ⟨(counts.popped bufferable).laid_writing laid data false,
        (counts.popped bufferable).refused data, ?_⟩
      rw [UploadSession.waiting, UploadSession.popped, Dict.get?_del]
      exact if_pos rfl
  | @writes session final data calls result bufferable next rest
      inductionHypothesis =>
      rw [← List.singleton_append, ← List.append_assoc]
      apply inductionHypothesis
      · exact (counts.popped bufferable).advanced data
      · exact (counts.popped bufferable).laid_writing laid data true

/-- A call keeps what holds of its session. -/
theorem ChunkEffect.settled
    {offset : Int} {data : Bytes} {written : Except PyError Unit}
    {calls : List WriterCall} {result : Except PyError (Bool × Text)}
    {left : Option UploadSession}
    (effect : ChunkEffect mode session offset data written calls result left)
    (settled : session.Settled mode uploadId log) (laid : Laid log) :
    Laid (log ++ calls) ∧
      ∀ final ∈ left, final.Settled mode uploadId (log ++ calls) := by
  have kept {after : UploadSession}
      (holds : after.Settled mode uploadId (log ++ calls)) :
      ∀ final ∈ after.unlessComplete,
        final.Settled mode uploadId (log ++ calls) := by
    unfold UploadSession.unlessComplete
    split
    · nofun
    · rintro _ ⟨⟩
      exact holds
  cases effect with
  | duplicate | overlapping | outOfOrder =>
      rw [List.append_nil]
      refine ⟨laid, ?_⟩
      rintro _ ⟨⟩
      exact settled
  | kept bufferable later =>
      refine ⟨by rwa [List.append_nil], kept ?_⟩
      rw [List.append_nil]
      refine ⟨⟨settled.named, settled.counted, ?_⟩, ?_⟩
      · rintro rfl
        cases bufferable
      · have different : (FloatValue.finite session.nextExpectedOffset) ≠
            .finite offset := by
          simpa using later.ne
        rw [UploadSession.waiting, UploadSession.keeping,
          Dict.get?_set_of_ne _ _ different]
        exact settled.notWaiting
  | refused =>
      refine ⟨settled.laid_writing laid data false, ?_⟩
      rintro _ ⟨⟩
      exact ⟨settled.refused data, settled.notWaiting⟩
  | applied next returns drains =>
      obtain ⟨laidAfter, after⟩ := drains.settled (settled.advanced data)
        (settled.laid_writing laid data true)
      rw [List.append_assoc] at laidAfter after
      exact ⟨laidAfter, kept after⟩
  | interrupted next returns drains =>
      obtain ⟨laidAfter, after⟩ := drains.settled (settled.advanced data)
        (settled.laid_writing laid data true)
      rw [List.append_assoc] at laidAfter after
      refine ⟨laidAfter, ?_⟩
      rintro _ ⟨⟩
      exact after

end Counts

/-! ## Runs of calls -/

/-- The workspace after calls for a session, whatever their results are. -/
def applyAll
    (host : Host World) (mode : UploadMode) (uploadId : Text)
    (calls : List (ChunkCall World)) (start : Workspace (Recorded World)) :
    Workspace (Recorded World) :=
  calls.foldl (fun workspace call =>
    ((call.apply host mode uploadId).run workspace).2) start

/-- The session of an upload was created, and nothing is written. -/
structure Created
    (uploadId filename : Text) (totalSize : Json)
    (workspace : Workspace (Recorded World)) : Prop where
  known : workspace.sessions.get? uploadId =
    some { uploadId, filename, totalSize }
  unwritten : workspace.world.log = []

/-- `create_session` creates a session. -/
theorem createSession_created
    {host : Host World} {uploadId filename : Text} {totalSize : Json}
    {before after : Workspace (Recorded World)}
    (unwritten : before.world.log = [])
    (ran : (createSession (host.beside WriterCall) filename totalSize).run
      before = (.ok uploadId, after)) :
    Created uploadId filename totalSize after := by
  unfold createSession at ran
  rw [run_bind_eq_ok_iff] at ran
  obtain ⟨name, between, named, ran⟩ := ran
  rw [Action.run_bind, Action.run_modify] at ran
  obtain ⟨same, rfl⟩ := run_pure_eq_ok_iff.mp ran
  subst same
  refine ⟨Dict.get?_set_self _ _ _, ?_⟩
  rw [onWorld_run, Prod.mk.injEq] at named
  rw [← named.2]
  change before.world.log ++ [] = []
  rw [unwritten, List.append_nil]

section Runs

variable
  {host : Host World} {mode : UploadMode} {uploadId filename : Text}
  {totalSize : Json} {start : Workspace (Recorded World)}

@[simp] theorem applyAll_nil :
    applyAll host mode uploadId [] start = start := rfl

theorem applyAll_append_singleton
    (calls : List (ChunkCall World)) (last : ChunkCall World) :
    applyAll host mode uploadId (calls ++ [last]) start =
      ((last.apply host mode uploadId).run
        (applyAll host mode uploadId calls start)).2 := by
  rw [applyAll, List.foldl_append]
  rfl

theorem applyAll_append (earlier later : List (ChunkCall World)) :
    applyAll host mode uploadId (earlier ++ later) start =
      applyAll host mode uploadId later
        (applyAll host mode uploadId earlier start) := List.foldl_append

theorem applyAll_cons
    (call : ChunkCall World) (calls : List (ChunkCall World)) :
    applyAll host mode uploadId (call :: calls) start =
      applyAll host mode uploadId calls
        ((call.apply host mode uploadId).run start).2 := rfl

/-- The writes lie one after the other, and the session is settled. -/
structure Accounted
    (mode : UploadMode) (uploadId : Text)
    (workspace : Workspace (Recorded World)) : Prop where
  laid : Laid workspace.world.log
  settled : ∀ session, workspace.sessions.get? uploadId = some session →
    session.Settled mode uploadId workspace.world.log

/-- A call of a session, seen from a workspace that accounts for it. -/
theorem Accounted.call_cases
    {before : Workspace (Recorded World)}
    (accounted : Accounted mode uploadId before)
    (host : Host World) (call : ChunkCall World) :
    (before.sessions.get? uploadId = none ∧
      (call.apply host mode uploadId).run before =
        (.error ⟨.valueError, Text.ofString "Session " ++ uploadId ++
          " not found"⟩, before)) ∨
    ∃ session calls result left after,
      before.sessions.get? uploadId = some session ∧
      (call.apply host mode uploadId).run before = (result, after) ∧
      ChunkEffect mode session call.offset call.data
        (call.written session.filename before.world.state) calls result left ∧
      Leaves uploadId before after calls left ∧
      (Unfailing call.writer → ∀ write ∈ calls, write.succeeded = true) := by
  cases known : before.sessions.get? uploadId with
  | none => exact .inl ⟨rfl, call.apply_unknown known⟩
  | some session =>
      obtain ⟨calls, result, left, after, effect⟩ :=
        call.apply_effect host mode known (accounted.settled session known).named
      exact .inr ⟨session, calls, result, left, after, rfl, effect⟩

/-- A call keeps the account. -/
theorem Accounted.next
    {before : Workspace (Recorded World)}
    (accounted : Accounted mode uploadId before)
    (host : Host World) (call : ChunkCall World) :
    Accounted mode uploadId
      ((call.apply host mode uploadId).run before).2 := by
  rcases accounted.call_cases host call with
    ⟨_, ran⟩ |
    ⟨session, calls, result, left, after, known, ran, effect, leaves, _⟩
  · rw [ran]
    exact accounted
  · rw [ran]
    obtain ⟨laid, settled⟩ :=
      effect.settled (accounted.settled session known) accounted.laid
    refine ⟨leaves.log ▸ laid, fun final knownAfter => ?_⟩
    rw [leaves.log]
    rw [leaves.known] at knownAfter
    exact settled final knownAfter

theorem Accounted.after
    (accounted : Accounted mode uploadId start) (host : Host World)
    (calls : List (ChunkCall World)) :
    Accounted mode uploadId (applyAll host mode uploadId calls start) := by
  induction calls using List.reverseRecOn with
  | nil => exact accounted
  | append_singleton calls last inductionHypothesis =>
      rw [applyAll_append_singleton]
      exact inductionHypothesis.next host last

/-- A new session is settled. -/
theorem Created.accounted
    (created : Created uploadId filename totalSize start) :
    Accounted mode uploadId start := by
  refine ⟨created.unwritten ▸ laid_nil, fun session known => ?_⟩
  rw [created.known] at known
  obtain rfl := Option.some.inj known
  rw [created.unwritten]
  exact ⟨⟨rfl, rfl, fun _ => rfl⟩, rfl⟩

/-- Calls of a new session keep the account. -/
theorem accounted_applyAll
    (host : Host World) (mode : UploadMode)
    (created : Created uploadId filename totalSize start)
    (calls : List (ChunkCall World)) :
    Accounted mode uploadId (applyAll host mode uploadId calls start) :=
  created.accounted.after host calls

/-! ## Writers that do not raise -/

/-- The loop over the buffer raises only if a write does. -/
theorem Drains.exists_failed
    {session final : UploadSession} {calls : List WriterCall}
    {error : PyError}
    (drains : Drains mode session calls (.error error) final) :
    ∃ write ∈ calls, write.succeeded = false := by
  generalize outcome : Except.error error = result at drains
  induction drains with
  | stops => cases outcome
  | fails => exact ⟨_, List.mem_singleton_self _, rfl⟩
  | writes bufferable next rest inductionHypothesis =>
      obtain ⟨write, member, failed⟩ := inductionHypothesis outcome
      exact ⟨write, List.mem_cons_of_mem _ member, failed⟩

/-- If no write raises, a call that raises changes nothing. -/
theorem ChunkEffect.unchanged_of_raises
    {session : UploadSession} {offset : Int} {data : Bytes}
    {written : Except PyError Unit} {calls : List WriterCall}
    {error : PyError} {left : Option UploadSession}
    (effect : ChunkEffect mode session offset data written calls
      (.error error) left)
    (succeed : ∀ write ∈ calls, write.succeeded = true) :
    error.kind = .valueError ∧ calls = [] ∧ left = some session := by
  cases effect with
  | overlapping | outOfOrder => exact ⟨rfl, rfl, rfl⟩
  | refused => cases succeed _ (List.mem_singleton_self _)
  | interrupted next returns drains =>
      obtain ⟨write, member, failed⟩ := drains.exists_failed
      rw [succeed write (List.mem_cons_of_mem _ member)] at failed
      cases failed

theorem Leaves.eq_of_unchanged
    {session : UploadSession} {before after : Workspace (Recorded World)}
    (leaves : Leaves uploadId before after [] (some session))
    (known : before.sessions.get? uploadId = some session) :
    after = before := by
  have sameWorld := leaves.unwritten rfl
  have sameSessions := leaves.sessions
  rw [← known, Dict.assign_get?] at sameSessions
  cases after
  cases before
  cases sameWorld
  cases sameSessions
  rfl

/-- A call with a writer that does not raise is refused without effect. -/
theorem Accounted.refusal_ends
    {before : Workspace (Recorded World)}
    (accounted : Accounted mode uploadId before) {call : ChunkCall World}
    (unfailing : Unfailing call.writer) :
    Ends (call.apply host mode uploadId) before (fun _ _ => True)
      (fun error after => error.kind = .valueError ∧ after = before) := by
  rcases accounted.call_cases host call with
    ⟨_, ran⟩ |
    ⟨session, calls, result, left, after, known, ran, effect, leaves, succeed⟩
  · rw [Ends.of_run_error ran]
    exact ⟨rfl, rfl⟩
  · cases result with
    | ok answer =>
        rw [Ends.of_run_ok ran]
        trivial
    | error error =>
        rw [Ends.of_run_error ran]
        obtain ⟨isValueError, rfl, rfl⟩ :=
          effect.unchanged_of_raises (succeed unfailing)
        exact ⟨isValueError, leaves.eq_of_unchanged known⟩

/-- If no writer raises, all writes succeed. -/
theorem succeeded_applyAll
    (host : Host World) (mode : UploadMode)
    (created : Created uploadId filename totalSize start)
    {calls : List (ChunkCall World)}
    (unfailing : ∀ call ∈ calls, Unfailing call.writer) :
    ∀ write ∈ (applyAll host mode uploadId calls start).world.log,
      write.succeeded = true := by
  induction calls using List.reverseRecOn with
  | nil =>
      rw [applyAll_nil, created.unwritten]
      nofun
  | append_singleton calls last inductionHypothesis =>
      rw [List.forall_mem_append, List.forall_mem_singleton] at unfailing
      have before := inductionHypothesis unfailing.1
      rw [applyAll_append_singleton]
      rcases (accounted_applyAll host mode created calls).call_cases host last
        with
        ⟨_, ran⟩ | ⟨_, _, _, _, _, _, ran, _, leaves, succeed⟩
      · rw [ran]
        exact before
      · rw [ran, leaves.log, List.forall_mem_append]
        exact ⟨before, succeed unfailing.2⟩

/-- The lengths of the data of some calls of a writer, taken together. -/
def totalLength (log : List WriterCall) : Nat := (log.map (·.data.length)).sum

/-- The calls of the writer have the running sums of the lengths before them as
offsets, no position is written twice, and the next offset of the session is
the number of bytes written. -/
structure Contiguous
    (uploadId : Text) (workspace : Workspace (Recorded World)) : Prop where
  offsets : ∀ earlier write later,
    workspace.world.log = earlier ++ write :: later →
      write.offset = .int (totalLength earlier)
  disjoint : workspace.world.log.Pairwise fun first second =>
    Disjoint first.positions second.positions
  counted : ∀ session, workspace.sessions.get? uploadId = some session →
    session.nextExpectedOffset = totalLength workspace.world.log

theorem bytesWritten_of_succeeded
    {log : List WriterCall}
    (succeed : ∀ write ∈ log, write.succeeded = true) :
    bytesWritten log = totalLength log := by
  rw [bytesWritten, totalLength, List.filter_eq_self.mpr succeed]

/-- Whatever chunks are applied to a new session with writers that do not
raise, its writes are contiguous, and a call that raises changes nothing. -/
theorem session_writes_contiguous
    (host : Host World) (mode : UploadMode)
    (created : Created uploadId filename totalSize start)
    {calls : List (ChunkCall World)}
    (unfailing : ∀ call ∈ calls, Unfailing call.writer) :
    Contiguous uploadId (applyAll host mode uploadId calls start) ∧
    ∀ call : ChunkCall World, Unfailing call.writer →
      Ends (call.apply host mode uploadId)
        (applyAll host mode uploadId calls start) (fun _ _ => True)
        (fun error after => error.kind = .valueError ∧
          after = applyAll host mode uploadId calls start) := by
  have accounted := accounted_applyAll host mode created calls
  have succeed := succeeded_applyAll host mode created unfailing
  refine ⟨⟨?_, ?_, ?_⟩, fun call works => accounted.refusal_ends works⟩
  · intro earlier write later parts
    rw [parts, List.forall_mem_append] at succeed
    rw [← bytesWritten_of_succeeded succeed.1]
    exact accounted.laid earlier write later parts
  · have disjoint := accounted.laid.disjoint
    rwa [List.filter_eq_self.mpr succeed] at disjoint
  · intro session known
    rw [← bytesWritten_of_succeeded succeed]
    exact (accounted.settled session known).counted

end Runs

/-! ## A sample session -/

namespace Sample

open MemoryHost

/-- The session of a file of five bytes, before anything is sent. -/
def newSession : Workspace (Recorded Files) where
  world := { state := Dict.empty.set "/sandbox/a.txt" [] }
  sessions := Dict.empty.set "u"
    { uploadId := "u", filename := "a.txt", totalSize := .int 5 }

theorem newSession_created :
    Created "u" "a.txt" (.int 5) newSession := ⟨rfl, rfl⟩

/-- A writer that writes nowhere. -/
def discard : FileWriter Files := fun _ _ _ => pure ()

theorem discard_unfailing : Unfailing discard := fun _ _ _ _ => rfl

/-- Two chunks in reverse order, the first of them twice. -/
def reversedCalls : List (ChunkCall Files) :=
  [⟨2, [0x6C, 0x6C, 0x6F], discard⟩, ⟨0, [0x48, 0x65], discard⟩,
    ⟨0, [0x48, 0x65], discard⟩]

theorem session_writes_contiguous_reversed :
    Contiguous "u" (applyAll (memoryHost [] []) .bufferable "u" reversedCalls
      newSession) ∧
    ∀ call : ChunkCall Files, Unfailing call.writer →
      Ends (call.apply (memoryHost [] []) .bufferable "u")
        (applyAll (memoryHost [] []) .bufferable "u" reversedCalls newSession)
        (fun _ _ => True)
        (fun error after => error.kind = .valueError ∧
          after = applyAll (memoryHost [] []) .bufferable "u" reversedCalls
            newSession) := by
  refine session_writes_contiguous (memoryHost [] []) .bufferable
    newSession_created ?_
  intro call member
  simp only [reversedCalls, List.mem_cons, List.not_mem_nil, or_false] at member
  rcases member with rfl | rfl | rfl <;> exact discard_unfailing

end Sample

end RudpAgentStack

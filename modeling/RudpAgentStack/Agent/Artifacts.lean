import RudpAgentStack.Agent.Answers
import RudpAgentStack.Agent.Confinement
import RudpAgentStack.Agent.LargeReports

/-!
# Artifacts of different tasks

The name of a fallback artifact is made of the client id of the task's context,
which is the same for all clients, and the request id.  Two tasks of a run that
are answered with artifacts have different files exactly when their request ids
differ; then neither of the files is touched by writing the other.
-/

namespace RudpAgentStack

open Foundation

variable {World : Type} {host : Host World} {guard : PolicyGuard}

/-! ## Writing elsewhere -/

/-- The computation leaves this content at this path, however it ends. -/
def KeepsFile
    {α : Type} (content : World → Contents) (path : Text) (bytes : Bytes)
    (action : Action World α) : Prop :=
  Keeps (fun world => content world path = some bytes) action
    (fun _ => True) (fun _ => True)

namespace KeepsFile

variable {α : Type} {content : World → Contents} {path : Text} {bytes : Bytes}

theorem of_leavesContents {action : Action World α}
    (leaves : LeavesContents content action) :
    KeepsFile content path bytes action := by
  intro world holds
  refine (leaves.ends world).mono (fun _ after same => ⟨trivial, ?_⟩)
    fun _ after same => ⟨trivial, ?_⟩
  · exact (congrFun same path).trans holds
  · exact (congrFun same path).trans holds

theorem of_changes {action : Action World Unit} {other : Text}
    {change : Option Bytes → Option Bytes}
    (changes : Changes content other change action) (elsewhere : path ≠ other) :
    KeepsFile content path bytes action := by
  intro world holds
  refine (changes world).mono (fun _ after changed => ⟨trivial, ?_⟩)
    fun _ after unchanged => ⟨trivial, ?_⟩
  · change content after path = some bytes
    rwa [changed, Function.update_of_ne elsewhere]
  · exact (unchanged path elsewhere).trans holds

end KeepsFile

namespace ToolDispatcher

variable {path safePath temporary : Text} {bytes : Bytes}

/-- A temporary file is created under a name that is not in use. -/
theorem createTemporary_keepsFile
    (files : FileSystem host) (directory path : Text) (bytes : Bytes) :
    Keeps (fun world => files.content world path = some bytes)
      (host.createTemporary directory) (fun name => path ≠ name)
      (fun _ => True) := by
  intro world holds
  refine (files.createTemporary directory world).mono ?_
    fun _ after same => ⟨trivial, (congrFun same path).trans holds⟩
  rintro name after ⟨absent, created⟩
  have elsewhere : path ≠ name := by
    rintro rfl
    cases absent.symm.trans holds
  refine ⟨elsewhere, ?_⟩
  change files.content after path = some bytes
  rwa [created, Function.update_of_ne elsewhere]

theorem replace_keepsFile
    (files : FileSystem host) {source target : Text}
    (notSource : path ≠ source) (notTarget : path ≠ target) :
    KeepsFile files.content path bytes (host.replace source target) := by
  intro world holds
  refine (files.replace source target world).mono
    (fun _ after renamed => ⟨trivial, ?_⟩)
    fun _ after same => ⟨trivial, (congrFun same path).trans holds⟩
  change files.content after path = some bytes
  rw [renamed]
  split
  · exact holds
  · rwa [Function.update_of_ne notTarget, Function.update_of_ne notSource]

/-- Filling a temporary file and renaming it keeps every other file. -/
theorem finishWrite_keepsFile
    (files : FileSystem host) (notTemporary : path ≠ temporary)
    (elsewhere : path ≠ safePath) (content : Except PyError Bytes) :
    KeepsFile files.content path bytes
      (finishWrite host safePath temporary content) := by
  have closes : KeepsFile files.content path bytes
      (host.closeTemporary temporary) :=
    .of_changes (files.closeTemporary temporary) notTemporary
  unfold finishWrite
  refine Keeps.bind (Keeps.tryCatch
    (?fill : KeepsFile files.content path bytes _)
    fun error _ => closes.bind fun _ _ => Keeps.of_throw trivial)
    fun _ _ => Keeps.tryCatch
      (?rename : KeepsFile files.content path bytes _)
      fun error _ => ?removal
  case fill =>
    refine Keeps.bind (Keeps.of_lift (fun _ _ => trivial) fun _ _ => trivial)
      fun written (_ : True) => ?_
    refine Keeps.bind (KeepsFile.of_changes
      (files.writeTemporary temporary written) notTemporary) fun _ _ => ?_
    refine Keeps.bind (KeepsFile.of_changes
      (files.flushTemporary temporary) notTemporary) fun _ _ => ?_
    refine Keeps.tryCatch (KeepsFile.of_leavesContents
      (files.syncTemporary temporary)) fun error _ => ?_
    split
    · exact Keeps.of_pure trivial
    · exact Keeps.of_throw trivial
  case rename =>
    exact closes.bind fun _ _ => replace_keepsFile files notTemporary elsewhere
  case removal =>
    refine Keeps.bind (Keeps.bind Keeps.of_get fun _ _ =>
      Keeps.of_pure trivial) fun present (_ : True) => ?_
    split
    · exact Keeps.bind (KeepsFile.of_changes (files.remove temporary)
        notTemporary) fun _ _ => Keeps.of_throw trivial
    · exact Keeps.of_throw trivial

/-- An atomic write keeps every file but its own, also when it raises. -/
theorem atomicWrite_keepsFile
    (files : FileSystem host) {filename : Json}
    (valid : guard.validatePath filename = .ok safePath)
    (elsewhere : path ≠ safePath) (content : Except PyError Bytes) :
    KeepsFile files.content path bytes
      (atomicWrite host guard filename content) := by
  rw [atomicWrite_eq, valid]
  refine Keeps.bind (Keeps.of_lift
    (fun written (same : Except.ok safePath = .ok written) => same)
    fun _ _ => trivial) fun written same => ?_
  cases same
  refine Keeps.bind (KeepsFile.of_leavesContents (files.makedirs _))
    fun _ _ => ?_
  exact (createTemporary_keepsFile files _ path bytes).bind
    fun temporary notTemporary =>
      finishWrite_keepsFile files notTemporary elsewhere content

/-- A fallback artifact replaces no file of another path. -/
theorem writeFallbackArtifact_keepsFile
    (files : FileSystem host) {context : Context}
    (valid : guard.validatePath (.string
      (Planner.makeArtifactPath context.initial "result.txt")) = .ok safePath)
    (elsewhere : path ≠ safePath) (content : Bytes) :
    KeepsFile files.content path bytes
      (writeFallbackArtifact host guard content context) := by
  unfold writeFallbackArtifact
  rw [fallbackPath_eq]
  exact Keeps.bind (atomicWrite_keepsFile files valid elsewhere _)
    fun _ _ => Keeps.of_pure trivial

end ToolDispatcher

/-! ## The files of artifacts -/

namespace TaskHandler

/-- The artifacts of requests with different ids are different files. -/
theorem ne_of_resultPath
    (wellFormed : guard.WellFormed) {header header' : AppHeader}
    {safePath safePath' : Text}
    (valid : guard.validatePath (.string (resultPath defaultClient header)) =
      .ok safePath)
    (valid' : guard.validatePath (.string (resultPath defaultClient header')) =
      .ok safePath')
    (nonneg : 0 ≤ header.requestId) (nonneg' : 0 ≤ header'.requestId)
    (different : header.requestId ≠ header'.requestId) :
    safePath ≠ safePath' := by
  rintro rfl
  have below := meaningful_artifact wellFormed rfl rfl (by simp) valid
  have below' := meaningful_artifact wellFormed rfl rfl (by simp) valid'
  have names := List.append_cancel_left (below.symm.trans below')
  simp only [List.cons.injEq, and_true, true_and, List.append_assoc] at names
  have underscore : Text.ofString "_" = [0x5F] := by decide
  obtain ⟨number, number_eq⟩ := Int.eq_ofNat_of_zero_le nonneg
  obtain ⟨number', number_eq'⟩ := Int.eq_ofNat_of_zero_le nonneg'
  rw [number_eq, number_eq', underscore] at names
  have same := (Text.ofInt_append_inj (.inr (by decide)) names).1
  exact different (by rw [number_eq, number_eq', same])

end TaskHandler

/-! ## Responses to tasks -/

/-- Every cached response to a task is one for its key. -/
def IdempotencyCache.AnswersTasks (cache : IdempotencyCache) : Prop :=
  ∀ key entry, handlers.lookup key.2.2 = some .task →
    cache.get? key = some entry → IsResponse key.2.1 key.2.2 entry.value

namespace AgentServer

variable {state : AgentState World} {header : AppHeader}

/-- What is dispatched to the task handler is answered with a response for
it. -/
theorem isResponse_of_dispatch_task
    (answers : state.cache.AnswersTasks) (isTask : header.IsTask)
    {payload : Bytes} {now : Readings} {response : Bytes}
    (returned : ((Dispatcher.dispatch host guard header payload none now).run
      state).1 = .ok response) :
    IsResponse header.requestId header.opcode response := by
  cases parsed : TaskHandler.parseTask host payload with
  | error error =>
      rw [Dispatcher.dispatch_of_unparsed isTask parsed] at returned
      exact isResponse_of_buildErrorResponse returned
  | ok taskData =>
      cases shared : state.cache.answer? (TaskHandler.sharedKey header)
          now.taskLookup with
      | some answer =>
          have answered : Dispatcher.sharedAnswer? host header payload now
              state.cache = some answer := by
            rw [Dispatcher.sharedAnswer?, if_pos (header.isTask_iff.mp isTask),
              TaskHandler.sharedAnswer?, parsed]
            exact shared
          rw [Dispatcher.dispatch_of_sharedAnswer? host guard answered]
            at returned
          cases returned
          obtain ⟨found, _⟩ := IdempotencyCache.answer?_eq_some_iff.mp shared
          obtain ⟨entry, present, _, rfl⟩ := TtlCache.find?_eq_some_iff.mp found
          exact answers _ entry (header.isTask_iff.mp isTask) present
      | none =>
          rw [Dispatcher.dispatch_of_parsed isTask parsed shared] at returned
          generalize run : (TaskHandler.performTask host guard header
            taskData TaskHandler.defaultClient).run
              state.workspace.world = performed at returned
          obtain ⟨error | ⟨_, sideEffects⟩, after⟩ := performed
          · exact isResponse_of_buildErrorResponse returned
          · cases returned
            obtain ⟨_, _, built⟩ :=
              TaskHandler.performTask_eq_ok_iff.mp ⟨_, run⟩
            exact isResponse_of_buildResponse built

theorem answersTasks_ownLookedUp
    (answers : state.cache.AnswersTasks) (clientId : Text) (now : Readings) :
    (ownLookedUp clientId header now state).cache.AnswersTasks :=
  fun key entry isTask present =>
    answers key entry isTask (TtlCache.get?_of_get?_lookup present)

variable (host guard) in
/-- What the dispatcher returns for a task is a response to it. -/
theorem isResponse_of_returned_task
    (answers : state.cache.AnswersTasks) (call : Call)
    (isTask : header.IsTask) (response : Bytes)
    (returned : ((Dispatcher.dispatch host guard header
      (call.data.drop headerSize) none call.now).run
        (ownLookedUp call.clientId header call.now state)).1 = .ok response) :
    IsResponse header.requestId header.opcode response :=
  isResponse_of_dispatch_task
    (answersTasks_ownLookedUp answers call.clientId call.now) isTask returned

/-- Serving a call leaves only responses for their keys to tasks. -/
theorem answersTasks_serve
    (answers : state.cache.AnswersTasks) (call : Call) :
    (serve host guard state call).2.cache.AnswersTasks := by
  apply serve_keeps host guard fun state => state.cache.AnswersTasks
  · exact answers
  intro header framed own
  rw [serve_of_unanswered host guard framed own]
  have looked : (ownLookedUp call.clientId header call.now
      state).cache.AnswersTasks :=
    answersTasks_ownLookedUp answers call.clientId call.now
  have effect := Dispatcher.dispatch_cacheEffect host guard header
    (call.data.drop headerSize) call.now
    (ownLookedUp call.clientId header call.now state)
  have isResponse := fun (isTask : header.IsTask) =>
    isResponse_of_returned_task host guard answers call isTask
  intro key entry isTask present
  -- an entry from before, or what the dispatch stored under the shared key
  have earlier : ∀ stored,
      TaskHandler.CacheEffect header call.now (ownLookedUp call.clientId
        header call.now state).cache ((Dispatcher.dispatch host guard header
          (call.data.drop headerSize) none call.now).run (ownLookedUp
            call.clientId header call.now state)).1 stored →
      stored.get? key = some entry →
      IsResponse key.2.1 key.2.2 entry.value := by
    intro stored effect left
    rcases origin_of_cacheEffect effect left with
      before | ⟨rfl, returned, _⟩
    · exact looked key entry isTask before
    · exact isResponse (header.isTask_iff.mpr isTask) _ returned
  unfold carryOut at present
  generalize (Dispatcher.dispatch host guard header
    (call.data.drop headerSize) none call.now).run (ownLookedUp
      call.clientId header call.now state) = dispatched
    at effect present earlier isResponse
  obtain ⟨error | response, after⟩ := dispatched
  · exact earlier _ effect present
  · change (TtlCache.store after.cache (requestKey call.clientId header)
      response call.now.store).get? key = _ at present
    rw [TtlCache.get?_store] at present
    split at present
    · next sameKey =>
        cases present
        rw [sameKey] at isTask ⊢
        exact isResponse (header.isTask_iff.mpr isTask) _ rfl
    · exact earlier _ effect present

/-- Run lemma: the responses to tasks in the cache are ones for their keys. -/
theorem answersTasks_run (world : World) (calls : List Call) :
    (run host guard (new world) calls).cache.AnswersTasks := by
  apply run_keeps host guard fun state => state.cache.AnswersTasks
  · intro key entry _ present
    cases present
  · intro state call answers
    exact answersTasks_serve answers call

/-- A task that is answered is answered with a response for it. -/
theorem isResponse_of_serve
    (answers : state.cache.AnswersTasks) {call : Call}
    (framed : frame? call.data = some header) (isTask : header.IsTask)
    (answered : (serve host guard state call).1 ≠ []) :
    IsResponse header.requestId header.opcode
      (serve host guard state call).1 := by
  cases own : state.cache.answer? (requestKey call.clientId header)
      call.now.lookup with
  | some response =>
      rw [serve_of_framed host guard framed,
        processFrame_of_answer? host guard own]
      obtain ⟨found, _⟩ := IdempotencyCache.answer?_eq_some_iff.mp own
      obtain ⟨entry, present, _, rfl⟩ := TtlCache.find?_eq_some_iff.mp found
      exact answers _ entry (header.isTask_iff.mp isTask) present
  | none =>
      have isResponse :=
        isResponse_of_returned_task host guard answers call isTask
      rw [serve_of_unanswered host guard framed own] at answered ⊢
      unfold carryOut at answered ⊢
      generalize (Dispatcher.dispatch host guard header
        (call.data.drop headerSize) none call.now).run (ownLookedUp
          call.clientId header call.now state) = dispatched
        at answered isResponse ⊢
      obtain ⟨error | response, after⟩ := dispatched
      · exact absurd rfl answered
      · exact isResponse response rfl

end AgentServer

/-! ## Tasks answered with artifacts -/

namespace AgentServer

/-- The call is answered with the response built from a result with this
artifact, which the call or an earlier one has produced. -/
def ReturnsArtifact
    (host : Host World) (guard : PolicyGuard) (start : AgentState World)
    (earlier : List Call) (call : Call) (path : Text) : Prop :=
  ∃ before other header taskData entries after,
    before ++ [other] <+: earlier ++ [call] ∧
    Performs host (run host guard start before) other header taskData ∧
    (TaskHandler.taskResult host guard header taskData
      TaskHandler.defaultClient).run
        (run host guard start before).workspace.world =
      (.ok (.object entries), after) ∧
    Json.get? entries "artifact_path" = some (.string path) ∧
    ResponseBuilder.buildResponse host header.opcode header.requestId .ok
        (.object entries) =
      .ok (serve host guard (run host guard start earlier) call).1

/-- Among the calls is a task of the client that is answered with the
artifact. -/
def AnsweredWithArtifact
    (host : Host World) (guard : PolicyGuard) (world : World)
    (calls : List Call) (clientId : Text) (header : AppHeader) (path : Text) :
    Prop :=
  ∃ earlier call, earlier ++ [call] <+: calls ∧ call.clientId = clientId ∧
    frame? call.data = some header ∧ header.IsTask ∧
    ReturnsArtifact host guard (new world) earlier call path

/-- Writing the artifact that has the name of the other keeps this one. -/
def KeptBy
    (files : FileSystem host) (guard : PolicyGuard) (safePath other : Text) :
    Prop :=
  ∀ bytes content context,
    Planner.makeArtifactPath context.initial "result.txt" = other →
    KeepsFile files.content safePath bytes
      (ToolDispatcher.writeFallbackArtifact host guard content context)

/-- The two paths denote different files of the sandbox, and writing an
artifact under one of them keeps the file of the other. -/
def ArtifactsApart
    (files : FileSystem host) (guard : PolicyGuard) (path path' : Text) :
    Prop :=
  ∃ safePath safePath', guard.validatePath (.string path) = .ok safePath ∧
    guard.validatePath (.string path') = .ok safePath' ∧
    safePath ≠ safePath' ∧ KeptBy files guard safePath path' ∧
    KeptBy files guard safePath' path

/-- Any two tasks among the calls that differ in client, request id or opcode
have different request ids. -/
def DistinctTaskIds (calls : List Call) : Prop :=
  ∀ call ∈ calls, ∀ call' ∈ calls, ∀ header header',
    frame? call.data = some header → header.IsTask →
    frame? call'.data = some header' → header'.IsTask →
    requestKey call.clientId header ≠ requestKey call'.clientId header' →
    header.requestId ≠ header'.requestId

/-- The artifacts of any two tasks among the calls that differ in client,
request id or opcode are apart. -/
def ArtifactsIsolated
    (files : FileSystem host) (guard : PolicyGuard) (world : World)
    (calls : List Call) : Prop :=
  ∀ clientId header path clientId' header' path',
    AnsweredWithArtifact host guard world calls clientId header path →
    AnsweredWithArtifact host guard world calls clientId' header' path' →
    requestKey clientId header ≠ requestKey clientId' header' →
    ArtifactsApart files guard path path'

variable {world : World} {calls : List Call} {clientId path : Text}
  {header : AppHeader}

/-- The artifact a task is answered with has the name made of the default
client and the request id of the task. -/
theorem AnsweredWithArtifact.path_eq
    (answered : AnsweredWithArtifact host guard world calls clientId header
      path) :
    path = TaskHandler.resultPath TaskHandler.defaultClient header ∧
      ∃ safePath, guard.validatePath (.string path) = .ok safePath := by
  obtain ⟨earlier, call, _, _, framed, isTask, before, other, otherHeader,
    taskData, entries, after, _, performs, performed, found, built⟩ := answered
  obtain ⟨named, valid⟩ := TaskHandler.artifact_of_taskResult performed found
  obtain ⟨otherFrame, framedOther, sameId, _⟩ :=
    isResponse_of_buildResponse built
  have nonempty : (serve host guard (run host guard (new world) earlier)
      call).1 ≠ [] := by
    intro empty
    rw [empty] at framedOther
    exact not_isResponse_nil _ _ ⟨_, framedOther, rfl, rfl⟩
  obtain ⟨ownFrame, framedOwn, ownId, _⟩ := isResponse_of_serve
    (answersTasks_run world earlier) framed isTask nonempty
  cases framedOther.symm.trans framedOwn
  refine ⟨?_, valid⟩
  rw [Json.string.inj named, TaskHandler.resultPath, TaskHandler.resultPath,
    ← sameId, ownId]

theorem AnsweredWithArtifact.requestId_nonneg
    (answered : AnsweredWithArtifact host guard world calls clientId header
      path) :
    0 ≤ header.requestId := by
  obtain ⟨_, call, _, _, framed, _⟩ := answered
  exact (of_frame? framed).1.requestId.1

/-- The artifacts of two tasks of a run are apart exactly when the request ids
differ. -/
theorem artifactsApart_iff
    (files : FileSystem host) (wellFormed : guard.WellFormed)
    {clientId' path' : Text} {header' : AppHeader}
    (answered : AnsweredWithArtifact host guard world calls clientId header
      path)
    (answered' : AnsweredWithArtifact host guard world calls clientId' header'
      path') :
    ArtifactsApart files guard path path' ↔
      header.requestId ≠ header'.requestId := by
  obtain ⟨rfl, safePath, valid⟩ := answered.path_eq
  obtain ⟨rfl, safePath', valid'⟩ := answered'.path_eq
  constructor
  · rintro ⟨first, second, validFirst, validSecond, different, _⟩ sameId
    have samePath :
        TaskHandler.resultPath TaskHandler.defaultClient header =
          TaskHandler.resultPath TaskHandler.defaultClient header' := by
      rw [TaskHandler.resultPath, TaskHandler.resultPath, sameId]
    rw [samePath] at validFirst
    exact different (Except.ok.inj (validFirst.symm.trans validSecond))
  · intro differentIds
    have different : safePath ≠ safePath' :=
      TaskHandler.ne_of_resultPath wellFormed valid valid'
        answered.requestId_nonneg answered'.requestId_nonneg differentIds
    refine ⟨safePath, safePath', valid, valid', different, ?_, ?_⟩
    · intro bytes content context named
      exact ToolDispatcher.writeFallbackArtifact_keepsFile files
        (named ▸ valid') different content
    · intro bytes content context named
      exact ToolDispatcher.writeFallbackArtifact_keepsFile files
        (named ▸ valid) different.symm content

/-- In a run whose tasks have distinct request ids, the artifacts are
isolated; and in every run those of two tasks are apart exactly when their
request ids differ. -/
theorem artifacts_isolated
    (files : FileSystem host) (wellFormed : guard.WellFormed) (world : World)
    (calls : List Call) :
    (DistinctTaskIds calls → ArtifactsIsolated files guard world calls) ∧
      ∀ clientId header path clientId' header' path',
        AnsweredWithArtifact host guard world calls clientId header path →
        AnsweredWithArtifact host guard world calls clientId' header' path' →
        (ArtifactsApart files guard path path' ↔
          header.requestId ≠ header'.requestId) := by
  refine ⟨?_, fun _ _ _ _ _ _ answered answered' =>
    artifactsApart_iff files wellFormed answered answered'⟩
  intro distinct clientId header path clientId' header' path' answered
    answered' different
  refine (artifactsApart_iff files wellFormed answered answered').mpr ?_
  obtain ⟨_, call, isPrefix, rfl, framed, isTask, _⟩ := answered
  obtain ⟨_, call', isPrefix', rfl, framed', isTask', _⟩ := answered'
  exact distinct call (isPrefix.subset (by simp)) call'
    (isPrefix'.subset (by simp)) header header' framed isTask framed' isTask'
    different

end AgentServer

/-! ## Two searches -/

namespace Sample

open AgentServer

variable {requestId requestId' : Int} {clientId clientId' : Text}

/-- The sandbox of two searches: its file has a line of 64 KiB. -/
def searchedFiles : MemoryHost.Files := longFiles 65536

/-- The calls of two clients that search the file. -/
def searchCalls
    (clientId : Text) (requestId : Int) (clientId' : Text) (requestId' : Int) :
    List Call :=
  [searchCall clientId requestId, searchCall clientId' requestId']

/-- A search that is performed is answered with its artifact. -/
theorem Searches.returnsArtifact
    (searches : Searches requestId) {earlier : List Call}
    (performs : Performs searchHost
      (run searchHost policyGuard (new searchedFiles) earlier)
      (searchCall clientId requestId) (searchHeader requestId) linesData)
    (holds : HoldsLine 65536 (run searchHost policyGuard (new searchedFiles)
      earlier).workspace.world) :
    ReturnsArtifact searchHost policyGuard (new searchedFiles) earlier
        (searchCall clientId requestId)
        (TaskHandler.resultPath TaskHandler.defaultClient
          (searchHeader requestId)) ∧
      HoldsLine 65536 (run searchHost policyGuard (new searchedFiles)
        (earlier ++ [searchCall clientId requestId])).workspace.world ∧
      ∀ key entry,
        (run searchHost policyGuard (new searchedFiles)
          (earlier ++ [searchCall clientId requestId])).cache.get? key =
            some entry →
        (run searchHost policyGuard (new searchedFiles)
            earlier).cache.get? key = some entry ∨
          key = requestKey clientId (searchHeader requestId) := by
  obtain ⟨safePath, valid, elsewhere⟩ := searches.valid
  obtain ⟨response, built⟩ := searches.built
  obtain ⟨after, performed, left⟩ := taskResult_linesData _ rfl holds
    (by decide) (by decide) valid elsewhere
  obtain ⟨answer, world_eq, stored⟩ := performs.serve_eq performed built
  rw [run_append_singleton, world_eq]
  refine ⟨?_, left, stored rfl⟩
  exact ⟨earlier, _, _, _, _, _, List.prefix_rfl, performs, performed, rfl,
    answer ▸ built⟩

/-- Both searches are answered with artifacts. -/
theorem answeredWithArtifact_both
    (searches : Searches requestId) (searches' : Searches requestId')
    (different : clientId ≠ clientId')
    (named : clientId ≠ TaskHandler.defaultClient) :
    AnsweredWithArtifact searchHost policyGuard searchedFiles
        (searchCalls clientId requestId clientId' requestId') clientId
        (searchHeader requestId)
        (TaskHandler.resultPath TaskHandler.defaultClient
          (searchHeader requestId)) ∧
      AnsweredWithArtifact searchHost policyGuard searchedFiles
        (searchCalls clientId requestId clientId' requestId') clientId'
        (searchHeader requestId')
        (TaskHandler.resultPath TaskHandler.defaultClient
          (searchHeader requestId')) := by
  have isTask : ∀ requestId, (searchHeader requestId).IsTask :=
    fun _ => .inl rfl
  have performs : Performs searchHost
      (run searchHost policyGuard (new searchedFiles) [])
      (searchCall clientId requestId) (searchHeader requestId) linesData :=
    ⟨searches.framed, isTask _, rfl, searches.parsed, rfl⟩
  obtain ⟨first, left, stored⟩ :=
    searches.returnsArtifact performs (longFiles_holdsLine _)
  have unanswered : ∀ other now, other ≠ clientId →
      (run searchHost policyGuard (new searchedFiles)
        [searchCall clientId requestId]).cache.answer?
          (requestKey other (searchHeader requestId')) now = none := by
    intro other now isOther
    cases answer : (run searchHost policyGuard (new searchedFiles)
      [searchCall clientId requestId]).cache.answer?
        (requestKey other (searchHeader requestId')) now with
    | none => rfl
    | some response =>
        obtain ⟨found, _⟩ := IdempotencyCache.answer?_eq_some_iff.mp answer
        obtain ⟨entry, present, _⟩ := TtlCache.find?_eq_some_iff.mp found
        rcases stored _ entry present with before | own
        · cases before
        · exact absurd (congrArg Prod.fst own) isOther
  have performs' : Performs searchHost
      (run searchHost policyGuard (new searchedFiles)
        [searchCall clientId requestId])
      (searchCall clientId' requestId') (searchHeader requestId') linesData :=
    ⟨searches'.framed, isTask _, unanswered _ _ different.symm,
      searches'.parsed, unanswered _ _ named.symm⟩
  obtain ⟨second, _⟩ := searches'.returnsArtifact performs' left
  exact ⟨⟨[], _, by simp [searchCalls], rfl, searches.framed, isTask _, first⟩,
    ⟨_, _, List.prefix_rfl, rfl, searches'.framed, isTask _, second⟩⟩

end Sample

namespace AgentServer

open Sample

/-- The searches of two clients with different request ids have artifacts of
their own. -/
theorem artifacts_isolated_twoClients :
    ArtifactsIsolated (memoryFiles _ _ : FileSystem searchHost) policyGuard
        searchedFiles (searchCalls "10.0.0.1:5000" 1 "10.0.0.2:5000" 2) ∧
      ArtifactsApart (memoryFiles _ _ : FileSystem searchHost) policyGuard
        "artifacts/default_client/1_result.txt"
        "artifacts/default_client/2_result.txt" := by
  obtain ⟨isolated, apart_iff⟩ := artifacts_isolated
    (memoryFiles _ _ : FileSystem searchHost) policyGuard_wellFormed
    searchedFiles (searchCalls "10.0.0.1:5000" 1 "10.0.0.2:5000" 2)
  obtain ⟨first, second⟩ := answeredWithArtifact_both searches_one searches_two
    (show Text.ofString "10.0.0.1:5000" ≠ "10.0.0.2:5000" by decide)
    (by decide)
  refine ⟨isolated ?_, (apart_iff _ _ _ _ _ _ first second).mpr (by decide)⟩
  intro call member call' member' header header' framed _ framed' _ different
  simp only [searchCalls, List.mem_cons, List.not_mem_nil, or_false]
    at member member'
  rcases member with rfl | rfl <;> rcases member' with rfl | rfl
  · cases framed.symm.trans framed'
    exact absurd rfl different
  · cases searches_one.framed.symm.trans framed
    cases searches_two.framed.symm.trans framed'
    decide
  · cases searches_two.framed.symm.trans framed
    cases searches_one.framed.symm.trans framed'
    decide
  · cases framed.symm.trans framed'
    exact absurd rfl different

/-- With the same request id they share one file. -/
theorem artifacts_shared_by_twoClients :
    ¬ ArtifactsIsolated (memoryFiles _ _ : FileSystem searchHost) policyGuard
      searchedFiles (searchCalls "10.0.0.1:5000" 1 "10.0.0.2:5000" 1) := by
  intro isolated
  have differentClients :
      Text.ofString "10.0.0.1:5000" ≠ "10.0.0.2:5000" := by decide
  obtain ⟨first, second⟩ := answeredWithArtifact_both searches_one searches_one
    differentClients (by decide)
  obtain ⟨safePath, safePath', valid, valid', different, _⟩ :=
    isolated _ _ _ _ _ _ first second
      fun same => differentClients (congrArg Prod.fst same)
  exact different (Except.ok.inj (valid.symm.trans valid'))

end AgentServer

end RudpAgentStack

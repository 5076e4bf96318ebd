import RudpAgentStack.Agent.FileRequests
import RudpAgentStack.Agent.RecordingHost

/-!
# Confinement to the sandbox

Whatever the request, the paths it touches lie strictly inside the sandbox
root, with one exception: a task that names the root itself as the file to
write its result to creates its temporary file next to the root.
-/

namespace RudpAgentStack

open Foundation

variable {World : Type} {host : Host World} {guard : PolicyGuard}

/-! ## Artifacts -/

theorem separator_not_mem_ofInt (number : Int) :
    PosixPath.separator ∉ Text.ofInt number := by
  have noDigit : ∀ natural : Nat,
      PosixPath.separator ∉ Text.ofInt natural := by
    intro natural member
    have digit := Text.digit_of_mem_ofInt member
    revert digit
    decide
  cases number with
  | ofNat natural => exact noDigit natural
  | negSucc natural =>
    have shown : Text.ofInt (Int.negSucc natural) =
        Text.ofString "-" ++ Text.ofInt ((natural + 1 : Nat) : Int) := by
      have repr : toString (Int.negSucc natural) =
          "-" ++ toString ((natural + 1 : Nat) : Int) := rfl
      simp [Text.ofInt, Text.ofString, repr]
    rw [shown, List.mem_append, not_or]
    exact ⟨by decide, noDigit _⟩

/-- The path of an artifact has three components. -/
theorem makeArtifactPath_eq_unsplit (initial : TaskContext) (suffix : Text) :
    Planner.makeArtifactPath initial suffix =
      PosixPath.unsplit [artifactDir, initial.clientId,
        initial.requestId ++ Text.ofString "_" ++ suffix] := by
  have slash : Text.ofString "/" = [PosixPath.separator] := by decide
  simp [Planner.makeArtifactPath, PosixPath.unsplit, Text.join, slash]

theorem artifact_normal
    {initial : TaskContext} {requestId : Int} {suffix : Text}
    (client : initial.clientId = TaskHandler.defaultClient)
    (request : initial.requestId = Text.ofInt requestId)
    (listed : suffix ∈ [Text.ofString "result.txt",
      Text.ofString "plan.json"]) :
    ∀ component ∈ [artifactDir, initial.clientId,
        initial.requestId ++ Text.ofString "_" ++ suffix],
      PosixPath.NormalComponent component := by
  rw [client, request, List.forall_mem_cons, List.forall_mem_cons,
    List.forall_mem_singleton]
  refine ⟨by unfold PosixPath.NormalComponent; decide,
    by unfold PosixPath.NormalComponent; decide, ?_⟩
  have underscore : (0x5F : CodePoint) ∈
      Text.ofInt requestId ++ Text.ofString "_" ++ suffix := by
    simp [Text.ofString]
  have suffixFree : ∀ suffix ∈ [Text.ofString "result.txt",
      Text.ofString "plan.json"], PosixPath.separator ∉ suffix := by decide
  refine ⟨List.ne_nil_of_mem underscore, ?_, ?_, ?_⟩
  · intro same
    rw [same] at underscore
    revert underscore
    decide
  · intro same
    rw [same] at underscore
    revert underscore
    decide
  · rw [List.mem_append, List.mem_append, not_or, not_or]
    exact ⟨⟨separator_not_mem_ofInt _, by decide⟩, suffixFree suffix listed⟩

/-- Where the artifact of a request lies below the root. -/
theorem meaningful_artifact
    (wellFormed : guard.WellFormed)
    {initial : TaskContext} {requestId : Int} {suffix safePath : Text}
    (client : initial.clientId = TaskHandler.defaultClient)
    (request : initial.requestId = Text.ofInt requestId)
    (listed : suffix ∈ [Text.ofString "result.txt",
      Text.ofString "plan.json"])
    (valid : guard.validatePath
      (.string (Planner.makeArtifactPath initial suffix)) = .ok safePath) :
    PosixPath.meaningful safePath =
      PosixPath.meaningful guard.sandboxRoot ++
        [artifactDir, initial.clientId,
          initial.requestId ++ Text.ofString "_" ++ suffix] := by
  have normal := artifact_normal client request listed
  rw [makeArtifactPath_eq_unsplit] at valid
  obtain ⟨_, ⟨⟩, path_eq, _⟩ := PolicyGuard.of_validatePath valid
  obtain ⟨rootLeading, rootComponents, rootNormal, root_eq⟩ := wellFormed
  have rootAbsolute : PosixPath.isAbsolute guard.sandboxRoot = true := by
    rw [root_eq]
    exact PosixPath.isAbsolute_rooted _ _
  have absolute := PosixPath.isAbsolute_join (PosixPath.unsplit
    [artifactDir, initial.clientId,
      initial.requestId ++ Text.ofString "_" ++ suffix]) rootAbsolute
  obtain ⟨leading, normalized⟩ := PosixPath.normalize_of_isAbsolute absolute
  rw [path_eq, normalized,
    PosixPath.meaningful_rooted _ (PosixPath.resolve_normal absolute),
    PosixPath.resolve_join rootAbsolute (by simp) normal, root_eq,
    PosixPath.resolve_rooted _ rootNormal,
    PosixPath.meaningful_rooted _ rootNormal]

/-- Artifacts are written to a directory inside. -/
theorem artifactsAllowed
    (record : PathRecord host) (wellFormed : guard.WellFormed)
    {initial : TaskContext} {requestId : Int}
    (client : initial.clientId = TaskHandler.defaultClient)
    (request : initial.requestId = Text.ofInt requestId) :
    ArtifactsAllowed (record.confining wellFormed) initial := by
  intro suffix listed safePath valid
  change PosixPath.meaningful guard.sandboxRoot <+:
    (PosixPath.meaningful safePath).dropLast
  rw [meaningful_artifact wellFormed client request listed valid]
  simp

/-! ## Tasks that write to the root -/

/-- The directory of a validated path is outside only if the path is the
root. -/
theorem PolicyGuard.WellFormed.directoryInside_or_namesRoot
    (wellFormed : guard.WellFormed) {filename : Json} {path : Text}
    (valid : guard.validatePath filename = .ok path) :
    DirectoryInside guard.sandboxRoot path ∨
      NamesRoot guard.sandboxRoot path := by
  obtain ⟨leading, components, normal, rfl, below⟩ := wellFormed.validated valid
  unfold DirectoryInside NamesRoot
  rw [PosixPath.meaningful_rooted _ normal]
  obtain ⟨rest, rfl⟩ := below
  rcases List.eq_nil_or_concat rest with rfl | ⟨front, last, rfl⟩
  · by_cases empty : PosixPath.meaningful guard.sandboxRoot = []
    · left
      rw [empty]
      exact List.nil_prefix
    · exact .inr ⟨List.append_nil _, empty⟩
  · left
    rw [List.concat_eq_append, ← List.append_assoc, List.dropLast_concat]
    exact List.prefix_append _ _

/-- The task writes its result to a file, and the file it names is the root. -/
def WritesRoot
    (guard : PolicyGuard) (opcode : Int) (taskData : List (Text × Json))
    (safePath : Text) : Prop :=
  (opcode = opTaskFilterLines ∨ opcode = opTaskHashAndStore) ∧
    guard.validatePath (Json.get taskData "out_file") = .ok safePath ∧
    NamesRoot guard.sandboxRoot safePath

namespace TaskHandler

/-- The step in which a task writes its result to a file. -/
def writeStep (opcode : Int) (taskData : List (Text × Json)) : Step :=
  { tool := .writeFile
    args := [("path", Json.get taskData "out_file")]
    produces := "write_status"
    consumes :=
      if opcode = opTaskFilterLines then some "filtered_lines"
      else some "hash_result" }

/-- The plan of a task that writes to the root has the write as its third
step, and the steps before write nothing. -/
theorem steps_of_writesRoot
    {opcode : Int} {taskData : List (Text × Json)} {initial : TaskContext}
    {plan : Plan} {safePath : Text}
    (planned : Planner.buildPlan host opcode taskData initial = .ok plan)
    (writes : WritesRoot guard opcode taskData safePath) :
    plan.steps =
        plan.steps.take 2 ++ writeStep opcode taskData :: plan.steps.drop 3 ∧
      ∀ step ∈ plan.steps.take 2,
        step.tool ≠ .writeFile ∧ step.tool ≠ .writeArtifact := by
  obtain ⟨_, _, _, steps, extra, templated, _, steps_eq⟩ :=
    Planner.of_buildPlan planned
  have named : (Json.get taskData "out_file").truthy = true := by
    obtain ⟨_, valid, _⟩ := writes
    by_contra unnamed
    rw [Bool.not_eq_true] at unnamed
    simp [PolicyGuard.validatePath, unnamed, valueError] at valid
  rw [steps_eq]
  rcases Planner.of_template templated with
    ⟨search, _⟩ | ⟨filter, rfl⟩ | ⟨hash, rfl⟩
  · rcases writes.1 with opcode | opcode <;> rw [opcode] at search <;>
      exact absurd search (by decide)
  · constructor
    · simp [Planner.templateFilterLines, named, writeStep, filter]
    · cases Planner.modeFor _ <;>
        simp [Planner.templateFilterLines, named, Planner.readStep]
  · have noFilter : opcode ≠ opTaskFilterLines := by
      rw [hash]
      decide
    constructor
    · simp [Planner.templateHashAndStore, writeStep, noFilter]
    · simp [Planner.templateHashAndStore]

/-- A task up to the point where the temporary file for its result has been
created. -/
def beforeWrite
    (host : Host World) (guard : PolicyGuard) (header : AppHeader)
    (taskData : List (Text × Json)) (safePath : Text) :
    Action World (Plan × Context × Value × Text) := do
  let fileSize ← inputSize host guard taskData
  let plan ← Planner.buildPlan host header.opcode taskData
    { clientId := defaultClient
      requestId := Text.ofInt header.requestId
      fileSize }
  let context ← ToolDispatcher.executeSteps host guard (plan.steps.take 2)
    { initial := { plan.initialContext with holdsPlan := true } }
  let input ← ToolDispatcher.stepInput host
    (writeStep header.opcode taskData) context
  host.makedirs (PosixPath.directory safePath)
  let temporary ← host.createTemporary (PosixPath.directory safePath)
  return (plan, context, input, temporary)

/-- The rest of the task. -/
def afterCreation
    (host : Host World) (guard : PolicyGuard) (header : AppHeader)
    (safePath : Text) :
    Plan × Context × Value × Text → Action World (Bytes × Bool)
  | (plan, context, input, temporary) => do
      let content :=
        match input with
        | .lines values => Value.text (Text.join "\n" values)
        | value => value
      ToolDispatcher.finishWrite host safePath temporary
        (ToolDispatcher.writtenBytes host content)
      let context ← ToolDispatcher.executeSteps host guard
        (plan.steps.drop 3) (context.set "write_status" (.text "SUCCESS"))
      let entries ← ToolDispatcher.outcome host guard plan.outputPolicy context
      let result :=
        match context.get? "plan_artifact_path" with
        | none => entries
        | some path =>
            entries ++ [(Text.ofString "plan_artifact_path", path.toJson host)]
      let responseBytes ← ResponseBuilder.buildResponse host header.opcode
        header.requestId .ok (.object result)
      return (responseBytes, plan.sideEffects)

/-- The write of a task is creating the temporary file and what follows. -/
theorem executeStep_writeStep
    {opcode : Int} {taskData : List (Text × Json)} {safePath : Text}
    (valid : guard.validatePath (Json.get taskData "out_file") = .ok safePath)
    (context : Context) :
    ToolDispatcher.executeStep host guard (writeStep opcode taskData) context =
      (do
        let input ← ToolDispatcher.stepInput host (writeStep opcode taskData)
          context
        host.makedirs (PosixPath.directory safePath)
        let temporary ← host.createTemporary (PosixPath.directory safePath)
        ToolDispatcher.finishWrite host safePath temporary
          (ToolDispatcher.writtenBytes host (match input with
            | .lines values => Value.text (Text.join "\n" values)
            | value => value))
        return context.set "write_status" (.text "SUCCESS")) := by
  have given : ToolDispatcher.argument (writeStep opcode taskData).args "path" =
      .ok (Json.get taskData "out_file") := rfl
  unfold ToolDispatcher.executeStep
  refine bind_congr fun input => ?_
  change ToolDispatcher.toolWriteFile host guard _ input >>= _ = _
  unfold ToolDispatcher.toolWriteFile
  rw [given]
  simp only [bind_ok, ToolDispatcher.atomicWrite_eq, valid, bind_assoc,
    pure_bind]
  rfl

theorem performTask_eq_of_writesRoot
    {header : AppHeader} {taskData : List (Text × Json)} {safePath : Text}
    (writes : WritesRoot guard header.opcode taskData safePath) :
    performTask host guard header taskData defaultClient =
      beforeWrite host guard header taskData safePath >>=
        afterCreation host guard header safePath := by
  unfold performTask beforeWrite
  simp only [bind_assoc, pure_bind]
  refine bind_congr fun fileSize => ?_
  cases planned : Planner.buildPlan host header.opcode taskData
      { clientId := defaultClient
        requestId := Text.ofInt header.requestId
        fileSize } with
  | error error => rfl
  | ok plan =>
    have steps_eq := (steps_of_writesRoot planned writes).1
    simp only [bind_ok]
    unfold ToolDispatcher.executePlan
    dsimp only
    conv_lhs => rw [steps_eq]
    rw [ToolDispatcher.executeSteps_append]
    simp only [ToolDispatcher.executeSteps, executeStep_writeStep writes.2.1,
      bind_assoc, pure_bind]
    refine bind_congr fun context => bind_congr fun input =>
      bind_congr fun _ => bind_congr fun temporary => ?_
    unfold afterCreation
    refine bind_congr fun _ => bind_congr fun context =>
      bind_congr fun result => ?_
    cases context.get? "plan_artifact_path" <;> rfl

end TaskHandler

namespace TaskHandler

variable {header : AppHeader} {taskData : List (Text × Json)} {safePath : Text}

/-- Every step of a plan reads a short key. -/
theorem short_of_buildPlan
    (record : PathRecord host) (guard : PolicyGuard) {opcode : Int}
    {initial : TaskContext}
    {plan : Plan}
    (planned : Planner.buildPlan host opcode taskData initial = .ok plan) :
    ∀ step ∈ plan.steps, ∀ key ∈ step.consumes, key.length ≤ 32 := by
  have allowed : ∀ step ∈ plan.steps,
      step.Allowed (record.remembering guard []) :=
    Planner.allowed_of_buildPlan planned (fun _ _ _ => trivial)
      fun _ _ _ _ => trivial
  exact fun step member => (allowed step member).short

/-- A task that is carried out up to the creation of its temporary file has
touched a path that is not inside. -/
theorem beforeWrite_ends
    (record : PathRecord host) (wellFormed : guard.WellFormed)
    (writes : WritesRoot guard header.opcode taskData safePath)
    {world : World} (safe : record.Safe guard.sandboxRoot world) :
    Ends (beforeWrite host guard header taskData safePath) world
      (fun created after =>
        created.2.2.2 ∈ record.touched after ∧
          ¬ StrictlyInside guard.sandboxRoot created.2.2.2 ∧
          (∀ step ∈ created.1.steps, ∀ key ∈ step.consumes,
            key.length ≤ 32) ∧
          created.2.1.Readable guard)
      (fun _ after => record.Safe guard.sandboxRoot after) := by
  have behaves : ∀ {α : Type} {action : Action World α} {returned : α → Prop},
      Behaves (record.confining wellFormed) [] action returned →
      ∀ {world}, record.Safe guard.sandboxRoot world →
      Ends action world
        (fun value after =>
          returned value ∧ record.Safe guard.sandboxRoot after)
        (fun _ after => record.Safe guard.sandboxRoot after) :=
    fun behaves world safe => (behaves world safe).mono
      (fun _ _ ends => ends) fun _ _ ends => ends.2
  unfold beforeWrite
  refine (behaves inputSize_behaves safe).bind ?_
  rintro fileSize sized ⟨_, safe⟩
  refine Ends.bind_lift (fun plan planned => ?_) fun _ _ => safe
  have short := short_of_buildPlan record guard planned
  have reading := (steps_of_writesRoot planned writes).2
  have executes : Behaves (record.confining wellFormed) []
      (ToolDispatcher.executeSteps host guard (plan.steps.take 2)
        { initial := { plan.initialContext with holdsPlan := true } })
      (fun finished => finished.Readable guard ∧ _) :=
    ToolDispatcher.executeSteps_behaves
      (fun step member => .of_reading (short step (List.mem_of_mem_take member))
        (reading step member).1 (reading step member).2)
      (Context.readable_initial _)
  refine (behaves executes safe).bind ?_
  rintro context ready ⟨⟨readable, _⟩, safe⟩
  refine Ends.bind_lift (fun input given => ?_) fun _ _ => safe
  have prepares : Behaves (record.confining wellFormed) []
      (host.makedirs (PosixPath.directory safePath)) (fun _ => True) :=
    Conduct.behaves (PathRecord.Safe.of_makedirs wellFormed writes.2.1)
  refine (behaves prepares safe).bind ?_
  rintro _ prepared ⟨_, safe⟩
  refine Ends.bind ((record.createTemporary _ prepared).mono
    (fun _ _ created => created) fun _ _ failed =>
      safe.of_unchanged failed.1 failed.2) ?_
  rintro _ after ⟨⟨base, named, rfl⟩, touched, _⟩
  refine ⟨touched ▸ Set.mem_insert _ _, ?_, short, readable⟩
  exact PathRecord.not_strictlyInside_temporary wellFormed writes.2.1
    writes.2.2 named

/-- What follows the creation of a temporary file forgets no touched path. -/
theorem afterCreation_behaves
    (record : PathRecord host) (remembered : Text)
    (valid : guard.validatePath (Json.get taskData "out_file") =
      .ok safePath)
    {plan : Plan} {context : Context} {input : Value} {temporary : Text}
    (short : ∀ step ∈ plan.steps, ∀ key ∈ step.consumes, key.length ≤ 32)
    (readable : context.Readable guard) :
    Behaves (record.remembering guard remembered) []
      (afterCreation host guard header safePath
        (plan, context, input, temporary))
      (fun _ => True) := by
  unfold afterCreation
  refine (ToolDispatcher.finishWrite_behaves valid trivial fun _ refused =>
    ToolDispatcher.failure_of_writtenBytes refused).bind fun _ _ => ?_
  have allowed : ∀ step ∈ plan.steps.drop 3,
      step.Allowed (record.remembering guard remembered) := fun step member =>
    ⟨short step (List.mem_of_mem_drop member), fun _ _ _ _ _ => trivial⟩
  have isReadable : Value.Readable guard (.text "SUCCESS") := trivial
  have next := readable.set isReadable "write_status"
  refine (ToolDispatcher.executeSteps_behaves allowed next).bind
    fun finished _ => ?_
  refine (ToolDispatcher.outcome_behaves _ fun _ _ _ _ => trivial).bind
    fun result _ => ?_
  refine Keeps.bind (Keeps.of_lift (fun _ _ => trivial) fun _ refused =>
    failure_of_buildResponse (by simp) refused) fun _ _ => ?_
  exact Keeps.of_pure trivial

/-- The task creates its temporary file next to the root. -/
def CreatesBesideRoot
    (host : Host World) (guard : PolicyGuard) (header : AppHeader)
    (taskData : List (Text × Json)) (world : World) : Prop :=
  ∃ safePath, WritesRoot guard header.opcode taskData safePath ∧
    ∃ created after,
      (beforeWrite host guard header taskData safePath).run world =
        (.ok created, after)

theorem not_confined_of_createsBesideRoot
    (record : PathRecord host) (wellFormed : guard.WellFormed)
    {world : World} (safe : record.Safe guard.sandboxRoot world)
    (creates : CreatesBesideRoot host guard header taskData world) :
    ¬ record.Confined guard.sandboxRoot
      ((performTask host guard header taskData defaultClient).run world).2 := by
  obtain ⟨safePath, writes, ⟨plan, context, input, temporary⟩, between, run⟩ :=
    creates
  have before := beforeWrite_ends record wellFormed writes safe
  rw [Ends.of_run_ok run] at before
  obtain ⟨member, outside, short, readable⟩ := before
  have behaves : Behaves (record.remembering guard temporary) []
      (afterCreation host guard header safePath
        (plan, context, input, temporary)) (fun _ => True) :=
    afterCreation_behaves record temporary writes.2.1 short readable
  rw [performTask_eq_of_writesRoot writes, run_bind, run]
  exact fun confined => outside (confined _ (behaves.run member))

/-- Any other task touches only what is inside. -/
theorem safe_performTask
    (record : PathRecord host) (wellFormed : guard.WellFormed)
    (isTask : header.IsTask)
    {world : World} (safe : record.Safe guard.sandboxRoot world)
    (never : ¬ CreatesBesideRoot host guard header taskData world) :
    record.Safe guard.sandboxRoot
      ((performTask host guard header taskData defaultClient).run world).2 := by
  by_cases writes : ∃ safePath,
      WritesRoot guard header.opcode taskData safePath
  · obtain ⟨safePath, writes⟩ := writes
    have before := beforeWrite_ends record wellFormed writes safe
    rw [performTask_eq_of_writesRoot writes, run_bind]
    cases run : (beforeWrite host guard header taskData safePath).run world with
    | mk result between =>
      cases result with
      | ok created =>
        exact absurd ⟨safePath, writes, created, between, run⟩ never
      | error error =>
        rw [Ends.of_run_error run] at before
        exact before
  · have behaves : Behaves (record.confining wellFormed) []
        (performTask host guard header taskData defaultClient)
        (fun result => Responds host header result.1) := by
      refine performTask_behaves isTask (fun safePath named valid => ?_)
        fun initial client request =>
          artifactsAllowed record wellFormed client request
      rcases wellFormed.directoryInside_or_namesRoot valid with inside | isRoot
      · exact inside
      · exact absurd ⟨safePath, named, valid, isRoot⟩ writes
    exact behaves.run safe

end TaskHandler

/-! ## Requests -/

namespace AgentServer

/-- The call is a task that is not answered from the cache, and creates its
temporary file next to the root. -/
def EscapesRoot
    (host : Host World) (guard : PolicyGuard) (state : AgentState World)
    (call : Call) : Prop :=
  ∃ header taskData, frame? call.data = some header ∧ header.IsTask ∧
    state.cache.answer? (requestKey call.clientId header) call.now.lookup =
      none ∧
    Dispatcher.sharedAnswer? host header (call.data.drop headerSize) call.now
      state.cache = none ∧
    TaskHandler.parseTask host (call.data.drop headerSize) = .ok taskData ∧
    TaskHandler.CreatesBesideRoot host guard header taskData
      state.workspace.world

variable
  {clientId : Text} {header : AppHeader} {payload : Bytes} {now : Readings}
  {state : AgentState World}

/-- A task without an answer in the cache is performed. -/
theorem runHandler_task_world
    {taskData : List (Text × Json)}
    (routed : handlers.lookup header.opcode = some .task)
    (unshared : Dispatcher.sharedAnswer? host header payload now state.cache =
      none)
    (parsed : TaskHandler.parseTask host payload = .ok taskData) :
    ((Dispatcher.runHandler host guard .task header payload none now).run
        state).2.workspace.world =
      ((TaskHandler.performTask host guard header taskData
        TaskHandler.defaultClient).run state.workspace.world).2 := by
  simp only [Dispatcher.sharedAnswer?, routed, if_true,
    TaskHandler.sharedAnswer?, parsed] at unshared
  rw [Dispatcher.runHandler_task,
    TaskHandler.handleTask_of_parsed host guard parsed unshared]
  unfold TaskHandler.performAndStore
  simp only [ExceptT.run, ExceptT.mk]
  generalize TaskHandler.performTask host guard header taskData
    TaskHandler.defaultClient state.workspace.world = performed
  obtain ⟨error | ⟨envelope, sideEffects⟩, world⟩ := performed <;> rfl

/-- A request that is not a task, or whose payload is not, touches only what is
inside. -/
theorem safe_runHandler
    (record : PathRecord host) (wellFormed : guard.WellFormed)
    {handler : Handler} (routed : handlers.lookup header.opcode = some handler)
    (safe : record.Safe guard.sandboxRoot state.workspace.world)
    (unshared : Dispatcher.sharedAnswer? host header payload now state.cache =
      none)
    (noTask : handler ≠ .task ∨
      ∀ taskData, TaskHandler.parseTask host payload ≠ .ok taskData) :
    record.Safe guard.sandboxRoot
      ((Dispatcher.runHandler host guard handler header payload none now).run
        state).2.workspace.world := by
  have allowed : TaskWritesAllowed (record.confining wellFormed) header
      payload := by
    constructor
    · intro taskData parsed safePath opcode valid
      rcases noTask with other | unparsed
      · rcases opcode with opcode | opcode <;> rw [opcode] at routed <;>
          cases routed <;> exact absurd rfl other
      · exact absurd parsed (unparsed taskData)
    · exact fun initial client request =>
        artifactsAllowed record wellFormed client request
  have ends := Dispatcher.runHandler_ends routed safe unshared allowed
  unfold Ends at ends
  generalize (Dispatcher.runHandler host guard handler header payload none
    now).run state = result at ends
  obtain ⟨error | value, after⟩ := result <;> exact ends.2

/-- A task that has no shared answer has none when its handler looks. -/
theorem sharedAnswer?_called
    {call : Call} {header : AppHeader}
    (shared : Dispatcher.sharedAnswer? host header
      (call.data.drop headerSize) call.now state.cache = none) :
    Dispatcher.sharedAnswer? host header (call.data.drop headerSize) call.now
      (Dispatcher.called .task header (call.data.drop headerSize)
        (ownLookedUp call.clientId header call.now state)).cache = none := by
  have shared_eq := sharedAnswer?_ownLookedUp host call.clientId header
    (call.data.drop headerSize) call.now state
  rw [shared] at shared_eq
  exact shared_eq

theorem serve_safe
    (record : PathRecord host) (wellFormed : guard.WellFormed)
    {call : Call} (safe : record.Safe guard.sandboxRoot state.workspace.world)
    (never : ¬ EscapesRoot host guard state call) :
    record.Safe guard.sandboxRoot
      (serve host guard state call).2.workspace.world := by
  apply serve_keeps host guard
    fun state => record.Safe guard.sandboxRoot state.workspace.world
  · exact safe
  intro header framed own
  have shared_eq := sharedAnswer?_ownLookedUp host call.clientId header
    (call.data.drop headerSize) call.now state
  cases shared : Dispatcher.sharedAnswer? host header
      (call.data.drop headerSize) call.now state.cache with
  | some response =>
    rw [shared] at shared_eq
    rwa [serve_of_unanswered host guard framed own, carryOut_workspace,
      Dispatcher.dispatch_of_sharedAnswer? host guard shared_eq]
  | none =>
  rw [shared] at shared_eq
  cases routed : handlers.lookup header.opcode with
  | none =>
    rwa [serve_of_unanswered host guard framed own, carryOut_workspace,
      Dispatcher.dispatch_run_unknown host guard routed]
  | some handler =>
  rw [serve_workspace framed own routed]
  by_cases noTask : handler ≠ .task ∨ ∀ taskData,
      TaskHandler.parseTask host (call.data.drop headerSize) ≠ .ok taskData
  · exact safe_runHandler record wellFormed routed safe shared_eq noTask
  · simp only [not_or, not_not, not_forall] at noTask
    obtain ⟨rfl, taskData, parsed⟩ := noTask
    have isTask := header.isTask_iff.mpr routed
    rw [runHandler_task_world routed (sharedAnswer?_called shared) parsed]
    exact TaskHandler.safe_performTask record wellFormed isTask safe
      fun creates => never
        ⟨header, taskData, framed, isTask, own, shared, parsed, creates⟩

theorem not_confined_of_escapesRoot
    (record : PathRecord host) (wellFormed : guard.WellFormed)
    {call : Call} (safe : record.Safe guard.sandboxRoot state.workspace.world)
    (escapes : EscapesRoot host guard state call) :
    ¬ record.Confined guard.sandboxRoot
      (serve host guard state call).2.workspace.world := by
  obtain ⟨header, taskData, framed, isTask, own, shared, parsed, creates⟩ :=
    escapes
  have routed := header.isTask_iff.mp isTask
  rw [serve_workspace framed own routed,
    runHandler_task_world routed (sharedAnswer?_called shared) parsed]
  exact TaskHandler.not_confined_of_createsBesideRoot record wellFormed safe
    creates

/-- A request touches only paths strictly inside the sandbox root, unless it is
a task that creates its temporary file next to the root.  The files, the upload
sessions and the cache before the request are arbitrary; the root and the
directories above it are there. -/
theorem serve_confined_iff
    (record : PathRecord host) (wellFormed : guard.WellFormed)
    (state : AgentState World) (call : Call)
    (present : record.RootPresent guard.sandboxRoot state.workspace.world)
    (confined : record.Confined guard.sandboxRoot state.workspace.world) :
    record.Confined guard.sandboxRoot
        (serve host guard state call).2.workspace.world ↔
      ¬ EscapesRoot host guard state call := by
  constructor
  · exact fun confinedAfter escapes =>
      not_confined_of_escapesRoot record wellFormed ⟨present, confined⟩
        escapes confinedAfter
  · exact fun never =>
      (serve_safe record wellFormed ⟨present, confined⟩ never).confined

/-- A request to filter the file of the sample into the root itself. -/
def filterIntoRoot : Call :=
  ⟨"10.0.0.1:5000",
    Sample.message opTaskFilterLines 1
      (Sample.recordingHost.dumpBytes (Sample.filterData ".")),
    Sample.instant 0⟩

/-- The equivalence holds of that request. -/
theorem serve_confined_iff_filterIntoRoot :
    Sample.recordedPaths.Confined Sample.policyGuard.sandboxRoot
        (serve Sample.recordingHost Sample.policyGuard (new Sample.disk)
          filterIntoRoot).2.workspace.world ↔
      ¬ EscapesRoot Sample.recordingHost Sample.policyGuard (new Sample.disk)
        filterIntoRoot :=
  serve_confined_iff Sample.recordedPaths Sample.policyGuard_wellFormed
    (new Sample.disk) filterIntoRoot (Sample.rootPresent _)
    fun _ member => absurd member List.not_mem_nil

theorem filterIntoRoot_touched :
    (serve Sample.recordingHost Sample.policyGuard (new Sample.disk)
      filterIntoRoot).2.workspace.world.log.contains
        (Text.ofString "/tmp") = true := by
  decide +kernel

/-- The task of the sample creates the temporary file `/tmp` next to the root
`/sandbox`. -/
theorem serve_not_confined_filterIntoRoot :
    Sample.recordedPaths.RootPresent Sample.policyGuard.sandboxRoot
        Sample.disk ∧
      Sample.recordedPaths.Confined Sample.policyGuard.sandboxRoot
        Sample.disk ∧
      ¬ Sample.recordedPaths.Confined Sample.policyGuard.sandboxRoot
        (serve Sample.recordingHost Sample.policyGuard (new Sample.disk)
          filterIntoRoot).2.workspace.world := by
  refine ⟨Sample.rootPresent _, fun _ member => absurd member List.not_mem_nil,
    fun confined => ?_⟩
  have touched := List.contains_iff_mem.mp filterIntoRoot_touched
  obtain ⟨_, _, below, _⟩ := confined _ touched
  rw [← List.isPrefixOf_iff_prefix] at below
  revert below
  decide +kernel

/-- Run lemma: while no request escapes, everything touched lies strictly
inside. -/
theorem run_safe
    (record : PathRecord host) (wellFormed : guard.WellFormed)
    (calls : List Call) {start : AgentState World}
    (safe : record.Safe guard.sandboxRoot start.workspace.world)
    (never : ∀ before call, before ++ [call] <+: calls →
      ¬ EscapesRoot host guard (run host guard start before) call) :
    record.Safe guard.sandboxRoot
      (run host guard start calls).workspace.world := by
  have throughout : ∀ earlier, earlier <+: calls →
      record.Safe guard.sandboxRoot
        (run host guard start earlier).workspace.world := by
    apply throughout_run
    · exact safe
    · intro earlier call isPrefix before
      rw [run_append_singleton]
      exact serve_safe record wellFormed before (never earlier call isPrefix)
  exact throughout calls List.prefix_rfl

end AgentServer

end RudpAgentStack

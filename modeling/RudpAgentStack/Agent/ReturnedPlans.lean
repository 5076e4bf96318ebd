import RudpAgentStack.Agent.TaskResults

/-!
# Plans that are asked for

A task can be asked for its plan, which its last step writes.  The step raises,
because the module it is in does not import the `asdict` it uses: the task is
not answered, though all its other steps have run.
-/

namespace RudpAgentStack

open Foundation

variable {World : Type} {host : Host World} {guard : PolicyGuard}

namespace Planner

/-- `options.return_plan` is true. -/
def asksForPlan (payload : List (Text × Json)) : Bool :=
  match Json.get? payload "options" with
  | some (.object options) => (Json.get options "return_plan").truthy
  | _ => false

/-- The step that writes the plan. -/
def planStep (context : TaskContext) : Step where
  tool := .writeArtifact
  args :=
    [("path", .string (makeArtifactPath context "plan.json")),
      ("content_key", .string "__PLAN_JSON__")]
  produces := "plan_artifact_path"

/-- The plan is written exactly if it is asked for. -/
theorem planSteps_eq
    {payload : List (Text × Json)} {context : TaskContext} {extra : List Step}
    (planned : planSteps payload context = .ok extra) :
    extra = if asksForPlan payload then [planStep context] else [] := by
  unfold planSteps at planned
  unfold asksForPlan
  cases found : Json.get? payload "options" with
  | none =>
      rw [found] at planned
      cases planned
      rfl
  | some options =>
      rw [found, Option.getD_some] at planned
      cases options <;> try cases planned
      next options =>
        dsimp only at planned ⊢
        split at planned
        · next asks =>
            cases planned
            rw [if_pos asks]
            rfl
        · next asks =>
            cases planned
            rw [if_neg asks]

end Planner

namespace ToolDispatcher

/-- The error of the step that writes the plan. -/
def planError : PyError := ⟨.nameError, "name 'asdict' is not defined"⟩

/-- The step that writes the plan raises before it writes anything. -/
theorem executeSteps_planStep_run
    {context : Context} (holdsPlan : context.initial.holdsPlan = true)
    (task : TaskContext) (world : World) :
    (executeSteps host guard [Planner.planStep task] context).run world =
      (.error planError, world) := by
  have raises : artifactContent (.string "__PLAN_JSON__") .none context =
      .error planError := by
    simp only [artifactContent, holdsPlan, if_true]
    rfl
  have written : (toolWriteArtifact host guard (Planner.planStep task).args
      .none context).run world = (.error planError, world) := by
    have path : argument (Planner.planStep task).args "path" =
        .ok (.string (Planner.makeArtifactPath task "plan.json")) := rfl
    have contentKey : Json.get (Planner.planStep task).args "content_key" =
        .string "__PLAN_JSON__" := rfl
    unfold toolWriteArtifact
    simp only [path, contentKey, raises, Action.run_bind, Action.run_liftM]
  have given : stepInput host (Planner.planStep task) context = .ok .none := rfl
  have run : runTool host guard (Planner.planStep task) .none context =
      toolWriteArtifact host guard (Planner.planStep task).args .none
        context := rfl
  unfold executeSteps executeStep
  simp only [given, run, written, Action.run_bind, Action.run_liftM]

/-- A plan that is asked for is executed up to the step that writes it, which
raises. -/
theorem executePlan_run_of_asks
    (guard : PolicyGuard) {opcode : Int} {payload : List (Text × Json)}
    {context : TaskContext}
    {plan : Plan} (asks : Planner.asksForPlan payload = true)
    (planned : Planner.buildPlan host opcode payload context = .ok plan) :
    ∃ steps, plan.steps = steps ++ [Planner.planStep context] ∧
      ∀ world, (executePlan host guard { plan with
          initialContext := { plan.initialContext with holdsPlan := true } }).run
            world =
        match (executeSteps host guard steps
            { initial := { context with holdsPlan := true } }).run world with
        | (.ok _, after) => (.error planError, after)
        | (.error error, after) => (.error error, after) := by
  obtain ⟨_, _, initial, steps, extra, _, extraSteps, steps_eq⟩ :=
    Planner.of_buildPlan planned
  have extra_eq := Planner.planSteps_eq extraSteps
  rw [if_pos asks] at extra_eq
  subst extra_eq
  refine ⟨steps, steps_eq, fun world => ?_⟩
  unfold executePlan
  rw [run_bind, steps_eq, executeSteps_append, run_bind, initial]
  rcases executed : (executeSteps host guard steps
      { initial := { context with holdsPlan := true } }).run world with
    ⟨error | finished, after⟩
  · rfl
  · have holdsPlan : finished.initial.holdsPlan = true := by
      rw [initial_of_executeSteps executed]
    dsimp only
    rw [executeSteps_planStep_run holdsPlan]

end ToolDispatcher

/-! ## Delivering plans -/

/-- A JSON object describes a plan. -/
structure DescribesPlan (plan : Plan) (description : List (Text × Json)) :
    Prop where
  planId : Json.get? description "plan_id" = some (.string plan.planId)
  steps : ∃ steps, Json.get? description "steps" = some (.array steps) ∧
    steps.length = plan.steps.length
  executionMode : Json.get? description "execution_mode" =
    some (.string plan.executionMode.names.2)
  outputPolicy : Json.get? description "output_policy" =
    some (.string plan.outputPolicy.names.2)

/-- The file of a path is JSON that describes the plan. -/
def HoldsPlan
    (files : FileSystem host) (guard : PolicyGuard) (plan : Plan)
    (path : Text) (world : World) : Prop :=
  ∃ safePath bytes description,
    guard.validatePath (.string path) = .ok safePath ∧
    files.content world safePath = some bytes ∧
    host.loadBytes bytes = .ok (.object description) ∧
    DescribesPlan plan description

/-- The task data without the request for the plan. -/
def withoutPlan (taskData : List (Text × Json)) : List (Text × Json) :=
  taskData.map fun (key, value) =>
    match value with
    | .object options =>
        if key = Text.ofString "options" then
          (key, .object (options.filter fun option =>
            option.1 ≠ Text.ofString "return_plan"))
        else (key, value)
    | _ => (key, value)

namespace TaskHandler

variable
  {header : AppHeader} {payload : Bytes} {taskData : List (Text × Json)}
  {clientAddress : Option (Text × Int)} {now : Readings}
  {world after : World} {cache : IdempotencyCache}

/-- The answer to a task has the path of a file that describes the plan, and is
otherwise the answer to the task that is not asked for its plan. -/
def DeliversPlan
    (files : FileSystem host) (guard : PolicyGuard) (header : AppHeader)
    (payload : Bytes) (taskData : List (Text × Json))
    (clientAddress : Option (Text × Int)) (now : Readings) (world : World)
    (cache : IdempotencyCache) : Prop :=
  ∃ plan between result path response after left plain,
    (plannedTask host guard header taskData (taskClient clientAddress)).run
      world = (.ok plan, between) ∧
    (handleTask host guard header payload clientAddress now).run
      (world, cache) = (.ok response, after, left) ∧
    ResponseBuilder.buildResponse host header.opcode header.requestId .ok
      (.object (result ++
        [(Text.ofString "plan_artifact_path", .string path)])) =
      .ok response ∧
    HoldsPlan files guard plan path after ∧
    (taskResult host guard header (withoutPlan taskData)
      (taskClient clientAddress)).run world = (.ok (.object result), plain)

/-- The steps of a task run, except for the one that writes its plan. -/
def OtherStepsRun
    (host : Host World) (guard : PolicyGuard) (header : AppHeader)
    (taskData : List (Text × Json)) (clientId : Text) (world after : World) :
    Prop :=
  ∃ plan between steps finished,
    (plannedTask host guard header taskData clientId).run world =
      (.ok plan, between) ∧
    plan.steps = steps ++ [Planner.planStep plan.initialContext] ∧
    (ToolDispatcher.executeSteps host guard steps
      { initial := { plan.initialContext with holdsPlan := true } }).run
        between = (.ok finished, after)

/-- A task that is asked for its plan raises when its other steps have run. -/
theorem performTask_of_otherSteps
    {clientId : Text} (asks : Planner.asksForPlan taskData = true)
    (others : OtherStepsRun host guard header taskData clientId world after) :
    (performTask host guard header taskData clientId).run world =
      (.error ToolDispatcher.planError, after) := by
  obtain ⟨plan, between, steps, finished, planned, steps_eq, executed⟩ := others
  obtain ⟨fileSize, _, _, lifted⟩ := run_bind_eq_ok_iff.mp planned
  have built := (run_lift_eq_ok_iff.mp lifted).1
  have initial := (Planner.of_buildPlan built).2.2.1
  obtain ⟨steps', steps_eq', execution⟩ :=
    ToolDispatcher.executePlan_run_of_asks guard asks built
  rw [steps_eq, initial] at steps_eq'
  have same := List.append_cancel_right steps_eq'
  subst same
  rw [initial] at executed
  rw [performTask_eq, run_bind, planned]
  dsimp only
  rw [run_bind, execution between, executed]

theorem handleTask_of_otherSteps
    (parsed : parseTask host payload = .ok taskData)
    (asks : Planner.asksForPlan taskData = true)
    (notCached : (cache.getResponse (taskClient clientAddress) header.requestId
      header.opcode now.taskLookup).1 = none)
    (others : OtherStepsRun host guard header taskData
      (taskClient clientAddress) world after) :
    ∃ left, (handleTask host guard header payload clientAddress now).run
      (world, cache) = (.error ToolDispatcher.planError, after, left) := by
  have raises := performTask_of_otherSteps asks others
  unfold handleTask
  simp only [ExceptT.run, ExceptT.mk, parsed]
  rcases looked : cache.getResponse (taskClient clientAddress)
      header.requestId header.opcode now.taskLookup with ⟨cached, left⟩
  rw [looked] at notCached
  obtain rfl : cached = none := notCached
  refine ⟨left, ?_⟩
  simp only [performAndStore, ExceptT.mk]
  rw [raises]

theorem DeliversPlan.not_of_raised
    {files : FileSystem host} {error : PyError}
    {left : World × IdempotencyCache}
    (raised : (handleTask host guard header payload clientAddress now).run
      (world, cache) = (.error error, left)) :
    ¬ DeliversPlan files guard header payload taskData clientAddress now world
      cache := by
  rintro ⟨_, _, _, _, _, _, _, _, _, answered, _⟩
  rw [raised] at answered
  cases answered

/-- A task whose other steps have run raises when it is asked for its plan, and
so never delivers it. -/
theorem return_plan_not_delivered
    (files : FileSystem host)
    (parsed : parseTask host payload = .ok taskData)
    (asks : Planner.asksForPlan taskData = true)
    (notCached : (cache.getResponse (taskClient clientAddress) header.requestId
      header.opcode now.taskLookup).1 = none)
    (others : OtherStepsRun host guard header taskData
      (taskClient clientAddress) world after) :
    ¬ DeliversPlan files guard header payload taskData clientAddress now world
      cache ∧
    ∃ left, (handleTask host guard header payload clientAddress now).run
      (world, cache) = (.error ToolDispatcher.planError, after, left) := by
  obtain ⟨left, raises⟩ :=
    handleTask_of_otherSteps parsed asks notCached others
  exact ⟨DeliversPlan.not_of_raised raises, left, raises⟩

end TaskHandler

/-! ## A search that is asked for its plan -/

namespace Sample

/-- The data of the search, with the request for its plan. -/
def plannedData : List (Text × Json) :=
  linesData ++
    [(Text.ofString "options",
      .object [(Text.ofString "return_plan", .bool true)])]

/-- A host that reads these data. -/
def planHost : Host MemoryHost.Files :=
  memoryHost [((Json.object plannedData).write false, .object plannedData)] []

/-- The payload of the request. -/
def plannedPayload : Bytes :=
  ((Json.object plannedData).write false).flatMap Text.encodePoint

/-- The context of the task. -/
def planContext : TaskContext where
  clientId := TaskHandler.defaultClient
  requestId := Text.ofInt 1

theorem otherStepsRun_plannedData :
    TaskHandler.OtherStepsRun planHost policyGuard
      TaskHandler.Sample.searchHeader plannedData TaskHandler.defaultClient
      files files := by
  have planned : ∃ plan, (TaskHandler.plannedTask planHost policyGuard
      TaskHandler.Sample.searchHeader plannedData
      TaskHandler.defaultClient).run files = (.ok plan, files) ∧
      plan.initialContext = planContext ∧
      plan.steps = Planner.templateSearchReport plannedData .memory ++
        [Planner.planStep planContext] := ⟨_, rfl, rfl, rfl⟩
  have executed : ∃ finished, (ToolDispatcher.executeSteps planHost policyGuard
      (Planner.templateSearchReport plannedData .memory)
      { initial := { planContext with holdsPlan := true } }).run files =
        (.ok finished, files) := ⟨_, rfl⟩
  obtain ⟨plan, planned, initial, steps⟩ := planned
  obtain ⟨finished, executed⟩ := executed
  refine ⟨plan, files, Planner.templateSearchReport plannedData .memory,
    finished, planned, ?_, ?_⟩
  · rw [initial]
    exact steps
  · rw [initial]
    exact executed

/-- A search that is asked for its plan, answered from an empty cache. -/
theorem return_plan_not_delivered_search :
    ¬ TaskHandler.DeliversPlan (memoryFiles _ _ : FileSystem planHost)
      policyGuard TaskHandler.Sample.searchHeader plannedPayload plannedData
      none (instant 0) files .empty ∧
    ∃ left, (TaskHandler.handleTask planHost policyGuard
        TaskHandler.Sample.searchHeader plannedPayload none (instant 0)).run
      (files, .empty) = (.error ToolDispatcher.planError, files, left) :=
  TaskHandler.return_plan_not_delivered (memoryFiles _ _) rfl rfl rfl
    otherStepsRun_plannedData

/-- All other steps of the search run, but it delivers no plan. -/
theorem search_without_plan :
    TaskHandler.OtherStepsRun planHost policyGuard
      TaskHandler.Sample.searchHeader plannedData TaskHandler.defaultClient
      files files ∧
    ¬ TaskHandler.DeliversPlan (memoryFiles _ _ : FileSystem planHost)
      policyGuard TaskHandler.Sample.searchHeader plannedPayload plannedData
      none (instant 0) files .empty := by
  refine ⟨otherStepsRun_plannedData, ?_⟩
  obtain ⟨left, raises⟩ : ∃ left, (TaskHandler.handleTask planHost policyGuard
      TaskHandler.Sample.searchHeader plannedPayload none (instant 0)).run
        (files, .empty) = (.error ToolDispatcher.planError, files, left) :=
    TaskHandler.handleTask_of_otherSteps rfl rfl rfl otherStepsRun_plannedData
  exact TaskHandler.DeliversPlan.not_of_raised raises

end Sample

end RudpAgentStack

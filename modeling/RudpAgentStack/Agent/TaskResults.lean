import RudpAgentStack.Agent.ClientIsolation
import RudpAgentStack.Agent.SearchModes

/-!
# The results of tasks

What a task returns before it is put into a response.  An artifact the
dispatcher writes on its own is named after the client and the request of the
task's context.
-/

namespace RudpAgentStack

open Foundation

variable {World : Type} {host : Host World} {guard : PolicyGuard}

namespace ToolDispatcher

/-- The steps of a plan leave what the context started from. -/
theorem initial_of_executeSteps
    {steps : List Step} {context finished : Context} {world after : World}
    (executed : (executeSteps host guard steps context).run world =
      (.ok finished, after)) :
    finished.initial = context.initial := by
  induction steps generalizing context world with
  | nil =>
      cases executed
      rfl
  | cons step steps inductionHypothesis =>
      rw [executeSteps, run_bind_eq_ok_iff] at executed
      obtain ⟨between, middle, first, rest⟩ := executed
      obtain ⟨_, output, _, _, rfl⟩ := executeStep_eq_ok_iff.mp first
      rw [inductionHypothesis rest]
      rfl

/-- A fallback artifact that was written has the name made for the context,
and this name is valid. -/
theorem of_writeFallbackArtifact
    {content : Bytes} {context : Context} {path : Text} {world after : World}
    (written : (writeFallbackArtifact host guard content context).run world =
      (.ok path, after)) :
    path = Planner.makeArtifactPath context.initial "result.txt" ∧
      ∃ safePath, guard.validatePath (.string path) = .ok safePath := by
  unfold writeFallbackArtifact at written
  obtain ⟨_, between, wrote, returned⟩ := run_bind_eq_ok_iff.mp written
  obtain ⟨rfl, _⟩ := run_pure_eq_ok_iff.mp returned
  unfold atomicWrite at wrote
  obtain ⟨safePath, _, valid, _⟩ := run_bind_eq_ok_iff.mp wrote
  exact ⟨fallbackPath_eq context, safePath, (run_lift_eq_ok_iff.mp valid).1⟩

/-- Under the policy of all plans, an artifact in the result is a fallback
artifact. -/
theorem artifact_of_outcome
    {context : Context} {entries : List (Text × Json)} {value : Json}
    {world after : World}
    (ended : (outcome host guard .dynamic context).run world =
      (.ok entries, after))
    (found : Json.get? entries "artifact_path" = some value) :
    ∃ content path,
      (writeFallbackArtifact host guard content context).run world =
        (.ok path, after) ∧ value = .string path := by
  unfold outcome at ended
  split at ended
  · cases ended
    cases found
  · split at ended
    · cases ended
      cases found
    · obtain ⟨encoded, _, given, ended⟩ := run_bind_eq_ok_iff.mp ended
      obtain ⟨_, rfl⟩ := run_lift_eq_ok_iff.mp given
      dsimp only at ended
      split at ended
      · cases ended
        cases found
      · obtain ⟨path, _, written, returned⟩ := run_bind_eq_ok_iff.mp ended
        obtain ⟨rfl, rfl⟩ := run_pure_eq_ok_iff.mp returned
        exact ⟨encoded, path, written, (Option.some.inj found).symm⟩

/-- An artifact in the result of a plan is named after the context the plan
starts from. -/
theorem artifact_of_executePlan
    {plan : Plan} (policy : plan.outputPolicy = .dynamic)
    {entries : List (Text × Json)} {value : Json} {world after : World}
    (executed : (executePlan host guard plan).run world =
      (.ok (.object entries), after))
    (found : Json.get? entries "artifact_path" = some value) :
    value = .string (Planner.makeArtifactPath plan.initialContext
        "result.txt") ∧
      ∃ safePath, guard.validatePath value = .ok safePath := by
  unfold executePlan at executed
  obtain ⟨finished, between, steps, rest⟩ := run_bind_eq_ok_iff.mp executed
  obtain ⟨result, _, ended, returned⟩ := run_bind_eq_ok_iff.mp rest
  have inResult : Json.get? result "artifact_path" = some value := by
    split at returned
    · cases returned
      exact found
    · cases returned
      unfold Json.get? at found ⊢
      rw [List.lookup_append] at found
      cases earlier : List.lookup (Text.ofString "artifact_path") result with
      | none =>
          rw [earlier] at found
          revert found
          rw [Option.none_or, List.lookup_cons]
          rw [show (Text.ofString "artifact_path" ==
            Text.ofString "plan_artifact_path") = false by decide]
          exact nofun
      | some earlierValue =>
          rw [earlier, Option.some_or] at found
          exact found
  rw [policy] at ended
  obtain ⟨content, path, written, rfl⟩ := artifact_of_outcome ended inResult
  obtain ⟨rfl, valid⟩ := of_writeFallbackArtifact written
  rw [initial_of_executeSteps steps] at valid ⊢
  exact ⟨rfl, valid⟩

end ToolDispatcher

/-! ## Final outputs -/

namespace ToolDispatcher

/-- The step that writes the plan raises. -/
theorem not_executed_writePlan
    {path : Json} {produces : Text} {context finished : Context}
    {world after : World} (holdsPlan : context.initial.holdsPlan = true) :
    (executeStep host guard
      { tool := .writeArtifact
        args := [("path", path), ("content_key", .string "__PLAN_JSON__")]
        produces := produces } context).run world ≠ (.ok finished, after) := by
  intro executed
  obtain ⟨input, output, _, run, _⟩ := executeStep_eq_ok_iff.mp executed
  obtain ⟨_, _, _, rest⟩ := run_bind_eq_ok_iff.mp run
  obtain ⟨_, _, content, _⟩ := run_bind_eq_ok_iff.mp rest
  have raises : artifactContent (.string "__PLAN_JSON__") input context =
      .error ⟨.nameError, "name 'asdict' is not defined"⟩ := by
    simp only [artifactContent, holdsPlan, if_true]
  cases raises.symm.trans (run_lift_eq_ok_iff.mp content).1

/-- A task that runs to its end was not asked for its plan. -/
theorem template_of_executeSteps
    {opcode : Int} {payload : List (Text × Json)} {context : TaskContext}
    {plan : Plan} {finished : Context} {world after : World}
    (planned : Planner.buildPlan host opcode payload context = .ok plan)
    (executed : (executeSteps host guard plan.steps
      { initial := { plan.initialContext with holdsPlan := true } }).run
        world = (.ok finished, after)) :
    Planner.template host opcode payload (Planner.modeFor context) =
      .ok (plan.explanation, plan.steps, plan.sideEffects) := by
  obtain ⟨_, _, _, steps, extra, templated, extraSteps, steps_eq⟩ :=
    Planner.of_buildPlan planned
  rw [steps_eq] at executed
  unfold Planner.planSteps at extraSteps
  split at extraSteps
  · split at extraSteps
    · cases extraSteps
      rw [executeSteps_append, run_bind_eq_ok_iff] at executed
      obtain ⟨reached, between, before, last⟩ := executed
      obtain ⟨_, _, written, _⟩ := run_bind_eq_ok_iff.mp last
      refine absurd written (not_executed_writePlan ?_)
      rw [initial_of_executeSteps before]
    · cases extraSteps
      rwa [steps_eq, List.append_nil]
  · cases extraSteps

end ToolDispatcher

namespace TaskHandler

/-- The result of a task. -/
def taskResult
    (host : Host World) (guard : PolicyGuard) (header : AppHeader)
    (taskData : List (Text × Json)) (clientId : Text) : Action World Json := do
  let plan ← plannedTask host guard header taskData clientId
  let plan := { plan with
    initialContext := { plan.initialContext with holdsPlan := true } }
  ToolDispatcher.executePlan host guard plan

variable {header : AppHeader} {taskData : List (Text × Json)}
  {clientId : Text} {world after : World} {response : Bytes}

/-- The steps of the task run and leave this text as the final output. -/
def Finishes
    (host : Host World) (guard : PolicyGuard) (header : AppHeader)
    (taskData : List (Text × Json)) (clientId : Text) (world : World)
    (output : Text) (finished : Context) (after : World) : Prop :=
  ∃ plan between,
    (plannedTask host guard header taskData clientId).run world =
      (.ok plan, between) ∧
    (ToolDispatcher.executeSteps host guard plan.steps
      { initial := { plan.initialContext with holdsPlan := true } }).run
        between = (.ok finished, after) ∧
    finished.get? "final_output" = some (.text output)

/-- A search that finishes returns its report, inline or as an artifact. -/
theorem Finishes.taskResult_run
    {output : Text} {finished : Context}
    (finishes : Finishes host guard header taskData clientId world output
      finished after)
    (search : header.opcode = opTaskSearchReport) (nonempty : output ≠ []) :
    (taskResult host guard header taskData clientId).run world =
      (do
        let encoded ← host.encode output
        if encoded.length ≤ inlineLimit then
          return .object [(Text.ofString "output", .string output)]
        let path ← ToolDispatcher.writeFallbackArtifact host guard encoded
          finished
        return .object [(Text.ofString "artifact_path", .string path)] :
          Action World Json).run after := by
  obtain ⟨plan, between, planned, executed, found⟩ := finishes
  obtain ⟨fileSize, _, _, lifted⟩ := run_bind_eq_ok_iff.mp planned
  have built := (run_lift_eq_ok_iff.mp lifted).1
  have policy := (Planner.of_buildPlan built).2.1
  have noPlan : finished.get? "plan_artifact_path" = none := by
    have templated := ToolDispatcher.template_of_executeSteps built executed
    rcases Planner.of_template templated with
      ⟨_, steps⟩ | ⟨filter, _⟩ | ⟨hash, _⟩
    · rw [ToolDispatcher.get?_of_executeSteps executed]
      · rfl
      · rw [steps]
        cases Planner.modeFor _ <;>
          simp [Planner.templateSearchReport, Planner.readStep] <;> decide
    · exact absurd (search.symm.trans filter) (by decide)
    · exact absurd (search.symm.trans hash) (by decide)
  have isTruthy : (Value.text output).truthy = true := by
    simpa [Value.truthy] using nonempty
  unfold taskResult
  rw [run_bind, planned]
  dsimp only
  rw [ToolDispatcher.executePlan_run executed noPlan]
  simp only [policy, ToolDispatcher.outcome, found, isTruthy,
    Bool.true_eq_false, if_false, bind_assoc]
  have encoding : host.encode ((Value.text output).str host) =
      host.encode output := rfl
  rw [run_bind, run_bind, encoding]
  cases host.encode output with
  | error error => rfl
  | ok encoded =>
      dsimp only [Action.run_liftM]
      by_cases short : encoded.length ≤ inlineLimit
      · simp only [if_pos short]
        rfl
      · simp only [if_neg short, bind_assoc, pure_bind]

/-- A task that is performed returns the response built from its result. -/
theorem performTask_eq_ok_iff :
    (∃ sideEffects,
      (performTask host guard header taskData clientId).run world =
        (.ok (response, sideEffects), after)) ↔
      ∃ result, (taskResult host guard header taskData clientId).run world =
          (.ok result, after) ∧
        ResponseBuilder.buildResponse host header.opcode header.requestId .ok
          result = .ok response := by
  rw [performTask_eq]
  simp only [taskResult, run_bind_eq_ok_iff, run_lift_eq_ok_iff,
    run_pure_eq_ok_iff, Prod.mk.injEq]
  constructor
  · rintro ⟨_, plan, _, planned, result, _, executed, _, _, ⟨built, rfl⟩,
      ⟨rfl, _⟩, rfl⟩
    exact ⟨result, ⟨plan, _, planned, executed⟩, built⟩
  · rintro ⟨result, ⟨plan, _, planned, executed⟩, built⟩
    exact ⟨plan.sideEffects, plan, _, planned, result, after, executed,
      response, after, ⟨built, rfl⟩, ⟨rfl, rfl⟩, rfl⟩

/-- A search has no side effects. -/
theorem sideEffects_of_search
    {sideEffects : Bool} (search : header.opcode = opTaskSearchReport)
    (performed :
      (performTask host guard header taskData clientId).run world =
        (.ok (response, sideEffects), after)) :
    sideEffects = false := by
  rw [performTask_eq] at performed
  simp only [run_bind_eq_ok_iff, run_lift_eq_ok_iff, run_pure_eq_ok_iff,
    Prod.mk.injEq] at performed
  obtain ⟨plan, _, planned, _, _, _, _, _, _, ⟨_, rfl⟩, _⟩ := performed
  obtain ⟨_, _, _, lifted⟩ := run_bind_eq_ok_iff.mp planned
  obtain ⟨_, _, _, steps, _, templated, _⟩ :=
    Planner.of_buildPlan (run_lift_eq_ok_iff.mp lifted).1
  rw [search, Planner.template, if_pos rfl, Except.ok.injEq, Prod.mk.injEq,
    Prod.mk.injEq] at templated
  exact templated.2.2.symm

/-- The name of the fallback artifact of a request. -/
def resultPath (clientId : Text) (header : AppHeader) : Text :=
  Planner.makeArtifactPath
    { clientId, requestId := Text.ofInt header.requestId } "result.txt"

/-- The artifact of a task that finishes has this name. -/
theorem Finishes.path_eq
    {output : Text} {finished : Context}
    (finishes : Finishes host guard header taskData clientId world output
      finished after) :
    Planner.makeArtifactPath finished.initial "result.txt" =
      resultPath clientId header := by
  obtain ⟨plan, between, planned, executed, _⟩ := finishes
  obtain ⟨fileSize, _, _, lifted⟩ := run_bind_eq_ok_iff.mp planned
  have initial := (Planner.of_buildPlan (run_lift_eq_ok_iff.mp lifted).1).2.2.1
  rw [ToolDispatcher.initial_of_executeSteps executed, initial]
  rfl

/-- The report of a search is not empty. -/
theorem Finishes.nonempty
    {output : Text} {finished : Context}
    (finishes : Finishes host guard header taskData clientId world output
      finished after)
    (search : header.opcode = opTaskSearchReport) : output ≠ [] := by
  obtain ⟨plan, between, planned, executed, found⟩ := finishes
  obtain ⟨fileSize, _, _, lifted⟩ := run_bind_eq_ok_iff.mp planned
  have templated := ToolDispatcher.template_of_executeSteps
    (run_lift_eq_ok_iff.mp lifted).1 executed
  rcases Planner.of_template templated with
    ⟨_, steps⟩ | ⟨filter, _⟩ | ⟨hash, _⟩
  · rw [steps] at executed
    obtain ⟨text, nonempty, left⟩ :=
      ToolDispatcher.exists_report [_, _] rfl (.inl rfl) executed nofun
    cases found.symm.trans left
    exact nonempty
  · exact absurd (search.symm.trans filter) (by decide)
  · exact absurd (search.symm.trans hash) (by decide)

/-- A search whose report is short returns the report, and else the path of an
artifact. -/
theorem Finishes.result_eq
    {output : Text} {finished : Context} {left : World} {result : Json}
    (finishes : Finishes host guard header taskData clientId world output
      finished after)
    (search : header.opcode = opTaskSearchReport)
    (performed : (taskResult host guard header taskData clientId).run world =
      (.ok result, left)) :
    ∃ encoded, host.encode output = .ok encoded ∧
      if encoded.length ≤ inlineLimit then
        result = .object [(Text.ofString "output", .string output)]
      else
        result = .object [(Text.ofString "artifact_path",
          .string (resultPath clientId header))] := by
  rw [finishes.taskResult_run search (finishes.nonempty search)] at performed
  obtain ⟨encoded, _, encodes, performed⟩ := run_bind_eq_ok_iff.mp performed
  refine ⟨encoded, (run_lift_eq_ok_iff.mp encodes).1, ?_⟩
  split at performed
  · next short =>
      rw [if_pos short]
      exact (run_pure_eq_ok_iff.mp performed).1.symm
  · next long =>
      obtain ⟨path, _, written, returned⟩ := run_bind_eq_ok_iff.mp performed
      rw [if_neg long, ← (run_pure_eq_ok_iff.mp returned).1,
        (ToolDispatcher.of_writeFallbackArtifact written).1, finishes.path_eq]

/-- An artifact in the result of a task is named after the client id of its
context and the request id. -/
theorem artifact_of_taskResult
    {entries : List (Text × Json)} {value : Json}
    (performed : (taskResult host guard header taskData clientId).run world =
      (.ok (.object entries), after))
    (found : Json.get? entries "artifact_path" = some value) :
    value = .string (resultPath clientId header) ∧
      ∃ safePath, guard.validatePath value = .ok safePath := by
  unfold taskResult at performed
  obtain ⟨plan, between, planned, executed⟩ := run_bind_eq_ok_iff.mp performed
  obtain ⟨fileSize, _, _, built⟩ := run_bind_eq_ok_iff.mp planned
  obtain ⟨_, policy, initial, _⟩ :=
    Planner.of_buildPlan (run_lift_eq_ok_iff.mp built).1
  obtain ⟨rfl, valid⟩ := ToolDispatcher.artifact_of_executePlan
    (by exact policy) executed found
  have path_eq : Planner.makeArtifactPath
      { plan.initialContext with holdsPlan := true } "result.txt" =
        resultPath clientId header := by
    rw [initial]
    rfl
  rw [path_eq] at valid ⊢
  exact ⟨rfl, valid⟩

end TaskHandler

/-! ## Responses to tasks -/

namespace Dispatcher

variable {header : AppHeader} {payload : Bytes} {now : Readings}
  {state : AgentState World}

/-- A task whose payload cannot be read is answered with the error. -/
theorem dispatch_of_unparsed
    (isTask : header.IsTask) {error : PyError}
    (refused : TaskHandler.parseTask host payload = .error error) :
    ((dispatch host guard header payload none now).run state).1 =
      respondError host header error := by
  have handled : (TaskHandler.handleTask host guard header payload none
      now).run (state.workspace.world, state.cache) =
        (.error error, state.workspace.world, state.cache) := by
    simp [TaskHandler.handleTask, ExceptT.run, ExceptT.mk, refused]
  rw [dispatch_run host guard (header.isTask_iff.mp isTask), runHandler_task]
  simp only [called, handled]
  rfl

/-- A task that finds no response under the shared key is answered with what
performing it returns or raises, and stored there if it has side effects. -/
theorem dispatch_of_parsed
    (isTask : header.IsTask) {taskData : List (Text × Json)}
    (parsed : TaskHandler.parseTask host payload = .ok taskData)
    (unshared : state.cache.answer? (TaskHandler.sharedKey header)
      now.taskLookup = none) :
    (dispatch host guard header payload none now).run state =
      match (TaskHandler.performTask host guard header taskData
        TaskHandler.defaultClient).run state.workspace.world with
      | (.ok (response, sideEffects), world) =>
          (.ok response,
            { workspace := { state.workspace with world }
              cache :=
                if sideEffects then
                  TtlCache.store (TaskHandler.lookedUp header now state.cache)
                    (TaskHandler.sharedKey header) response now.taskStore
                else TaskHandler.lookedUp header now state.cache
              calls := (called .task header payload state).calls })
      | (.error error, world) =>
          (respondError host header error,
            { workspace := { state.workspace with world }
              cache := TaskHandler.lookedUp header now state.cache
              calls := (called .task header payload state).calls }) := by
  rw [dispatch_run host guard (header.isTask_iff.mp isTask), runHandler_task]
  simp only [called,
    TaskHandler.handleTask_of_parsed host guard parsed unshared]
  unfold TaskHandler.performAndStore
  simp only [ExceptT.run, ExceptT.mk]
  generalize TaskHandler.performTask host guard header taskData
    TaskHandler.defaultClient state.workspace.world = performed
  obtain ⟨error | ⟨response, sideEffects⟩, world⟩ := performed
  · rfl
  · cases sideEffects <;> rfl

end Dispatcher

namespace AgentServer

/-- The call makes the server perform a task: there is no response under its
own key and none under the one of the default client. -/
structure Performs
    (host : Host World) (state : AgentState World) (call : Call)
    (header : AppHeader) (taskData : List (Text × Json)) : Prop where
  framed : frame? call.data = some header
  isTask : header.IsTask
  unanswered : state.cache.answer? (requestKey call.clientId header)
    call.now.lookup = none
  parsed : TaskHandler.parseTask host (call.data.drop headerSize) =
    .ok taskData
  unshared : state.cache.answer? (TaskHandler.sharedKey header)
    call.now.taskLookup = none

variable {state : AgentState World} {call : Call} {header : AppHeader}
  {taskData : List (Text × Json)} {result : Json} {after : World}
  {response : Bytes}

/-- The answer to a task that is performed is built from its result, which is
stored under the key of the default client only if there are side effects. -/
theorem Performs.serve_eq
    (performs : Performs host state call header taskData)
    (performed : (TaskHandler.taskResult host guard header taskData
      TaskHandler.defaultClient).run state.workspace.world =
        (.ok result, after))
    (built : ResponseBuilder.buildResponse host header.opcode header.requestId
      .ok result = .ok response) :
    (serve host guard state call).1 = response ∧
      (serve host guard state call).2.workspace.world = after ∧
      (header.opcode = opTaskSearchReport → ∀ key entry,
        (serve host guard state call).2.cache.get? key = some entry →
        state.cache.get? key = some entry ∨
          key = requestKey call.clientId header) := by
  obtain ⟨sideEffects, run⟩ :=
    TaskHandler.performTask_eq_ok_iff.mpr ⟨result, performed, built⟩
  have unshared : (ownLookedUp call.clientId header call.now
      state).cache.answer? (TaskHandler.sharedKey header)
        call.now.taskLookup = none := by
    have unshared := performs.unshared
    unfold IdempotencyCache.answer? ownLookedUp at *
    simpa only [Dispatcher.withCache,
      TtlCache.find?_lookup _ _ _ _ call.now.lookup_le] using unshared
  have sameWorld : (ownLookedUp call.clientId header call.now
      state).workspace = state.workspace := rfl
  rw [serve_of_unanswered host guard performs.framed performs.unanswered]
  unfold carryOut
  rw [Dispatcher.dispatch_of_parsed performs.isTask performs.parsed unshared,
    sameWorld, run]
  refine ⟨rfl, rfl, fun search key entry present => ?_⟩
  obtain rfl := TaskHandler.sideEffects_of_search search run
  change (TtlCache.store (TaskHandler.lookedUp header call.now
    (ownLookedUp call.clientId header call.now state).cache)
      (requestKey call.clientId header) response call.now.store).get? key =
        some entry at present
  rw [TtlCache.get?_store] at present
  split at present
  · next own => exact .inr own
  · exact .inl (TtlCache.get?_of_get?_lookup
      (TtlCache.get?_of_get?_lookup present))

end AgentServer

end RudpAgentStack

import RudpAgentStack.Agent.MemoryHost

/-!
# What becomes of the outcome of a task

Plans are well formed: each step reads what an earlier step has filled.  When
all steps run, the outcome of the task is in the final context; the result
carries it, inline or in an artifact, except for a task that filters lines
without a file to write them to.
-/

namespace RudpAgentStack

open Foundation

variable {World : Type} {host : Host World} {guard : PolicyGuard}

/-! ## Writing files -/

namespace ToolDispatcher

/-- The block of `_atomic_write` that fills the temporary file. -/
def fillTemporary
    (host : Host World) (temporary : Text) (content : Except PyError Bytes) :
    Action World Unit := do
  let bytes ← content
  host.writeTemporary temporary bytes
  host.flushTemporary temporary
  tryCatch (host.syncTemporary temporary) fun error =>
    if error.kind.isOsError then pure () else throw error

/-- The part of `_atomic_write` after the temporary file is filled. -/
def renameTemporary (host : Host World) (safePath temporary : Text) :
    Action World Unit := do
  host.closeTemporary temporary
  host.replace temporary safePath

/-- Filling a new temporary file puts the content into it. -/
theorem fillTemporary_ends
    (files : FileSystem host) (temporary : Text)
    (content : Except PyError Bytes) {world created : World}
    (isNew : files.content created =
      Function.update (files.content world) temporary (some [])) :
    Ends (fillTemporary host temporary content) created
      (fun _ after => ∃ bytes, content = .ok bytes ∧ files.content after =
        Function.update (files.content world) temporary (some bytes))
      (fun _ _ => True) := by
  refine Ends.bind_lift (fun bytes given => ?_) fun _ _ => trivial
  refine ((files.writeTemporary _ _ _).returns).bind fun _ _ written => ?_
  refine ((files.flushTemporary _ _).returns).bind fun _ _ flushed => ?_
  have content_eq := flushed
  rw [id_eq, Function.update_eq_self, written, isNew,
    Function.update_self, Function.update_idem] at content_eq
  refine Ends.tryCatch ((files.syncTemporary temporary).ends _ |>.mono
    (fun _ _ synced => ⟨bytes, given, synced.trans content_eq⟩)
    (fun _ _ synced => synced)) ?_
  intro error after synced
  split
  · exact ⟨bytes, given, synced.trans content_eq⟩
  · exact trivial

/-- Renaming a full temporary file puts its content into the file of the name,
and changes no file but the temporary one when it raises. -/
theorem renameTemporary_ends
    (files : FileSystem host) (safePath : Text) {temporary : Text}
    {bytes : Bytes} {world full : World}
    (absent : files.content world temporary = none)
    (full_eq : files.content full =
      Function.update (files.content world) temporary (some bytes)) :
    Ends (renameTemporary host safePath temporary) full
      (fun _ after => files.content after =
        Function.update (files.content world) safePath (some bytes))
      (fun _ after => ∀ other, other ≠ temporary →
        files.content after other = files.content world other) := by
  have others : ∀ other, other ≠ temporary →
      files.content full other = files.content world other := by
    intro other different
    rw [full_eq, Function.update_of_ne different]
  refine ((files.closeTemporary temporary full).mono
    (fun _ _ closed => closed)
    (fun _ _ same other different =>
      (same other different).trans (others other different))).bind ?_
  intro _ closed closed_eq
  rw [id_eq, Function.update_eq_self] at closed_eq
  refine (files.replace temporary safePath closed).mono ?_ ?_
  · intro _ after renamed
    rw [renamed, closed_eq, full_eq]
    split
    · next same => rw [same]
    · have unchanged :
          Function.update (files.content world) temporary none =
            files.content world :=
        Function.update_eq_self_iff.mpr absent.symm
      rw [Function.update_self, Function.update_idem, unchanged]
  · intro _ after same other different
    rw [same, closed_eq]
    exact others other different

/-- An atomic write that returns has put the content into the file, and has
changed no other. -/
theorem atomicWrite_ends
    (files : FileSystem host) (path : Json) (content : Except PyError Bytes)
    (world : World) :
    Ends (atomicWrite host guard path content) world
      (fun _ after => ∃ safePath bytes,
        guard.validatePath path = .ok safePath ∧ content = .ok bytes ∧
        files.content after =
          Function.update (files.content world) safePath (some bytes))
      (fun _ _ => True) := by
  unfold atomicWrite
  refine Ends.bind_lift (fun safePath valid => ?_) fun _ _ => trivial
  refine (((files.makedirs _).ends _).returns).bind fun _ prepared made => ?_
  refine ((files.createTemporary _ prepared).returns).bind ?_
  rintro temporary created ⟨absent, isNew⟩
  rw [made] at absent isNew
  have filled := fillTemporary_ends files temporary content isNew
  refine Ends.bind (Ends.tryCatch filled fun error after _ => by simp) ?_
  rintro _ full ⟨bytes, given, full_eq⟩
  have renamed := renameTemporary_ends files safePath absent full_eq
  refine Ends.tryCatch ((renamed.mono (fun _ _ content_eq =>
    ⟨safePath, bytes, valid, given, content_eq⟩) fun _ _ _ => trivial)) ?_
  intro error after _
  refine (Ends.true_iff.mpr trivial).bind ?_
  intro exists? _ _
  split <;> simp

/-- A fallback artifact has the name of an artifact with this suffix. -/
theorem fallbackPath_eq (context : Context) :
    artifactDir ++ "/" ++ context.initial.clientId ++ "/" ++
        context.initial.requestId ++ "_result.txt" =
      Planner.makeArtifactPath context.initial "result.txt" := by
  simp only [Planner.makeArtifactPath, List.append_assoc]
  rfl

/-- A fallback artifact holds the content it was written for. -/
theorem writeFallbackArtifact_ends
    (files : FileSystem host) (content : Bytes) (context : Context)
    (world : World) :
    Ends (writeFallbackArtifact host guard content context) world
      (fun path after => ∃ safePath,
        guard.validatePath (.string path) = .ok safePath ∧
          files.content after safePath = some content)
      (fun _ _ => True) := by
  unfold writeFallbackArtifact
  refine (atomicWrite_ends files _ _ _).bind ?_
  rintro _ after ⟨safePath, bytes, valid, ⟨⟩, content_eq⟩
  refine ⟨safePath, valid, ?_⟩
  rw [content_eq, Function.update_self]

end ToolDispatcher

/-! ## Plans -/

/-- The keys of the context a plan starts from. -/
def TaskContext.keys (context : TaskContext) : List Text :=
  [Text.ofString "client_id", Text.ofString "request_id"] ++
    (if context.fileSize.isSome then [Text.ofString "file_size"] else []) ++
    (if context.holdsPlan then [Text.ofString "__plan__"] else [])

/-- Every step reads a key that is available or that an earlier step fills. -/
def StepsWellFormed : (available : List Text) → List Step → Prop
  | _, [] => True
  | available, step :: steps =>
      (∀ key ∈ step.consumes, key ∈ available) ∧
        StepsWellFormed (step.produces :: available) steps

/-- Every step of the plan reads a key of the initial context or one that an
earlier step fills. -/
def Plan.WellFormed (plan : Plan) : Prop :=
  StepsWellFormed plan.initialContext.keys plan.steps

namespace Planner

/-- Rule for the execution mode. -/
def modeFor (context : TaskContext) : ExecutionMode :=
  if context.fileSize.getD 0 ≤ streamThreshold then .memory else .stream

/-- What a plan is made of: the steps of its template, those that write the
plan itself, and the mode chosen by the size of the file. -/
theorem of_buildPlan
    {opcode : Int} {payload : List (Text × Json)} {context : TaskContext}
    {plan : Plan}
    (planned : buildPlan host opcode payload context = .ok plan) :
    plan.executionMode = modeFor context ∧
      plan.outputPolicy = .dynamic ∧ plan.initialContext = context ∧
      ∃ steps extra,
        template host opcode payload (modeFor context) =
          .ok (plan.explanation, steps, plan.sideEffects) ∧
        planSteps payload context = .ok extra ∧
        plan.steps = steps ++ extra := by
  unfold buildPlan at planned
  simp only [bind, Except.bind, pure, Except.pure] at planned
  split at planned
  · cases planned
  · next chosen templated =>
      obtain ⟨explanation, steps, sideEffects⟩ := chosen
      split at planned
      · cases planned
      · next extra extraSteps =>
          split at planned
          · cases planned
          · split at planned
            · cases planned
            · cases planned
              exact ⟨rfl, rfl, rfl, steps, extra, templated, extraSteps, rfl⟩

@[simp] theorem readStep_consumes
    (payload : List (Text × Json)) (mode : ExecutionMode) :
    (readStep payload mode).consumes = none := by
  cases mode <;> rfl

/-- The three templates. -/
theorem of_template
    {opcode : Int} {payload : List (Text × Json)} {mode : ExecutionMode}
    {explanation : Text} {steps : List Step} {sideEffects : Bool}
    (templated : template host opcode payload mode =
      .ok (explanation, steps, sideEffects)) :
    (opcode = opTaskSearchReport ∧ steps = templateSearchReport payload mode) ∨
    (opcode = opTaskFilterLines ∧ steps = templateFilterLines host payload mode
      (Json.get payload "out_file")) ∨
    (opcode = opTaskHashAndStore ∧
      steps = templateHashAndStore host payload) := by
  unfold template at templated
  split at templated
  · next search =>
      cases templated
      exact .inl ⟨search, rfl⟩
  · split at templated
    · next filter =>
        cases templated
        exact .inr (.inl ⟨filter, rfl⟩)
    · split at templated
      · next hash =>
          cases templated
          exact .inr (.inr ⟨hash, rfl⟩)
      · cases templated

/-- The step that writes the plan fills a key of its own and reads none. -/
theorem of_planSteps
    {payload : List (Text × Json)} {context : TaskContext} {extra : List Step}
    (planned : planSteps payload context = .ok extra) :
    ∀ step ∈ extra, step.produces = Text.ofString "plan_artifact_path" ∧
      step.consumes = none := by
  unfold planSteps at planned
  split at planned
  · split at planned
    · cases planned
      simp
    · cases planned
      simp
  · cases planned

end Planner

theorem StepsWellFormed.append
    {available : List Text} {steps extra : List Step}
    (wellFormed : StepsWellFormed available steps)
    (readsNothing : ∀ step ∈ extra, step.consumes = none) :
    StepsWellFormed available (steps ++ extra) := by
  induction steps generalizing available with
  | cons step steps inductionHypothesis =>
      exact ⟨wellFormed.1, inductionHypothesis wellFormed.2⟩
  | nil =>
      clear wellFormed
      induction extra generalizing available with
      | nil => exact trivial
      | cons step steps inductionHypothesis =>
          rw [List.forall_mem_cons] at readsNothing
          refine ⟨?_, inductionHypothesis readsNothing.2⟩
          rw [readsNothing.1]
          exact nofun

/-- Every plan is well formed. -/
theorem Plan.wellFormed_of_buildPlan
    {opcode : Int} {payload : List (Text × Json)} {context : TaskContext}
    {plan : Plan}
    (planned : Planner.buildPlan host opcode payload context = .ok plan) :
    plan.WellFormed := by
  obtain ⟨_, _, _, steps, extra, templated, extraSteps, steps_eq⟩ :=
    Planner.of_buildPlan planned
  unfold WellFormed
  rw [steps_eq]
  refine StepsWellFormed.append ?_ fun step member =>
    (Planner.of_planSteps extraSteps step member).2
  rcases Planner.of_template templated with
    ⟨_, rfl⟩ | ⟨_, rfl⟩ | ⟨_, rfl⟩
  · simp [Planner.templateSearchReport, StepsWellFormed]
  · unfold Planner.templateFilterLines
    split <;> simp [StepsWellFormed]
  · simp [Planner.templateHashAndStore, StepsWellFormed]

/-! ## Contexts -/

namespace Context

theorem get?_set
    (context : Context) (key : Text) (value : Value) (other : Text) :
    (context.set key value).get? other =
      if other = key then some value else context.get? other := by
  by_cases same : other = key <;> simp [get?, set, Dict.get?_set, same]

@[simp] theorem get?_set_self
    (context : Context) (key : Text) (value : Value) :
    (context.set key value).get? key = some value := by
  simp [get?_set]

end Context

namespace ToolDispatcher

/-- A step that runs reads its input, runs its tool and stores the output. -/
theorem executeStep_eq_ok_iff
    {step : Step} {context finished : Context} {world after : World} :
    (executeStep host guard step context).run world = (.ok finished, after) ↔
      ∃ input output, stepInput host step context = .ok input ∧
        (runTool host guard step input context).run world =
          (.ok output, after) ∧
        finished = context.set step.produces output := by
  unfold executeStep
  simp only [run_bind_eq_ok_iff, run_lift_eq_ok_iff, run_pure_eq_ok_iff]
  constructor
  · rintro ⟨input, _, ⟨given, rfl⟩, output, _, run, rfl, rfl⟩
    exact ⟨input, output, given, run, rfl⟩
  · rintro ⟨input, output, given, run, rfl⟩
    exact ⟨input, world, ⟨given, rfl⟩, output, after, run, rfl, rfl⟩

theorem executeSteps_append
    (first second : List Step) (context : Context) :
    executeSteps host guard (first ++ second) context =
      executeSteps host guard first context >>=
        executeSteps host guard second := by
  induction first generalizing context with
  | nil =>
      rw [List.nil_append, executeSteps, pure_bind]
  | cons step steps inductionHypothesis =>
      simp only [List.cons_append, executeSteps, bind_assoc,
        inductionHypothesis]

/-- Steps change only the keys they fill. -/
theorem get?_of_executeSteps
    {steps : List Step} {context finished : Context} {world after : World}
    (executed : (executeSteps host guard steps context).run world =
      (.ok finished, after))
    {key : Text} (untouched : ∀ step ∈ steps, step.produces ≠ key) :
    finished.get? key = context.get? key := by
  induction steps generalizing context world with
  | nil =>
      cases executed
      rfl
  | cons step steps inductionHypothesis =>
      rw [List.forall_mem_cons] at untouched
      rw [executeSteps, run_bind_eq_ok_iff] at executed
      obtain ⟨between, middle, first, rest⟩ := executed
      obtain ⟨_, output, _, _, rfl⟩ := executeStep_eq_ok_iff.mp first
      rw [inductionHypothesis rest untouched.2, Context.get?_set,
        if_neg (Ne.symm untouched.1)]

/-- The key a step fills holds its output until another step fills it. -/
theorem exists_output
    {before later : List Step} {step : Step} {context finished : Context}
    {world after : World}
    (executed : (executeSteps host guard (before ++ step :: later)
      context).run world = (.ok finished, after))
    (untouched : ∀ other ∈ later, other.produces ≠ step.produces) :
    ∃ input output reached start stop,
      (runTool host guard step input reached).run start = (.ok output, stop) ∧
        finished.get? step.produces = some output := by
  rw [executeSteps_append, run_bind_eq_ok_iff] at executed
  obtain ⟨reached, start, _, rest⟩ := executed
  rw [executeSteps, run_bind_eq_ok_iff] at rest
  obtain ⟨_, stop, first, rest⟩ := rest
  obtain ⟨input, output, _, run, rfl⟩ := executeStep_eq_ok_iff.mp first
  refine ⟨input, output, reached, start, stop, run, ?_⟩
  rw [get?_of_executeSteps rest untouched, Context.get?_set_self]

end ToolDispatcher

/-! ## Outcomes -/

/-- The task filters lines and names no file to write them to. -/
def FiltersWithoutFile (opcode : Int) (payload : List (Text × Json)) : Prop :=
  opcode = opTaskFilterLines ∧ (Json.get payload "out_file").truthy = false

instance (opcode : Int) (payload : List (Text × Json)) :
    Decidable (FiltersWithoutFile opcode payload) :=
  inferInstanceAs (Decidable (_ ∧ _))

/-- The key of the context under which a task leaves its outcome. -/
def outcomeKey (opcode : Int) (payload : List (Text × Json)) : Text :=
  if FiltersWithoutFile opcode payload then "filtered_lines"
  else "final_output"

/-- The result carries an outcome: as output when its encoding is short, and
otherwise as the path of a file with its encoding. -/
def CarriesOutcome
    (files : FileSystem host) (guard : PolicyGuard) (outcome : Value)
    (result : Json) (world : World) : Prop :=
  ∃ entries encoded, result = .object entries ∧
    host.encode (outcome.str host) = .ok encoded ∧
    if encoded.length ≤ inlineLimit then
      Json.get? entries "output" = some (outcome.toJson host)
    else ∃ path safePath,
      Json.get? entries "artifact_path" = some (.string path) ∧
        guard.validatePath (.string path) = .ok safePath ∧
        files.content world safePath = some encoded

/-- An outcome has no encoding, or one too long to be returned inline. -/
def NeedsArtifact (host : Host World) (outcome : Value) : Prop :=
  ∀ encoded, host.encode (outcome.str host) = .ok encoded →
    inlineLimit < encoded.length

namespace ToolDispatcher

/-- A report is a text that is not empty. -/
theorem toolBuildReport_eq_ok
    {args : List (Text × Json)} {input report : Value}
    (formatted :
      Json.get args "format" = .string "search_summary" ∨
        (Json.get args "format" = .string "action_completion" ∧
          ∃ message, message ≠ [] ∧ Json.get args "msg" = .string message))
    (built : toolBuildReport host args input = .ok report) :
    ∃ text, text ≠ [] ∧ report = .text text := by
  unfold toolBuildReport at built
  rcases formatted with format | ⟨format, message, nonempty, given⟩
  · rw [format] at built
    simp only at built
    rw [if_neg (by decide), if_pos trivial] at built
    cases input with
    | lines values =>
        cases built
        exact ⟨_, by simp [Text.ofString], rfl⟩
    | _ => cases built
  · rw [format, given] at built
    simp only [if_pos] at built
    cases built
    refine ⟨message, nonempty, ?_⟩
    simp [Json.truthy, Host.str, nonempty]

/-- The result carries a final output that is a text; only one that needs an
artifact can be lost to an exception. -/
theorem outcome_ends
    (files : FileSystem host) {context : Context} {text : Text}
    (found : context.get? "final_output" = some (.text text))
    (nonempty : text ≠ []) (world : World) :
    Ends (outcome host guard .dynamic context) world
      (fun entries after =>
        CarriesOutcome files guard (.text text) (.object entries) after)
      (fun _ _ => NeedsArtifact host (.text text)) := by
  have isTruthy : (Value.text text).truthy = true := by
    simpa [Value.truthy] using nonempty
  unfold outcome
  rw [found]
  simp only [isTruthy, Bool.true_eq_false, if_false]
  refine Ends.bind_lift (fun encoded given => ?_) fun error failed => ?_
  · split
    · next short =>
        refine ⟨_, encoded, rfl, given, ?_⟩
        rw [if_pos short]
        rfl
    · next long =>
        refine Ends.mono (Ends.bind
          (writeFallbackArtifact_ends files encoded context world)
          fun path after written => ?_) (fun _ _ carried => carried)
          fun _ _ _ => ?_
        · obtain ⟨safePath, valid, holds⟩ := written
          refine ⟨_, encoded, rfl, given, ?_⟩
          rw [if_neg long]
          exact ⟨path, safePath, rfl, valid, holds⟩
        · intro other same
          cases given.symm.trans same
          exact not_le.mp long
  · intro encoded given
    cases failed.symm.trans given

end ToolDispatcher

theorem CarriesOutcome.append
    {files : FileSystem host} {outcome : Value} {world : World}
    {entries : List (Text × Json)}
    (carried : CarriesOutcome files guard outcome (.object entries) world)
    (more : List (Text × Json)) :
    CarriesOutcome files guard outcome (.object (entries ++ more)) world := by
  obtain ⟨_, encoded, ⟨⟩, given, holds⟩ := carried
  refine ⟨_, encoded, rfl, given, ?_⟩
  unfold Json.get? at holds ⊢
  split
  · next short =>
      rw [if_pos short] at holds
      rw [List.lookup_append, holds, Option.some_or]
  · next long =>
    rw [if_neg long] at holds
    obtain ⟨path, safePath, found, rest⟩ := holds
    exact ⟨path, safePath, by rw [List.lookup_append, found, Option.some_or],
      rest⟩

/-- A result with no other entry than the path of the plan carries nothing. -/
theorem not_carriesOutcome_of_keys
    {files : FileSystem host} {outcome : Value} {world : World}
    {entries : List (Text × Json)}
    (keys : ∀ entry ∈ entries,
      entry.1 = Text.ofString "plan_artifact_path") :
    ¬CarriesOutcome files guard outcome (.object entries) world := by
  have absent : ∀ key ≠ Text.ofString "plan_artifact_path",
      Json.get? entries key = none := by
    intro key other
    refine List.lookup_eq_none_iff.mpr fun entry member => ?_
    rw [keys entry member]
    exact bne_iff_ne.mpr other
  rintro ⟨_, encoded, ⟨⟩, _, holds⟩
  rw [absent "output" (by decide), absent "artifact_path" (by decide)] at holds
  split at holds
  · cases holds
  · obtain ⟨_, _, ⟨⟩, _⟩ := holds

namespace ToolDispatcher

/-- The result of a plan that leaves no plan of its own. -/
theorem executePlan_run
    {plan : Plan} {finished : Context} {world after : World}
    (executed : (executeSteps host guard plan.steps
      { initial := plan.initialContext }).run world = (.ok finished, after))
    (noArtifact : finished.get? "plan_artifact_path" = none) :
    (executePlan host guard plan).run world =
      (do
        let result ← outcome host guard plan.outputPolicy finished
        return .object result : Action World Json).run after := by
  rw [executePlan, Action.run_bind, executed]
  simp only [noArtifact]

/-- When its steps run, a plan ends as the making of its result does. -/
theorem executePlan_ends_iff
    {plan : Plan} {finished : Context} {world after : World}
    (executed : (executeSteps host guard plan.steps
      { initial := plan.initialContext }).run world = (.ok finished, after))
    {returned : Json → World → Prop} {raised : PyError → World → Prop} :
    Ends (executePlan host guard plan) world returned raised ↔
      Ends (outcome host guard plan.outputPolicy finished) after
        (fun entries stop => returned
          (.object (entries ++
            ((finished.get? "plan_artifact_path").map fun path =>
              (Text.ofString "plan_artifact_path",
                path.toJson host)).toList)) stop)
        raised := by
  unfold executePlan
  rw [Ends.bind_iff, Ends.of_run_ok executed, Ends.bind_iff]
  cases finished.get? "plan_artifact_path" <;> simp

end ToolDispatcher

/-- A report step leaves a text that is not empty. -/
theorem ToolDispatcher.exists_report
    (before : List Step) {later : List Step} {step : Step} {context finished : Context}
    {world after : World}
    (isReport : step.tool = .buildReport)
    (formatted :
      Json.get step.args "format" = .string "search_summary" ∨
        (Json.get step.args "format" = .string "action_completion" ∧
          ∃ message, message ≠ [] ∧
            Json.get step.args "msg" = .string message))
    (executed : (executeSteps host guard (before ++ step :: later)
      context).run world = (.ok finished, after))
    (untouched : ∀ other ∈ later, other.produces ≠ step.produces) :
    ∃ text, text ≠ [] ∧ finished.get? step.produces = some (.text text) := by
  obtain ⟨input, output, reached, start, stop, run, found⟩ :=
    exists_output executed untouched
  unfold runTool at run
  rw [isReport] at run
  obtain ⟨built, _⟩ := run_lift_eq_ok_iff.mp run
  obtain ⟨text, nonempty, rfl⟩ := toolBuildReport_eq_ok formatted built
  exact ⟨text, nonempty, found⟩

/-- A filter step leaves lines. -/
theorem ToolDispatcher.exists_lines
    (before : List Step) {later : List Step} {step : Step} {context finished : Context}
    {world after : World}
    (isFilter : step.tool = .filterLines)
    (executed : (executeSteps host guard (before ++ step :: later)
      context).run world = (.ok finished, after))
    (untouched : ∀ other ∈ later, other.produces ≠ step.produces) :
    ∃ lines, finished.get? step.produces = some (.lines lines) := by
  obtain ⟨input, output, reached, start, stop, run, found⟩ :=
    exists_output executed untouched
  unfold runTool at run
  rw [isFilter] at run
  simp only [toolFilterLines, run_bind_eq_ok_iff, run_lift_eq_ok_iff,
    run_pure_eq_ok_iff] at run
  obtain ⟨_, _, _, _, _, _, _, _, _, rfl, _⟩ := run
  exact ⟨_, found⟩

/-- When the steps of a task run, its outcome is in the final context. -/
theorem exists_outcome
    {opcode : Int} {payload : List (Text × Json)} {context : TaskContext}
    {plan : Plan} {finished : Context} {world after : World}
    (planned : Planner.buildPlan host opcode payload context = .ok plan)
    (executed : (ToolDispatcher.executeSteps host guard plan.steps
      { initial := plan.initialContext }).run world = (.ok finished, after)) :
    if FiltersWithoutFile opcode payload then
      finished.get? "final_output" = none ∧
        ∃ lines, finished.get? "filtered_lines" = some (.lines lines)
    else ∃ text, text ≠ [] ∧
      finished.get? "final_output" = some (.text text) := by
  obtain ⟨_, _, _, steps, extra, templated, extraSteps, steps_eq⟩ :=
    Planner.of_buildPlan planned
  rw [steps_eq] at executed
  have untouched : ∀ key ≠ Text.ofString "plan_artifact_path",
      ∀ step ∈ extra, step.produces ≠ key := by
    intro key other step member same
    exact other (same ▸ (Planner.of_planSteps extraSteps step member).1)
  have outcomeUntouched := untouched "final_output" (by decide)
  rcases Planner.of_template templated with
    ⟨rfl, rfl⟩ | ⟨rfl, rfl⟩ | ⟨rfl, rfl⟩
  · rw [if_neg fun holds => absurd holds.1 (by decide)]
    exact ToolDispatcher.exists_report [_, _] rfl (.inl rfl) executed
      outcomeUntouched
  · unfold Planner.templateFilterLines at executed
    split at executed
    · next named =>
        rw [if_neg fun holds => absurd (named.symm.trans holds.2) (by decide)]
        exact ToolDispatcher.exists_report [_, _, _] rfl
          (.inr ⟨rfl, _, by simp [Text.ofString], rfl⟩) executed
          outcomeUntouched
    · next unnamed =>
        rw [if_pos ⟨rfl, Bool.not_eq_true _ ▸ unnamed⟩]
        refine ⟨?_, ToolDispatcher.exists_lines [_] rfl executed
          (untouched "filtered_lines" (by decide))⟩
        rw [ToolDispatcher.get?_of_executeSteps executed]
        · rfl
        · refine List.forall_mem_append.mpr ⟨?_, outcomeUntouched⟩
          cases Planner.modeFor context <;>
            simp [Planner.readStep] <;> decide
  · rw [if_neg fun holds => absurd holds.1 (by decide)]
    exact ToolDispatcher.exists_report [_, _, _] rfl
      (.inr ⟨rfl, _, by simp [Text.ofString], rfl⟩) executed outcomeUntouched

/-! ## Results -/

/-- The request for the lines of the file that contain `x`. -/
def Sample.linesData : List (Text × Json) :=
  [("input_file", .string "notes.txt"), ("query", .string "x")]

/-- The context of a request of the sample. -/
def Sample.taskContext : TaskContext :=
  { clientId := "10.0.0.1:5000", requestId := "1" }

end RudpAgentStack

import RudpAgentStack.Agent.ClientIsolation
import RudpAgentStack.Agent.Conduct
import RudpAgentStack.Agent.TaskOutcomes

/-!
# The conduct of tasks

The tools keep the conduct demanded of the operations, and so do plans whose
steps write only where that is allowed.
-/

namespace RudpAgentStack

open Foundation

variable
  {World : Type} {host : Host World} {guard : PolicyGuard}
  {conduct : Conduct host guard} {payload : Bytes}

namespace ToolDispatcher

/-! ## Writing -/

/-- The part of `_atomic_write` in which the temporary file exists. -/
def finishWrite
    (host : Host World) (safePath temporary : Text)
    (content : Except PyError Bytes) : Action World Unit := do
  let fill : Action World Unit := do
    let bytes ← content
    host.writeTemporary temporary bytes
    host.flushTemporary temporary
    tryCatch (host.syncTemporary temporary) fun error =>
      if error.kind.isOsError then pure () else throw error
  tryCatch fill fun error => do
    host.closeTemporary temporary
    throw error
  let rename : Action World Unit := do
    host.closeTemporary temporary
    host.replace temporary safePath
  tryCatch rename fun error => do
    if ← host.exists? temporary then host.remove temporary
    throw error

theorem atomicWrite_eq (path : Json) (content : Except PyError Bytes) :
    atomicWrite host guard path content = (do
      let safePath ← guard.validatePath path
      host.makedirs (PosixPath.directory safePath)
      let temporary ← host.createTemporary (PosixPath.directory safePath)
      finishWrite host safePath temporary content) := rfl

theorem exists?_behaves (path : Text) :
    Behaves conduct payload (host.exists? path) (fun _ => True) :=
  Keeps.bind Keeps.of_get fun _ _ => Keeps.of_pure trivial

theorem finishWrite_behaves
    {path : Json} {safePath temporary : Text} {content : Except PyError Bytes}
    (valid : guard.validatePath path = .ok safePath)
    (isTemporary : conduct.temporary temporary)
    (refused : ∀ error, content = .error error →
      Failure conduct payload error) :
    Behaves conduct payload (finishWrite host safePath temporary content)
      (fun _ => True) := by
  have closes : Behaves conduct payload (host.closeTemporary temporary)
      (fun _ => True) := conduct.behaves (conduct.closeTemporary isTemporary)
  have syncs : Behaves conduct payload (host.syncTemporary temporary)
      (fun _ => True) := conduct.behaves (conduct.syncTemporary isTemporary)
  unfold finishWrite
  refine Keeps.bind (Keeps.tryCatch
    (?fill : Behaves conduct payload _ fun _ => True)
    fun error failure => closes.bind fun _ _ => Keeps.of_throw failure)
    fun _ _ => Keeps.tryCatch (?rename : Behaves conduct payload _ _)
      fun error failure => ?removal
  case fill =>
    refine Keeps.bind (Keeps.of_lift (fun _ _ => trivial) refused)
      fun bytes _ => ?_
    refine (conduct.behaves (conduct.writeTemporary bytes isTemporary)).bind
      fun _ _ => ?_
    refine (conduct.behaves (conduct.flushTemporary isTemporary)).bind
      fun _ _ => ?_
    refine Keeps.tryCatch syncs fun error failure => ?_
    split
    · exact Keeps.of_pure trivial
    · exact Keeps.of_throw failure
  case rename =>
    exact closes.bind fun _ _ =>
      conduct.behaves (conduct.replace isTemporary valid)
  case removal =>
    refine (exists?_behaves temporary).bind fun present _ => ?_
    split
    · exact (conduct.behaves (conduct.remove isTemporary)).bind fun _ _ =>
        Keeps.of_throw failure
    · exact Keeps.of_throw failure

theorem validatePath_behaves (path : Json) :
    Behaves conduct payload (guard.validatePath path : Action World Text)
      (fun safePath => guard.validatePath path = .ok safePath) :=
  Keeps.of_lift (fun _ valid => valid) fun _ refused =>
    .plain (PolicyGuard.plain_of_validatePath refused)

/-- An atomic write behaves where temporary files may be created. -/
theorem atomicWrite_behaves
    {path : Json} {content : Except PyError Bytes}
    (allowed : ∀ safePath, guard.validatePath path = .ok safePath →
      conduct.writable safePath)
    (refused : ∀ error, content = .error error →
      Failure conduct payload error) :
    Behaves conduct payload (atomicWrite host guard path content)
      (fun _ => True) := by
  rw [atomicWrite_eq]
  refine (validatePath_behaves path).bind fun safePath valid => ?_
  refine (conduct.behaves (conduct.makedirs valid)).bind fun _ _ => ?_
  refine (conduct.behaves (conduct.createTemporary valid
    (allowed safePath valid))).bind fun temporary isTemporary => ?_
  exact finishWrite_behaves valid isTemporary refused

end ToolDispatcher

/-! ## Tools -/

/-- The value may pass between steps: a stream reads a validated path. -/
def Value.Readable (guard : PolicyGuard) : Value → Prop
  | .stream path _ => ∃ name, guard.validatePath name = .ok path
  | _ => True

namespace ToolDispatcher

variable {args : List (Text × Json)} {input : Value}

theorem plain_of_argument
    {key : Text} {error : PyError} (refused : argument args key = .error error) :
    Plain error := by
  unfold argument at refused
  split at refused
  · cases refused
  · cases refused
    exact .internal (by rintro ⟨⟩) rfl

/-- An argument of a tool. -/
theorem argument_behaves (key : Text) :
    Behaves conduct payload (argument args key : Action World Json)
      (fun value => argument args key = .ok value) :=
  Keeps.of_lift (fun _ given => given) fun _ refused =>
    .plain (plain_of_argument refused)

theorem decode_behaves (bytes : Bytes) :
    Behaves conduct payload (host.decode bytes : Action World Text)
      (fun _ => True) := by
  refine Keeps.of_lift (fun _ _ => trivial) fun error refused => ?_
  unfold Host.decode at refused
  split at refused
  · cases refused
  · cases refused
    exact .malformed (.unreadable (.decoding bytes))

theorem toolReadFile_behaves :
    Behaves conduct payload (toolReadFile host guard args)
      (Value.Readable guard) := by
  refine (argument_behaves "path").bind fun path _ => ?_
  refine (validatePath_behaves path).bind fun safePath valid => ?_
  refine (conduct.behaves (conduct.getsize safePath)).bind
    fun size measured => ?_
  split
  · exact Keeps.of_throw (.readTooLarge measured)
  · refine (conduct.behaves (conduct.readFile valid)).bind fun bytes _ => ?_
    exact (decode_behaves bytes).bind fun _ _ => Keeps.of_pure trivial

theorem toolStreamRead_behaves :
    Behaves conduct payload (toolStreamRead guard args : Action World Value)
      (Value.Readable guard) := by
  refine Keeps.of_lift (fun value opened => ?_) fun error refused => ?_
  · unfold toolStreamRead at opened
    cases given : argument args "path" with
    | error error => simp [given, bind, Except.bind] at opened
    | ok path =>
      cases valid : guard.validatePath path with
      | error error => simp [given, valid, bind, Except.bind] at opened
      | ok safePath =>
        simp only [given, valid, bind, Except.bind, pure, Except.pure,
          Except.ok.injEq] at opened
        rw [← opened]
        exact ⟨path, valid⟩
  · unfold toolStreamRead at refused
    cases given : argument args "path" with
    | error failure =>
      simp only [given, bind, Except.bind, Except.error.injEq] at refused
      rw [← refused]
      exact .plain (plain_of_argument given)
    | ok path =>
      cases valid : guard.validatePath path with
      | error failure =>
        simp only [given, valid, bind, Except.bind, Except.error.injEq]
          at refused
        rw [← refused]
        exact .plain (PolicyGuard.plain_of_validatePath valid)
      | ok safePath =>
        simp [given, valid, bind, Except.bind, pure, Except.pure] at refused

theorem textLines_behaves (readable : input.Readable guard) :
    Behaves conduct payload (textLines host input) (fun _ => True) := by
  unfold textLines
  split
  · exact Keeps.of_pure trivial
  · exact Keeps.of_pure trivial
  · obtain ⟨name, valid⟩ := readable
    exact (conduct.behaves (conduct.readFile valid)).bind fun _ _ =>
      Keeps.of_pure trivial
  · obtain ⟨name, valid⟩ := readable
    refine (conduct.behaves (conduct.readFile valid)).bind fun _ _ => ?_
    split
    · exact Keeps.of_pure trivial
    · exact Keeps.of_throw (.plain (.internal nofun rfl))
  · exact Keeps.of_throw (.plain (.internal nofun rfl))

theorem checkedPattern_behaves (pattern : Json) (lines : List Text) :
    Behaves conduct payload (checkedPattern pattern lines : Action World Text)
      (fun _ => True) := by
  refine Keeps.of_lift (fun _ _ => trivial) fun error refused => ?_
  unfold checkedPattern at refused
  split at refused <;> cases refused
  exact .plain (.internal nofun rfl)

theorem toolSearchLines_behaves (readable : input.Readable guard) :
    Behaves conduct payload (toolSearchLines host args input)
      (Value.Readable guard) := by
  refine (argument_behaves "pattern").bind fun pattern _ => ?_
  refine (textLines_behaves readable).bind fun lines _ => ?_
  exact (checkedPattern_behaves pattern lines).bind fun _ _ =>
    Keeps.of_pure trivial

theorem toolFilterLines_behaves (readable : input.Readable guard) :
    Behaves conduct payload (toolFilterLines host args input)
      (Value.Readable guard) := by
  refine (argument_behaves "pattern").bind fun pattern _ => ?_
  refine (textLines_behaves readable).bind fun lines _ => ?_
  exact (checkedPattern_behaves pattern lines).bind fun _ _ =>
    Keeps.of_pure trivial

theorem failure_of_encode
    {text : Text} {error : PyError}
    (refused : host.encode text = .error error) :
    Failure conduct payload error := by
  unfold Host.encode at refused
  split at refused
  · cases refused
  · cases refused
    exact .encoding text

theorem encode_behaves (text : Text) :
    Behaves conduct payload (host.encode text : Action World Bytes)
      (fun _ => True) :=
  Keeps.of_lift (fun _ _ => trivial) fun _ refused => failure_of_encode refused

theorem hashedBytes_behaves (readable : input.Readable guard) :
    Behaves conduct payload (hashedBytes host input) (fun _ => True) := by
  unfold hashedBytes
  split
  · exact (Keeps.mapM fun chunk _ => encode_behaves chunk).bind fun _ _ =>
      Keeps.of_pure trivial
  · obtain ⟨name, valid⟩ := readable
    exact (conduct.behaves (conduct.readFile valid)).mono (fun _ _ => trivial)
      fun _ failure => failure
  · refine (textLines_behaves readable).bind fun lines _ => ?_
    exact (Keeps.mapM fun chunk _ => encode_behaves chunk).bind fun _ _ =>
      Keeps.of_pure trivial

theorem toolHashSha256_behaves (readable : input.Readable guard) :
    Behaves conduct payload (toolHashSha256 host input)
      (Value.Readable guard) :=
  (hashedBytes_behaves readable).bind fun _ _ => Keeps.of_pure trivial

theorem failure_of_writtenBytes
    {value : Value} {error : PyError}
    (refused : writtenBytes host value = .error error) :
    Failure conduct payload error := by
  unfold writtenBytes at refused
  split at refused
  · exact failure_of_encode refused
  · cases refused
    exact .plain (.internal nofun rfl)

/-- The paths at which a step may write. -/
def WritesWhereAllowed
    (conduct : Conduct host guard) (args : List (Text × Json)) : Prop :=
  ∀ path safePath, argument args "path" = .ok path →
    guard.validatePath path = .ok safePath → conduct.writable safePath

theorem toolWriteFile_behaves (allowed : WritesWhereAllowed conduct args) :
    Behaves conduct payload (toolWriteFile host guard args input)
      (Value.Readable guard) := by
  refine (argument_behaves "path").bind fun path given => ?_
  refine (atomicWrite_behaves (fun safePath valid =>
    allowed path safePath given valid) fun _ refused =>
      failure_of_writtenBytes refused).bind fun _ _ => ?_
  exact Keeps.of_pure trivial

theorem plain_of_artifactContent
    {contentKey : Json} {context : Context} {error : PyError}
    (refused : artifactContent contentKey input context = .error error) :
    Plain error := by
  unfold artifactContent at refused
  split at refused
  · split at refused
    · split at refused <;> cases refused
      exact .internal nofun rfl
    · split at refused
      · split at refused <;> cases refused
      · cases refused
  · cases refused

theorem toolWriteArtifact_behaves
    {context : Context} (allowed : WritesWhereAllowed conduct args) :
    Behaves conduct payload
      (toolWriteArtifact host guard args input context)
      (Value.Readable guard) := by
  refine (argument_behaves "path").bind fun path given => ?_
  refine Keeps.bind (Keeps.of_lift (fun _ _ => trivial) fun error refused =>
    .plain (plain_of_artifactContent refused)) fun content _ => ?_
  have writes : ∀ written, Behaves conduct payload
      (do
        atomicWrite host guard path (writtenBytes host written)
        return Value.text (host.str path))
      (Value.Readable guard) := fun written =>
    (atomicWrite_behaves (fun safePath valid =>
      allowed path safePath given valid) fun _ refused =>
        failure_of_writtenBytes refused).bind fun _ _ => Keeps.of_pure trivial
  dsimp only
  split
  · rw [pure_bind]
    exact writes _
  · refine Keeps.bind (Keeps.of_lift (fun _ _ => trivial) fun _ refused =>
      .dumping refused) fun text _ => ?_
    rw [pure_bind]
    exact writes _
  · rw [pure_bind]
    exact writes _

theorem toolBuildReport_behaves :
    Behaves conduct payload
      (toolBuildReport host args input : Action World Value)
      (Value.Readable guard) := by
  refine Keeps.of_lift (fun value built => ?_) fun error refused => ?_
  · unfold toolBuildReport at built
    split at built
    · dsimp only at built
      split at built
      · cases built
        exact trivial
      · split at built
        · split at built <;> cases built
          exact trivial
        · cases built
          exact trivial
    · cases built
      exact trivial
  · unfold toolBuildReport at refused
    split at refused
    · dsimp only at refused
      split at refused
      · cases refused
      · split at refused
        · split at refused <;> cases refused
          exact .plain (.internal nofun rfl)
        · cases refused
    · cases refused

end ToolDispatcher

/-! ## Plans -/

/-- Every value of the context may pass between steps. -/
def Context.Readable (guard : PolicyGuard) (context : Context) : Prop :=
  ∀ key value, context.get? key = some value → value.Readable guard

theorem Context.Readable.set
    {context : Context} {value : Value} (readable : context.Readable guard)
    (valueReadable : value.Readable guard) (key : Text) :
    (context.set key value).Readable guard := by
  intro other found present
  rw [Context.get?_set] at present
  split at present
  · cases present
    exact valueReadable
  · exact readable other found present

theorem Context.readable_initial (initial : TaskContext) :
    Context.Readable guard { initial := initial } := by
  intro key value present
  have nothing : (Dict.empty : Dict Text Value).get? key = none := rfl
  simp only [Context.get?, nothing] at present
  split at present
  · cases present
    exact trivial
  · split at present
    · cases present
      exact trivial
    · split at present
      · obtain ⟨size, _, rfl⟩ := Option.map_eq_some_iff.mp present
        exact trivial
      · cases present

/-- The step reads a short key and writes only where that is allowed. -/
structure Step.Allowed (conduct : Conduct host guard) (step : Step) : Prop where
  short : ∀ key ∈ step.consumes, key.length ≤ 32
  writes : step.tool = .writeFile ∨ step.tool = .writeArtifact →
    ToolDispatcher.WritesWhereAllowed conduct step.args

theorem Step.Allowed.of_reading
    {step : Step} (short : ∀ key ∈ step.consumes, key.length ≤ 32)
    (noFile : step.tool ≠ .writeFile) (noArtifact : step.tool ≠ .writeArtifact) :
    step.Allowed conduct :=
  ⟨short, fun writes => (writes.elim noFile noArtifact).elim⟩

/-- A step of a tool that writes nothing. -/
theorem Step.Allowed.of_tool
    {step : Step} (tool : ToolName) (uses : step.tool = tool)
    (reading : tool ≠ .writeFile ∧ tool ≠ .writeArtifact)
    (short : ∀ key ∈ step.consumes, key.length ≤ 32) :
    step.Allowed conduct := by
  subst uses
  exact .of_reading short reading.1 reading.2

namespace ToolDispatcher

variable {step : Step} {context : Context}

theorem stepInput_behaves
    (short : ∀ key ∈ step.consumes, key.length ≤ 32)
    (readable : context.Readable guard) :
    Behaves conduct payload (stepInput host step context : Action World Value)
      (Value.Readable guard) := by
  unfold stepInput
  cases consumed : step.consumes with
  | none => exact Keeps.of_pure trivial
  | some key =>
    dsimp only
    cases present : context.get? key with
    | some value => exact Keeps.of_pure (readable key value present)
    | none =>
      exact Keeps.of_throw (.missingInput step.tool
        (short key (by simp [consumed])))

theorem runTool_behaves {input : Value}
    (allowed : step.Allowed conduct) (readable : input.Readable guard) :
    Behaves conduct payload (runTool host guard step input context)
      (Value.Readable guard) := by
  unfold runTool
  cases tool : step.tool with
  | readFile => exact toolReadFile_behaves
  | streamRead => exact toolStreamRead_behaves
  | searchLines => exact toolSearchLines_behaves readable
  | filterLines => exact toolFilterLines_behaves readable
  | hashSha256 => exact toolHashSha256_behaves readable
  | buildReport => exact toolBuildReport_behaves
  | writeFile => exact toolWriteFile_behaves (allowed.writes (.inl tool))
  | writeArtifact =>
    exact toolWriteArtifact_behaves (allowed.writes (.inr tool))

theorem executeStep_behaves
    (allowed : step.Allowed conduct) (readable : context.Readable guard) :
    Behaves conduct payload (executeStep host guard step context)
      (fun finished => finished.Readable guard ∧
        finished.initial = context.initial) := by
  refine (stepInput_behaves allowed.short readable).bind fun input given => ?_
  exact (runTool_behaves allowed given).bind fun output made =>
    Keeps.of_pure ⟨readable.set made _, rfl⟩

theorem executeSteps_behaves
    {steps : List Step} (allowed : ∀ step ∈ steps, step.Allowed conduct)
    (readable : context.Readable guard) :
    Behaves conduct payload (executeSteps host guard steps context)
      (fun finished => finished.Readable guard ∧
        finished.initial = context.initial) := by
  induction steps generalizing context with
  | nil => exact Keeps.of_pure ⟨readable, rfl⟩
  | cons step steps inductionHypothesis =>
    rw [List.forall_mem_cons] at allowed
    refine (executeStep_behaves allowed.1 readable).bind fun next kept => ?_
    rw [← kept.2]
    exact inductionHypothesis allowed.2 kept.1

end ToolDispatcher

/-- The artifacts of a task may be written. -/
def ArtifactsAllowed
    (conduct : Conduct host guard) (initial : TaskContext) : Prop :=
  ∀ suffix ∈ [Text.ofString "result.txt", Text.ofString "plan.json"],
    ∀ safePath, guard.validatePath
        (.string (Planner.makeArtifactPath initial suffix)) = .ok safePath →
      conduct.writable safePath

namespace ToolDispatcher

variable {context : Context}

theorem writeFallbackArtifact_behaves
    (artifacts : ArtifactsAllowed conduct context.initial) (content : Bytes) :
    Behaves conduct payload
      (writeFallbackArtifact host guard content context) (fun _ => True) := by
  unfold writeFallbackArtifact
  rw [fallbackPath_eq]
  refine (atomicWrite_behaves (artifacts _ (by simp)) ?_).bind fun _ _ =>
    Keeps.of_pure trivial
  rintro _ ⟨⟩

theorem outcome_behaves
    (policy : OutputPolicy)
    (artifacts : ArtifactsAllowed conduct context.initial) :
    Behaves conduct payload (outcome host guard policy context)
      (fun _ => True) := by
  unfold outcome
  split
  · exact Keeps.of_pure trivial
  · split
    · exact Keeps.of_pure trivial
    · refine (encode_behaves _).bind fun encoded _ => ?_
      dsimp only
      split
      · split
        · exact Keeps.of_throw (.plain (.fixed _ (by decide)))
        · exact Keeps.of_pure trivial
      · split
        · exact (writeFallbackArtifact_behaves artifacts _).bind fun _ _ =>
            Keeps.of_pure trivial
        · exact Keeps.of_pure trivial
      · split
        · exact Keeps.of_pure trivial
        · exact (writeFallbackArtifact_behaves artifacts _).bind fun _ _ =>
            Keeps.of_pure trivial

theorem executePlan_behaves
    {plan : Plan} (allowed : ∀ step ∈ plan.steps, step.Allowed conduct)
    (artifacts : ArtifactsAllowed conduct plan.initialContext) :
    Behaves conduct payload (executePlan host guard plan) (fun _ => True) := by
  refine (executeSteps_behaves allowed
    (Context.readable_initial _)).bind fun context kept => ?_
  rw [← show context.initial = plan.initialContext from kept.2] at artifacts
  refine (outcome_behaves _ artifacts).bind fun result _ => ?_
  split
  · exact Keeps.of_pure trivial
  · exact Keeps.of_pure trivial

end ToolDispatcher

/-! ## Tasks -/

namespace Planner

theorem allowed_of_buildPlan
    {opcode : Int} {taskData : List (Text × Json)} {initial : TaskContext}
    {plan : Plan}
    (planned : buildPlan host opcode taskData initial = .ok plan)
    (target : ∀ safePath,
      opcode = opTaskFilterLines ∨ opcode = opTaskHashAndStore →
      guard.validatePath (Json.get taskData "out_file") = .ok safePath →
      conduct.writable safePath)
    (artifacts : ArtifactsAllowed conduct initial) :
    ∀ step ∈ plan.steps, step.Allowed conduct := by
  obtain ⟨_, _, _, steps, extra, templated, extraSteps, steps_eq⟩ :=
    of_buildPlan planned
  rw [steps_eq, List.forall_mem_append]
  have inputless : ∀ key ∈ (none : Option Text), key.length ≤ 32 := by
    rintro _ ⟨⟩
  have reads : ∀ mode, (readStep taskData mode).Allowed conduct := by
    rintro (_ | _)
    · exact .of_tool .readFile rfl (by decide) inputless
    · exact .of_tool .streamRead rfl (by decide) inputless
  have produced : ∀ mode, ∀ key ∈ some (readStep taskData mode).produces,
      key.length ≤ 32 := by
    rintro (_ | _) _ ⟨⟩
    · change (Text.ofString "file_content").length ≤ 32
      decide
    · change (Text.ofString "file_stream").length ≤ 32
      decide
  have written : ∀ step : Step,
      opcode = opTaskFilterLines ∨ opcode = opTaskHashAndStore →
      (∀ key ∈ step.consumes, key.length ≤ 32) →
      step.args = [(Text.ofString "path", Json.get taskData "out_file")] →
      step.Allowed conduct := by
    intro step writes short args
    refine ⟨short, fun _ path safePath given valid => ?_⟩
    rw [args] at given
    cases given
    exact target safePath writes valid
  constructor
  · rcases of_template templated with
      ⟨_, rfl⟩ | ⟨filter, rfl⟩ | ⟨hash, rfl⟩
    · simp only [templateSearchReport, List.forall_mem_cons]
      refine ⟨reads _, .of_tool .searchLines rfl (by decide) (produced _),
        .of_tool .buildReport rfl (by decide) ?_, by simp⟩
      rintro _ ⟨⟩
      decide
    · unfold templateFilterLines
      dsimp only
      split
      · simp only [List.forall_mem_cons]
        refine ⟨reads _, .of_tool .filterLines rfl (by decide) (produced _),
          written _ (.inl filter) ?_ rfl,
          .of_tool .buildReport rfl (by decide) inputless, by simp⟩
        rintro _ ⟨⟩
        decide
      · simp only [List.forall_mem_cons]
        exact ⟨reads _, .of_tool .filterLines rfl (by decide) (produced _),
          by simp⟩
    · simp only [templateHashAndStore, List.forall_mem_cons]
      refine ⟨.of_tool .streamRead rfl (by decide) inputless,
        .of_tool .hashSha256 rfl (by decide) ?_,
        written _ (.inr hash) ?_ rfl,
        .of_tool .buildReport rfl (by decide) inputless, by simp⟩
      · rintro _ ⟨⟩
        decide
      · rintro _ ⟨⟩
        decide
  · unfold planSteps at extraSteps
    split at extraSteps
    · split at extraSteps
      · cases extraSteps
        rw [List.forall_mem_singleton]
        refine ⟨inputless, fun _ path safePath given valid => ?_⟩
        cases given
        exact artifacts _ (by simp) safePath valid
      · cases extraSteps
        rintro _ ⟨⟩
    · cases extraSteps

end Planner

/-! ## The task handler -/

theorem failure_of_dumpBytes
    {value : Json} {error : PyError}
    (refused : host.dumpBytes value = .error error) :
    Failure conduct payload error := by
  unfold Host.dumpBytes at refused
  cases dumped : host.jsonDumps {} value with
  | error failure =>
    simp only [dumped, bind, Except.bind, Except.error.injEq] at refused
    rw [← refused]
    exact .dumping dumped
  | ok text =>
    simp only [dumped, bind, Except.bind] at refused
    exact ToolDispatcher.failure_of_encode refused

/-- An encoded message is refused for its length, or without a text. -/
theorem refused_of_encodeMessage
    {opcode requestId : Int} {payload : Bytes} {error : PyError}
    (refused : encodeMessage opcode 0 requestId payload = .error error) :
    error = ⟨.valueError, "Payload length " ++ Text.ofInt payload.length ++
        " exceeds max " ++ Text.ofInt maxPayloadLen⟩ ∨
      Plain error := by
  unfold encodeMessage encodeHeader checkHeader at refused
  rw [if_neg (by simp)] at refused
  by_cases tooLong : maxPayloadLen < payload.length
  · simp only [tooLong, if_true, valueError, bind, Except.bind,
      Except.error.injEq] at refused
    exact .inl refused.symm
  · simp only [tooLong, if_false, bind, Except.bind] at refused
    split at refused
    · next failed =>
        split at failed
        · cases failed
        · cases failed
          cases refused
          exact .inr (.internal nofun rfl)
    · cases refused

/-- A payload in mixed mode is its length, its metadata and its content. -/
theorem length_of_mixedModeEncode
    {value : Json} {content encoded : Bytes}
    (serialized : mixedModeEncode host value content = .ok encoded) :
    ∃ metaBytes, host.dumpBytes value = .ok metaBytes ∧
      encoded.length = metaLenSize + metaBytes.length + content.length := by
  unfold mixedModeEncode at serialized
  cases dumped : host.dumpBytes value with
  | error failure =>
    rw [dumped] at serialized
    cases serialized
  | ok metaBytes =>
    have passed : ∀ rest : Bytes → Except PyError Bytes,
        (Except.ok metaBytes >>= rest) = rest metaBytes := fun _ => rfl
    rw [dumped, passed] at serialized
    refine ⟨metaBytes, rfl, ?_⟩
    split at serialized
    · next header packed =>
      have width := BinaryRecord.length_of_pack packed
      have same := Except.ok.inj serialized
      rw [← same, List.length_append, List.length_append, width, metaLenSize]
    · cases serialized
/-- The payload of a response before the fallback. -/
def serialize
    (host : Host World) (dict : Json) (content : Option Bytes) :
    Except PyError Bytes :=
  match content with
  | some binary => mixedModeEncode host dict binary
  | none => host.dumpBytes dict

/-- A response is the message of its payload, or of the fallback. -/
theorem buildResponse_eq
    (opcode requestId : Int) (statusCode : ErrorCode) (value : Json)
    (errorMessage : Option Text) (content : Option Bytes) :
    ResponseBuilder.buildResponse host opcode requestId statusCode value
        errorMessage content =
      match serialize host
          (ResponseBuilder.payloadDict statusCode errorMessage value)
          content with
      | .ok payloadBytes => encodeMessage opcode 0 requestId payloadBytes
      | .error _ =>
          host.dumpBytes ResponseBuilder.fallbackDict >>=
            encodeMessage opcode 0 requestId := by
  unfold ResponseBuilder.buildResponse serialize
  cases content with
  | none =>
    dsimp only
    cases host.dumpBytes
      (ResponseBuilder.payloadDict statusCode errorMessage value) <;> rfl
  | some binary =>
    dsimp only
    cases mixedModeEncode host
      (ResponseBuilder.payloadDict statusCode errorMessage value) binary <;> rfl

/-- What is serialised is as long as its metadata and its content. -/
theorem length_of_serialize
    {value : Json} {content : Option Bytes} {encoded : Bytes}
    (serialized : serialize host value content = .ok encoded) :
    ∃ metaBytes, host.dumpBytes value = .ok metaBytes ∧
      encoded.length ≤
        metaLenSize + metaBytes.length + (content.getD []).length := by
  unfold serialize at serialized
  cases content with
  | none =>
    refine ⟨encoded, serialized, ?_⟩
    rw [Option.getD_none, List.length_nil]
    omega
  | some binary =>
    obtain ⟨metaBytes, dumped, length_eq⟩ :=
      length_of_mixedModeEncode serialized
    exact ⟨metaBytes, dumped, length_eq.le⟩

/-- Building a response fails as serialising fails, or the response is too
long. -/
theorem failure_of_buildResponse
    {opcode requestId : Int} {value : Json} {content : Option Bytes}
    {error : PyError}
    (sound : ∀ bytes ∈ content, conduct.content bytes)
    (refused : ResponseBuilder.buildResponse host opcode requestId .ok value
      none content = .error error) :
    Failure conduct payload error := by
  have tooLong : ∀ {value : Json} {content : Option Bytes} {encoded : Bytes},
      (∃ data, value = ResponseBuilder.payloadDict .ok none data) ∨
        value = ResponseBuilder.fallbackDict →
      (∀ bytes ∈ content, conduct.content bytes) →
      serialize host value content = .ok encoded →
      encodeMessage opcode 0 requestId encoded = .error error →
      Failure conduct payload error := by
    intro value content encoded isResponse sound serialized refused
    obtain ⟨metaBytes, dumped, bounded⟩ := length_of_serialize serialized
    have isRead : content.getD [] = [] ∨ conduct.content (content.getD []) := by
      cases content with
      | none => exact .inl rfl
      | some binary => exact .inr (sound binary rfl)
    rcases refused_of_encodeMessage refused with rfl | isPlain
    · exact .responseTooLong isResponse dumped isRead bounded
    · exact .plain isPlain
  rw [buildResponse_eq] at refused
  split at refused
  · next encoded serialized =>
      exact tooLong (.inl ⟨_, rfl⟩) sound serialized refused
  · cases dumped : host.dumpBytes ResponseBuilder.fallbackDict with
    | error failure =>
      rw [dumped] at refused
      cases refused
      exact failure_of_dumpBytes dumped
    | ok encoded =>
      rw [dumped] at refused
      have serialized : serialize host ResponseBuilder.fallbackDict none =
          .ok encoded := dumped
      exact tooLong (.inr rfl) (by simp) serialized refused

namespace TaskHandler

variable {header : AppHeader} {taskData : List (Text × Json)} {clientId : Text}

theorem failure_of_buildPlan
    {initial : TaskContext} {error : PyError} (isTask : header.IsTask)
    (refused : Planner.buildPlan host header.opcode taskData initial =
      .error error) :
    Failure conduct payload error := by
  unfold Planner.buildPlan at refused
  simp only [bind, Except.bind, pure, Except.pure] at refused
  split at refused
  · next failed =>
      unfold Planner.template at failed
      rcases isTask with opcode | opcode | opcode <;>
        rw [opcode] at failed <;> cases failed
  · split at refused
    · next failed =>
        cases refused
        unfold Planner.planSteps at failed
        split at failed
        · split at failed <;> cases failed
        · cases failed
          exact .plain (.internal nofun rfl)
    · split at refused
      · next failed =>
          cases refused
          exact .dumping failed
      · split at refused
        · next failed =>
            cases refused
            exact ToolDispatcher.failure_of_encode failed
        · cases refused

theorem failure_of_parseTask
    {error : PyError} (refused : parseTask host payload = .error error) :
    Failure conduct payload error := by
  unfold parseTask at refused
  cases decoded : host.decode payload with
  | error failure =>
    rw [decoded] at refused
    cases refused
    unfold Host.decode at decoded
    split at decoded <;> cases decoded
    exact .malformed (.unreadable (.decoding payload))
  | ok text =>
    simp only [decoded, bind, Except.bind] at refused
    split at refused
    · cases refused
    · cases refused
      exact .plain (.fixed _ (by decide))
    · next failed =>
        split at refused
        · cases refused
          exact .plain (.fixed _ (by decide))
        · cases refused
          exact .malformed (.unreadable (.parsing failed))

theorem inputSize_behaves :
    Behaves conduct payload (inputSize host guard taskData)
      (fun _ => True) := by
  unfold inputSize
  split
  · exact Keeps.of_pure trivial
  · refine (ToolDispatcher.validatePath_behaves _).bind fun _ _ => ?_
    refine (ToolDispatcher.exists?_behaves _).bind fun _ _ => ?_
    split
    · exact (conduct.behaves (conduct.getsize _)).bind fun _ _ =>
        Keeps.of_pure trivial
    · exact Keeps.of_pure trivial

/-- The envelope holds the response to a task. -/
def Responds (host : Host World) (header : AppHeader) (envelope : Bytes) :
    Prop :=
  ∃ value, ResponseBuilder.buildResponse host header.opcode header.requestId
    .ok value = .ok envelope

/-- A task behaves when its steps write where that is allowed. -/
theorem performTask_behaves
    (isTask : header.IsTask)
    (target : ∀ safePath,
      header.opcode = opTaskFilterLines ∨
        header.opcode = opTaskHashAndStore →
      guard.validatePath (Json.get taskData "out_file") = .ok safePath →
      conduct.writable safePath)
    (artifacts : ∀ initial : TaskContext, initial.clientId = clientId →
      initial.requestId = Text.ofInt header.requestId →
      ArtifactsAllowed conduct initial) :
    Behaves conduct payload (performTask host guard header taskData clientId)
      (fun result => Responds host header result.1) := by
  unfold performTask
  refine inputSize_behaves.bind fun fileSize _ => ?_
  refine Keeps.bind (Keeps.of_lift (fun _ planned => planned)
    fun _ refused => failure_of_buildPlan isTask refused) fun plan planned => ?_
  have allowed := Planner.allowed_of_buildPlan planned target
    (artifacts _ rfl rfl)
  have initial_eq := (Planner.of_buildPlan planned).2.2.1
  have executes : Behaves conduct payload
      (ToolDispatcher.executePlan host guard
        { plan with initialContext :=
          { plan.initialContext with holdsPlan := true } })
      (fun _ => True) := by
    refine ToolDispatcher.executePlan_behaves allowed (artifacts _ ?_ ?_)
    · rw [initial_eq]
    · rw [initial_eq]
  refine executes.bind fun result _ => ?_
  refine Keeps.bind (Keeps.of_lift (fun _ built => built) fun _ refused =>
    failure_of_buildResponse (by simp) refused) fun envelope built => ?_
  exact Keeps.of_pure ⟨result, built⟩

end TaskHandler

/-! ## Dispatching -/

/-- Every file a task may write is writable: the file it names and its
artifacts. -/
structure TaskWritesAllowed
    (conduct : Conduct host guard) (header : AppHeader) (payload : Bytes) :
    Prop where
  target : ∀ taskData, TaskHandler.parseTask host payload = .ok taskData →
    ∀ safePath,
      header.opcode = opTaskFilterLines ∨ header.opcode = opTaskHashAndStore →
      guard.validatePath (Json.get taskData "out_file") = .ok safePath →
      conduct.writable safePath
  artifacts : ∀ initial : TaskContext,
    initial.clientId = TaskHandler.defaultClient →
    initial.requestId = Text.ofInt header.requestId →
    ArtifactsAllowed conduct initial

namespace Dispatcher

variable {header : AppHeader} {now : Readings} {state : AgentState World}

theorem onWorkspace_ends {α : Type} {handler : Handler}
    {action : Action (Workspace World) α} {returned : α → Prop}
    (serves : Serves conduct handler payload state.workspace returned
      action) :
    Ends (onWorkspace action) state
      (fun value after => returned value ∧
        conduct.invariant after.workspace.world)
      (fun error after => (Failure conduct payload error ∨
          Repeats host guard handler payload state.workspace error) ∧
        conduct.invariant after.workspace.world) := by
  have run : (onWorkspace action).run state =
      ((action.run state.workspace).1,
        { state with workspace := (action.run state.workspace).2 }) := rfl
  unfold Serves at serves
  unfold Ends at serves ⊢
  rw [run]
  generalize action.run state.workspace = result at serves
  obtain ⟨error | value, after⟩ := result <;> exact serves

/-- A handler keeps the conduct, unless a task is answered from the cache. -/
theorem runHandler_ends
    {handler : Handler} (routed : handlers.lookup header.opcode = some handler)
    (holds : conduct.invariant state.workspace.world)
    (unshared : sharedAnswer? host header payload now state.cache = none)
    (allowed : TaskWritesAllowed conduct header payload) :
    Ends (runHandler host guard handler header payload none now) state
      (fun result after => result.Sound conduct header ∧
        conduct.invariant after.workspace.world)
      (fun error after => (Failure conduct payload error ∨
          Repeats host guard handler payload state.workspace error) ∧
        conduct.invariant after.workspace.world) := by
  cases handler with
  | list => exact onWorkspace_ends (handleList_behaves.serves holds)
  | putMeta => exact onWorkspace_ends (handlePutMeta_serves holds)
  | putChunk => exact onWorkspace_ends (handlePutChunk_serves .strict holds)
  | get => exact onWorkspace_ends (handleGet_serves holds)
  | append => exact onWorkspace_ends (handleAppend_serves holds)
  | task =>
    unfold Ends
    rw [runHandler_task]
    simp only [sharedAnswer?, routed, if_true] at unshared
    unfold TaskHandler.sharedAnswer? at unshared
    cases parsed : TaskHandler.parseTask host payload with
    | error error =>
      have run : (TaskHandler.handleTask host guard header payload none now).run
          (state.workspace.world, state.cache) =
          (.error error, state.workspace.world, state.cache) := by
        simp [TaskHandler.handleTask, ExceptT.run, ExceptT.mk, parsed]
      rw [run]
      exact ⟨.inl (TaskHandler.failure_of_parseTask parsed), holds⟩
    | ok taskData =>
      simp only [parsed] at unshared
      rw [TaskHandler.handleTask_of_parsed host guard parsed unshared]
      have behaves : Behaves conduct payload
          (TaskHandler.performTask host guard header taskData
            TaskHandler.defaultClient)
          (fun result => TaskHandler.Responds host header result.1) :=
        TaskHandler.performTask_behaves (header.isTask_iff.mpr routed)
          (allowed.target taskData parsed) allowed.artifacts
      have ends := behaves state.workspace.world holds
      unfold Ends at ends
      unfold TaskHandler.performAndStore
      simp only [ExceptT.run, ExceptT.mk] at ends ⊢
      generalize TaskHandler.performTask host guard header taskData
        TaskHandler.defaultClient state.workspace.world = performed at ends ⊢
      obtain ⟨error | ⟨envelope, sideEffects⟩, world⟩ := performed
      · exact ⟨.inl ends.1, ends.2⟩
      · exact ends

end Dispatcher

end RudpAgentStack

import RudpAgentStack.Agent.Envelopes
import RudpAgentStack.Agent.LargeReports

/-!
# Responses to tasks fit their envelope

The size of a final output is checked on its UTF-8 form, and the response has
it as an ASCII text in which characters are escaped.  Escaping makes six
characters of a byte at most, so a response with an inline output is never too
long for an envelope.
-/

namespace RudpAgentStack

open Foundation

variable {World : Type} {host : Host World} {guard : PolicyGuard}

/-! ## Lengths of responses -/

/-- `json.dumps` writes a response whose data are texts by their names. -/
def WritesResponses (host : Host World) : Prop :=
  ∀ members : List (Text × Text),
    host.jsonDumps {} (ResponseBuilder.payloadDict .ok none
        (.object (members.map fun (key, text) => (key, .string text)))) =
      .ok ((ResponseBuilder.payloadDict .ok none
        (.object (members.map fun (key, text) =>
          (key, .string text)))).write false)

/-- What a response without an error has before its data. -/
def responseStart : Text :=
  "\x7b\"status\": 200, \"error\": null, \"data\": "

theorem write_response (data : Json) :
    (ResponseBuilder.payloadDict .ok none data).write false =
      responseStart ++ data.write false ++ Text.ofString "\x7d" := by
  have start : Text.ofString "\x7b\"status\": " ++ Text.ofInt 200 ++
      Text.ofString ", \"error\": " ++ Json.write false .null ++
      Text.ofString ", \"data\": " = responseStart := by decide
  rw [← start]
  exact write_responseDict 200 .null data

/-- The text of an object with one member. -/
theorem write_object_single (key text : Text) :
    (Json.object [(key, .string text)]).write false =
      Text.ofString "\x7b" ++ (Json.writeString key ++ Text.ofString ": " ++
        Json.writeString text) ++ Text.ofString "\x7d" := by
  simp [Json.write, Json.writeMembers, Text.join]

/-- A response with short data in ASCII is serialised and encoded. -/
theorem ResponseBuilder.buildResponse_of_written
    {opcode requestId : Int} {data : Json}
    (encodable : Encodable opcode requestId)
    (written : host.jsonDumps {} (payloadDict .ok none data) =
      .ok ((payloadDict .ok none data).write false))
    (ascii : Text.Ascii (data.write false))
    (fits : (data.write false).length ≤ 1048000) :
    ∃ payload message,
      host.dumpBytes (payloadDict .ok none data) = .ok payload ∧
      buildResponse host opcode requestId .ok data = .ok message ∧
      message.drop headerSize = payload ∧
      (payload.length : Int) ≤ maxPayloadLen := by
  rw [write_response] at written
  have allAscii : Text.Ascii (responseStart ++ data.write false ++
      Text.ofString "\x7d") :=
    ((Text.ascii_of_all (by decide)).append ascii).append
      (Text.ascii_of_all (by decide))
  obtain ⟨payload, encoded, length_eq⟩ := Text.encodeUtf8_of_ascii allAscii
  have dumped : host.dumpBytes (payloadDict .ok none data) = .ok payload := by
    rw [Host.dumpBytes, written]
    change host.encode _ = _
    rw [Host.encode, encoded]
  have short : (payload.length : Int) ≤ maxPayloadLen := by
    have start : responseStart.length = 39 := rfl
    have limit : maxPayloadLen = 1048576 := rfl
    have last : (Text.ofString "\x7d").length = 1 := rfl
    simp only [length_eq, List.length_append, start, last, limit]
    omega
  obtain ⟨message, built⟩ := encodeMessage_of_length encodable short
  refine ⟨payload, message, dumped, ?_, (frame?_of_encodeMessage built).2, short⟩
  rw [← built]
  unfold buildResponse
  dsimp only
  rw [dumped]
  rfl

/-- The response with a text under a name is encoded, if both are not too
long. -/
theorem ResponseBuilder.buildResponse_of_single
    (writes : WritesResponses host) {opcode requestId : Int}
    (encodable : Encodable opcode requestId) {key text : Text}
    (shortKey : (Json.writeString key).length ≤ 64)
    (fits : (Json.writeString text).length ≤ 1047900) :
    ∃ payload message,
      host.dumpBytes (payloadDict .ok none (.object [(key, .string text)])) =
        .ok payload ∧
      buildResponse host opcode requestId .ok
        (.object [(key, .string text)]) = .ok message ∧
      message.drop headerSize = payload ∧
      (payload.length : Int) ≤ maxPayloadLen := by
  have written : host.jsonDumps {}
      (payloadDict .ok none (.object [(key, .string text)])) = .ok _ :=
    writes [(key, text)]
  apply buildResponse_of_written encodable written
  · apply Json.write_object_ascii
    rw [List.forall_mem_singleton]
    exact Json.write_string_ascii false text
  · have braces : (Text.ofString "\x7b").length = 1 ∧
        (Text.ofString "\x7d").length = 1 ∧
        (Text.ofString ": ").length = 2 := ⟨rfl, rfl, rfl⟩
    simp only [write_object_single, List.length_append, braces]
    omega

namespace TaskHandler

variable {header : AppHeader} {taskData : List (Text × Json)}
  {clientId : Text} {world after : World} {output : Text} {finished : Context}

/-- A task that finishes was not asked for its plan, so none was written. -/
theorem Finishes.noPlanArtifact
    (finishes : Finishes host guard header taskData clientId world output
      finished after) :
    finished.get? "plan_artifact_path" = none := by
  obtain ⟨plan, between, planned, executed, _⟩ := finishes
  obtain ⟨fileSize, _, _, lifted⟩ := run_bind_eq_ok_iff.mp planned
  have templated := ToolDispatcher.template_of_executeSteps
    (run_lift_eq_ok_iff.mp lifted).1 executed
  rw [ToolDispatcher.get?_of_executeSteps executed]
  · rfl
  rcases Planner.of_template templated with
    ⟨_, steps⟩ | ⟨_, steps⟩ | ⟨_, steps⟩
  · rw [steps]
    cases Planner.modeFor _ <;>
      simp [Planner.templateSearchReport, Planner.readStep] <;> decide
  · rw [steps, Planner.templateFilterLines]
    split <;> cases Planner.modeFor _ <;>
      simp [Planner.readStep] <;> decide
  · rw [steps, Planner.templateHashAndStore]
    simp
    decide

/-- The result of a task that finishes: its output if that is short, and else
the path of an artifact, for which only writing the artifact may raise. -/
theorem Finishes.taskResult_ends
    (finishes : Finishes host guard header taskData clientId world output
      finished after)
    (valid : ∀ point ∈ output, Text.isSurrogate point = false) :
    Ends (taskResult host guard header taskData clientId) world
      (fun result _ =>
        if output = [] then result = .object []
        else if (output.flatMap Text.encodePoint).length ≤ inlineLimit then
          result = .object [(Text.ofString "output", .string output)]
        else result = .object [(Text.ofString "artifact_path",
          .string (resultPath clientId header))])
      (fun _ _ =>
        inlineLimit < (output.flatMap Text.encodePoint).length) := by
  have noPlan := finishes.noPlanArtifact
  have path_eq := finishes.path_eq
  obtain ⟨plan, between, planned, executed, found⟩ := finishes
  obtain ⟨fileSize, _, _, lifted⟩ := run_bind_eq_ok_iff.mp planned
  have policy := (Planner.of_buildPlan (run_lift_eq_ok_iff.mp lifted).1).2.1
  unfold taskResult
  rw [Ends.bind_iff, Ends.of_run_ok planned,
    ToolDispatcher.executePlan_ends_iff executed, noPlan]
  simp only [Option.map_none, Option.toList_none, List.append_nil, policy]
  unfold ToolDispatcher.outcome
  rw [found]
  by_cases empty : output = []
  · subst empty
    exact rfl
  have isTruthy : (Value.text output).truthy = true := by
    simpa [Value.truthy] using empty
  have encodes : host.encode ((Value.text output).str host) =
      .ok (output.flatMap Text.encodePoint) := by
    change host.encode output = _
    rw [Host.encode, Text.encodeUtf8_eq_some_iff.mpr ⟨valid, rfl⟩]
  simp only [isTruthy, Bool.true_eq_false, if_false, encodes, if_neg empty]
  refine Ends.bind_lift (fun encoded given => ?_) (fun error failed => ?_)
  · cases given
    split
    · exact rfl
    · next long =>
        rw [Ends.bind_iff]
        refine Ends.iff_forall.mpr
          ⟨fun path left written => ?_, fun _ _ _ => ?_⟩
        · obtain ⟨rfl, _⟩ := ToolDispatcher.of_writeFallbackArtifact written
          rw [path_eq]
          exact rfl
        · exact not_le.mp long
  · cases failed

/-- The name of an artifact is little longer than the client id. -/
theorem length_resultPath_le (clientId : Text)
    (encodable : Encodable header.opcode header.requestId) :
    (resultPath clientId header).length ≤ clientId.length + 32 := by
  obtain ⟨requestId, isNatural⟩ :=
    Int.eq_ofNat_of_zero_le encodable.requestId.1
  have digits : (Text.ofInt header.requestId).length ≤ 10 := by
    rw [isNatural]
    apply Text.length_ofInt_le (by decide)
    have bound := encodable.requestId.2
    rw [isNatural] at bound
    omega
  have parts : artifactDir.length = 9 ∧ (Text.ofString "/").length = 1 ∧
      (Text.ofString "_").length = 1 ∧
      (Text.ofString "result.txt").length = 10 := ⟨rfl, rfl, rfl, rfl⟩
  simp only [resultPath, Planner.makeArtifactPath, List.length_append, parts]
  omega

/-- The response with the result of a task is encoded, and its payload is not
too long for the envelope. -/
def Fits (host : Host World) (header : AppHeader) (result : Json) : Prop :=
  ∃ payload message,
    host.dumpBytes (ResponseBuilder.payloadDict .ok none result) =
      .ok payload ∧
    ResponseBuilder.buildResponse host header.opcode header.requestId .ok
      result = .ok message ∧
    message.drop headerSize = payload ∧
    (payload.length : Int) ≤ maxPayloadLen

/-- The response to a task that finishes fits its envelope.  A task whose output
is short enough to be inline does not raise; an output that is not is named by
its artifact, and so by the address of the client. -/
theorem inline_response_fits
    (finishes : Finishes host guard header taskData clientId world output
      finished after)
    (encodable : Encodable header.opcode header.requestId)
    (writes : WritesResponses host)
    (valid : ∀ point ∈ output, Text.isSurrogate point = false)
    (addressed : inlineLimit < (output.flatMap Text.encodePoint).length →
      clientId.length ≤ 65536) :
    (∀ result left,
      (taskResult host guard header taskData clientId).run world =
        (.ok result, left) →
      Fits host header result) ∧
    (∀ error left,
      (taskResult host guard header taskData clientId).run world =
        (.error error, left) →
      inlineLimit < (output.flatMap Text.encodePoint).length) := by
  obtain ⟨returns, raises⟩ :=
    Ends.iff_forall.mp (finishes.taskResult_ends valid)
  refine ⟨fun result left performed => ?_, raises⟩
  have returned := returns result left performed
  split at returned
  · subst returned
    have written : host.jsonDumps {}
        (ResponseBuilder.payloadDict .ok none (.object [])) = .ok _ := writes []
    have braces : (Json.object []).write false = Text.ofString "\x7b\x7d" := by
      simp [Json.write, Json.writeMembers, Text.join]
      decide
    apply ResponseBuilder.buildResponse_of_written encodable written
    · rw [braces]
      exact Text.ascii_of_all (by decide)
    · rw [braces]
      decide
  split at returned
  · next short =>
      subst returned
      apply ResponseBuilder.buildResponse_of_single writes encodable
      · decide
      · have escaped := Json.length_writeString_le output
        have limit : inlineLimit = 65536 := rfl
        omega
  · next long =>
      subst returned
      apply ResponseBuilder.buildResponse_of_single writes encodable
      · decide
      · have escaped :=
          (Json.length_writeString (resultPath clientId header)).2
        have named := length_resultPath_le clientId encodable
        have short := addressed (not_le.mp long)
        omega

end TaskHandler

/-! ## A report on a short line -/

namespace Sample

theorem writesResponses_searchHost : WritesResponses searchHost := fun _ => rfl

/-- The response to a search that finds a line of a hundred characters. -/
theorem inline_response_fits_longLine :
    (∀ result left,
      (TaskHandler.taskResult searchHost policyGuard (searchHeader 1) linesData
        TaskHandler.defaultClient).run (longFiles 100) = (.ok result, left) →
      TaskHandler.Fits searchHost (searchHeader 1) result) ∧
    (∀ error left,
      (TaskHandler.taskResult searchHost policyGuard (searchHeader 1) linesData
        TaskHandler.defaultClient).run (longFiles 100) = (.error error, left) →
      inlineLimit < ((longReport 100).flatMap Text.encodePoint).length) := by
  have executed : ∃ finished, TaskHandler.Finishes searchHost policyGuard
      (searchHeader 1) linesData TaskHandler.defaultClient (longFiles 100)
      (longReport 100) finished (longFiles 100) :=
    finishes_linesData _ rfl (longFiles_holdsLine 100) (by decide)
  obtain ⟨finished, finishes⟩ := executed
  have short : TaskHandler.defaultClient.length ≤ 65536 := by decide
  exact TaskHandler.inline_response_fits finishes ⟨by decide, by decide⟩
    writesResponses_searchHost (longReport_ascii 100).valid fun _ => short

end Sample

end RudpAgentStack

import RudpAgentStack.Client.TaskHandler

/-!
# Which reports reach the caller

A search that the server carries out ends in a report.  The caller of the
client's `TaskHandler` is given the report exactly when its encoding is short
enough to be returned inline.
-/

namespace RudpAgentStack

open Foundation

variable {World State : Type} {host : Host World} {guard : PolicyGuard}

/-! ## Responses with one text -/

namespace ResponseBuilder

/-- The object of a response whose data has one text. -/
abbrev textDict (key text : Text) : Json :=
  statusDict 200 none (.object [(key, .string text)])

theorem write_textDict (key text : Text) :
    (textDict key text).write false =
      Text.ofString "\x7b\"status\": 200, \"error\": null, \"data\": \x7b" ++
        Json.writeString key ++ Text.ofString ": " ++ Json.writeString text ++
        Text.ofString "\x7d\x7d" := by
  rw [textDict, statusDict, write_responseDict]
  simp only [Json.write, Json.writeMembers, Bool.false_eq_true, if_false,
    List.map_cons, List.map_nil, Text.join, List.intercalate_singleton,
    List.append_assoc]
  rfl

theorem textDict_ascii (key text : Text) :
    Text.Ascii ((textDict key text).write false) := by
  have dataAscii : Text.Ascii
      (Json.write false (.object [(key, .string text)])) := by
    apply Json.write_object_ascii
    simp
  apply Json.write_object_ascii
  simp [dataAscii]

theorem length_write_textDict (key text : Text) :
    ((textDict key text).write false).length ≤
      12 * (key.length + text.length) + 60 := by
  have start : (Text.ofString
      "\x7b\"status\": 200, \"error\": null, \"data\": \x7b").length = 40 := by
    decide
  have colon : (Text.ofString ": ").length = 2 := by decide
  have finish : (Text.ofString "\x7d\x7d").length = 2 := by decide
  have keyWritten := (Json.length_writeString key).2
  have textWritten := (Json.length_writeString text).2
  rw [write_textDict]
  simp only [List.length_append, start, colon, finish]
  omega

end ResponseBuilder

/-- A value is written on one line and read back. -/
structure Host.Transfers (host : Host World) (value : Json) : Prop where
  dumps : host.jsonDumps {} value = .ok (value.write false)
  loads : host.jsonLoads (value.write false) = .ok value

namespace ResponseBuilder

/-- A response with a short text is built, and the client reads it. -/
theorem exists_textResponse
    (braces : host.BracesObjects) {key text : Text}
    (transfers : host.Transfers (textDict key text))
    (short : 12 * (key.length + text.length) + 60 ≤ 1048576)
    {opcode requestId : Int} (encodable : Encodable opcode requestId) :
    ∃ response header,
      buildResponse host opcode requestId .ok (.object [(key, .string text)]) =
        .ok response ∧
      frame? response = some header ∧ header.requestId = requestId ∧
      AgentClient.decodePayload host (response.drop headerSize) =
        .ok ⟨.int 200, textDict key text, none⟩ := by
  obtain ⟨payload, encoded, length_eq⟩ :=
    Text.encodeUtf8_of_ascii (textDict_ascii key text)
  have serialized : serialize host 200 (.object [(key, .string text)]) none
      none = .ok payload := by
    change host.dumpBytes (textDict key text) = .ok payload
    rw [Host.dumpBytes, transfers.dumps]
    change host.encode _ = _
    rw [Host.encode, encoded]
  have fits : (payload.length : Int) ≤ maxPayloadLen := by
    have written := length_write_textDict key text
    have limit : maxPayloadLen = 1048576 := rfl
    omega
  obtain ⟨response, built⟩ := encodeMessage_of_length encodable fits
  obtain ⟨framed, payload_eq⟩ := frame?_of_encodeMessage built
  have readsBack : host.ReadsBack (textDict key text) := by
    intro other dumped
    cases transfers.dumps.symm.trans dumped
    exact transfers.loads
  refine ⟨response, _, ?_, framed, rfl, ?_⟩
  · have sameStatus : serialize host ErrorCode.ok.value
        (.object [(key, .string text)]) none none = .ok payload := serialized
    rw [buildResponse_eq, buildStatusResponse, sameStatus]
    exact built
  · rw [payload_eq]
    exact AgentClient.decodePayload_of_serialize braces readsBack serialized
      fits

end ResponseBuilder

/-! ## A search over a working transport -/

namespace AgentClient.TaskHandler

/-- The client's request reaches the server, which performs the search, and
the transport brings the answer back. -/
structure Served
    (host : Host World) (guard : PolicyGuard)
    (transport : ClientTransport State) (client : AgentClient State)
    (kwargs : List (Text × Json)) (state : AgentState World) (call : Call)
    (header : AppHeader) (taskData : List (Text × Json)) (after : State) :
    Prop where
  sent : ∃ payload,
    payloadOf host (buildRequest opTaskSearchReport kwargs) = .ok payload ∧
      encodeMessage opTaskSearchReport 0 client.nextId payload = .ok call.data
  performs : AgentServer.Performs host state call header taskData
  delivers : transport.Delivers client.nextId call.data
    (AgentServer.serve host guard state call).1 client.world after

variable {transport : ClientTransport State}
  {saveFile : Text → Bytes → Action State Unit} {client : AgentClient State}
  {kwargs taskData : List (Text × Json)} {state : AgentState World}
  {call : Call} {header : AppHeader} {after : State}

theorem Served.header_eq
    (served : Served host guard transport client kwargs state call header
      taskData after) :
    header.opcode = opTaskSearchReport ∧ header.requestId = client.nextId := by
  obtain ⟨payload, _, encoded⟩ := served.sent
  have framed := (frame?_of_encodeMessage encoded).1
  cases framed.symm.trans served.performs.framed
  exact ⟨rfl, rfl⟩

/-- When the result of the search is one short text, the client goes on with
the response that has it. -/
theorem Served.run_eq
    (served : Served host guard transport client kwargs state call header
      taskData after)
    (braces : host.BracesObjects) {key text : Text} {left : World}
    (performed : (TaskHandler.taskResult host guard header
      taskData TaskHandler.defaultClient).run
        state.workspace.world = (.ok (.object [(key, .string text)]), left))
    (transfers : host.Transfers (ResponseBuilder.textDict key text))
    (short : 12 * (key.length + text.length) + 60 ≤ 1048576) :
    (run host transport saveFile opTaskSearchReport kwargs).run client =
      (finish saveFile ⟨.int 200, ResponseBuilder.textDict key text,
        none⟩).run
          { currentId := client.currentId + 1
            activeOverride := none
            world := after } := by
  obtain ⟨search, sameId⟩ := served.header_eq
  obtain ⟨payload, payloaded, encoded⟩ := served.sent
  obtain ⟨response, responseHeader, built, framed, answers, read⟩ :=
    ResponseBuilder.exists_textResponse braces transfers short
      (of_frame? served.performs.framed).1
  have answer := (served.performs.serve_eq performed built).1
  have delivers := served.delivers
  rw [answer] at delivers
  have sent := sendRequestSpec_run payloaded encoded delivers framed
    (answers.trans sameId) read
  rw [run, run_bind, attempted_run, sent]

/-- The name of an artifact is short. -/
theorem length_resultPath
    {requestId : Int} (range : 0 ≤ requestId ∧ requestId < 256 ^ 4)
    (same : header.requestId = requestId) :
    (TaskHandler.resultPath
      TaskHandler.defaultClient header).length ≤ 46 := by
  obtain ⟨number, number_eq⟩ := Int.eq_ofNat_of_zero_le range.1
  have small : number < 10 ^ 10 := by
    have bound := range.2
    rw [number_eq] at bound
    have below : number < 256 ^ 4 := by exact_mod_cast bound
    exact below.trans (by decide)
  have digits : (Text.ofInt number).length ≤ 10 :=
    Text.length_ofInt_le (by decide) small
  have named : TaskHandler.resultPath TaskHandler.defaultClient header =
      Text.ofString "artifacts/default_client/" ++ Text.ofInt number ++
        Text.ofString "_result.txt" := by
    rw [TaskHandler.resultPath, same, number_eq, Planner.makeArtifactPath]
    simp only [List.append_assoc]
    rfl
  have start : (Text.ofString "artifacts/default_client/").length = 25 := by
    decide
  have suffix : (Text.ofString "_result.txt").length = 11 := by decide
  rw [named, List.length_append, List.length_append, start, suffix]
  omega

/-- A search over a working transport gives the caller its report exactly when
the UTF-8 form of the report has at most 64 KiB. -/
theorem run_gives_iff
    {content : State → Contents} {report : Text} {finished : Context}
    {result : Json} {between left : World}
    (braces : host.BracesObjects)
    (served : Served host guard transport client kwargs state call header
      taskData after)
    (finishes : TaskHandler.Finishes host guard header taskData
      TaskHandler.defaultClient state.workspace.world report
      finished between)
    (performed : (TaskHandler.taskResult host guard header
      taskData TaskHandler.defaultClient).run
        state.workspace.world = (.ok result, left))
    (transfers : host.Transfers
      (ResponseBuilder.statusDict 200 none result)) :
    Gives content report
        ((run host transport saveFile opTaskSearchReport kwargs).run client) ↔
      (report.flatMap Text.encodePoint).length ≤ inlineLimit := by
  obtain ⟨search, sameId⟩ := served.header_eq
  obtain ⟨encoded, encodes, result_eq⟩ := finishes.result_eq search performed
  have length_eq : report.flatMap Text.encodePoint = encoded := by
    rw [Host.encode] at encodes
    split at encodes
    · next given =>
        cases encodes
        exact (Text.encodeUtf8_eq_some_iff.mp given).2
    · cases encodes
  rw [length_eq]
  split at result_eq
  · next short =>
      subst result_eq
      have points : report.length ≤ encoded.length :=
        length_eq ▸ Text.length_le_flatMap_encodePoint report
      have limit : inlineLimit = 65536 := rfl
      have key : (Text.ofString "output").length = 6 := rfl
      refine iff_of_true ?_ short
      rw [served.run_eq braces performed transfers (by omega), finish_output]
      exact ⟨_, _, rfl, rfl, rfl, .inl ⟨_, rfl, rfl⟩⟩
  · next long =>
      subst result_eq
      have named := length_resultPath
        (of_frame? served.performs.framed).1.requestId rfl
      have key : (Text.ofString "artifact_path").length = 13 := rfl
      have nonempty : TaskHandler.resultPath TaskHandler.defaultClient header ≠
          [] := List.cons_ne_nil _ _
      refine iff_of_false ?_ long
      rw [served.run_eq braces performed transfers (by omega),
        finish_artifact nonempty]
      rintro ⟨_, members, ⟨⟩, status, _⟩
      cases status

end AgentClient.TaskHandler

/-! ## Searches of a sample server -/

namespace Sample

/-- The state of the transport: the server, and the answers it has sent. -/
abbrev ServerLink : Type := AgentState MemoryHost.Files × List Bytes

/-- An asynchronous transport to a server that answers without loss. -/
def serverLink : ClientTransport ServerLink where
  isAsync := true
  send := fun message _ => modify fun (state, answers) =>
    let (response, state) := AgentServer.serve searchHost policyGuard state
      ⟨"10.0.0.1:5000", message, instant 0⟩
    (state, answers ++ [response])
  delivered := do
    let (state, answers) ← get
    set (state, ([] : List Bytes))
    return answers
  sendBytes := fun _ => throw ⟨.attributeError, "no attribute 'send_bytes'"⟩
  receiveExact := fun _ =>
    throw ⟨.attributeError, "no attribute 'receive_exact'"⟩
  close := pure ()

/-- A new client of a new server. -/
def searchClient (files : MemoryHost.Files) : AgentClient ServerLink where
  world := (AgentServer.new files, [])

/-- The first search of the client is served. -/
theorem searchClient_served (files : MemoryHost.Files) :
    AgentClient.TaskHandler.Served searchHost policyGuard serverLink
      (searchClient files) linesData (AgentServer.new files)
      (searchCall "10.0.0.1:5000" 1) (searchHeader 1) linesData
      ((AgentServer.serve searchHost policyGuard (AgentServer.new files)
        (searchCall "10.0.0.1:5000" 1)).2, []) where
  sent := ⟨_, rfl, rfl⟩
  performs := ⟨searches_one.framed, .inl rfl, rfl, searches_one.parsed, rfl⟩
  delivers := ⟨fun _ => ⟨_, rfl, rfl⟩, nofun⟩

end Sample

namespace AgentClient.TaskHandler

open Sample

/-- A search that finds a short line gives the caller its report. -/
theorem run_gives_iff_shortReport :
    Gives (fun _ _ => none) shortReport
      ((run searchHost serverLink (fun _ _ => pure ()) opTaskSearchReport
        linesData).run (searchClient Sample.files)) := by
  have executed : ∃ finished, TaskHandler.Finishes searchHost policyGuard
      (searchHeader 1) linesData TaskHandler.defaultClient Sample.files
      shortReport finished Sample.files := ⟨_, _, _, rfl, rfl, rfl⟩
  obtain ⟨finished, finishes⟩ := executed
  exact (run_gives_iff (memoryHost_bracesObjects _ _)
    (searchClient_served Sample.files) finishes rfl ⟨rfl, rfl⟩).mpr
      (by decide)

/-- A search that finds a line of 64 KiB finishes, and its result is an
artifact, but the caller is given nothing. -/
theorem not_gives_longReport :
    ∃ finished left,
      TaskHandler.Finishes searchHost policyGuard (searchHeader 1) linesData
        TaskHandler.defaultClient (longFiles 65536) (longReport 65536) finished
        (longFiles 65536) ∧
      (TaskHandler.taskResult searchHost policyGuard (searchHeader 1) linesData
        TaskHandler.defaultClient).run (longFiles 65536) =
          (.ok (.object [(Text.ofString "artifact_path",
            .string "artifacts/default_client/1_result.txt")]), left) ∧
      ¬ Gives (fun _ _ => none) (longReport 65536)
        ((run searchHost serverLink (fun _ _ => pure ()) opTaskSearchReport
          linesData).run (searchClient (longFiles 65536))) := by
  obtain ⟨safePath, valid, elsewhere⟩ := searches_one.valid
  have executed : ∃ finished, TaskHandler.Finishes searchHost policyGuard
      (searchHeader 1) linesData TaskHandler.defaultClient (longFiles 65536)
      (longReport 65536) finished (longFiles 65536) :=
    finishes_linesData _ rfl (longFiles_holdsLine 65536) (by decide)
  obtain ⟨finished, finishes⟩ := executed
  obtain ⟨left, performed, _⟩ := taskResult_linesData _ rfl
    (longFiles_holdsLine 65536) (by decide) (by decide) valid elsewhere
  have nonempty : TaskHandler.resultPath TaskHandler.defaultClient
      (searchHeader 1) ≠ [] := List.cons_ne_nil _ _
  refine ⟨finished, left, finishes, performed, ?_⟩
  rw [(searchClient_served (longFiles 65536)).run_eq
    (memoryHost_bracesObjects _ _) performed ⟨rfl, rfl⟩ (by decide),
    finish_artifact nonempty]
  rintro ⟨_, members, ⟨⟩, status, _⟩
  cases status

end AgentClient.TaskHandler

end RudpAgentStack

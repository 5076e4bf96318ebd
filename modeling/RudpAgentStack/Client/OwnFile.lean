import RudpAgentStack.Client.SerialExecution
import RudpAgentStack.Client.UploadRequests

/-!
# What a client knows of its file

A client executes operations one after the other over RUDP, and no other client
changes the content of one of its files.  From the results of its operations it
then knows the content: what was appended with success is there once, and a GET
returns it.  Only a failed change leaves the content open until the next upload
of the file is started.
-/

namespace RudpAgentStack

open Foundation RequestLink AgentClient

/-! ## What operations tell -/

/-- The name of a file in the sandbox stands for a path. -/
def PolicyGuard.Names (guard : PolicyGuard) (filename path : Text) : Prop :=
  (guard.validatePath (.string filename)).toOption = some path

instance (guard : PolicyGuard) (filename path : Text) :
    Decidable (guard.Names filename path) :=
  inferInstanceAs (Decidable (_ = some path))

theorem PolicyGuard.names_iff
    {guard : PolicyGuard} {filename path : Text} :
    guard.Names filename path ↔
      guard.validatePath (.string filename) = .ok path := by
  unfold Names
  cases guard.validatePath (.string filename) with
  | error error => simp [Except.toOption]
  | ok other => simp [Except.toOption]

/-- What is known of the content of a file after an operation, from what was
known before and whether the operation has succeeded. -/
def FileOperation.learn
    (guard : PolicyGuard) (path : Text) (known : Option Bytes)
    (succeeded : Bool) : FileOperation → Option Bytes
  | .get _ | .list => known
  | .append filename data =>
      if guard.Names filename path then
        if succeeded then known.map (· ++ data) else none
      else known
  | .putMeta filename _ overwrite =>
      if guard.Names filename path then
        if succeeded then some []
        else if overwrite then none else known
      else known
  -- a chunk is for the file of its upload, whichever that is
  | .putChunk _ _ _ => none

/-- What is known after operations with their results. -/
def knownAfter (guard : PolicyGuard) (path : Text) (known : Option Bytes) :
    List (FileOperation × ExecuteResult) → Option Bytes
  | [] => known
  | (operation, result) :: executed =>
      knownAfter guard path
        (operation.learn guard path known (result.status.equalsInt 200))
        executed

/-- The metadata of a file that was appended to. -/
def sizeInfo (filename : Text) (size : Int) : Json :=
  .object [("filename", .string filename), ("new_size", .int size)]

/-- What the client is told by the result of an operation on a file it knows:
a GET returns the content if its response can be sent, and fails otherwise; an
APPEND that succeeds returns the new size. -/
structure FileOperation.Tells
    {World : Type} (host : Host World) (guard : PolicyGuard) (path : Text)
    (known : Option Bytes) (operation : FileOperation)
    (result : ExecuteResult) : Prop where
  got : ∀ filename content, operation = .get filename →
    guard.Names filename path → known = some content →
    (content.length : Int) ≤ maxFileSize →
      (Sendable host (fileInfo filename content) (some content) →
        result = { status := .int 200, data := some (.bytes content) }) ∧
      (¬ Sendable host (fileInfo filename content) (some content) →
        result.status.equalsInt 200 = false)
  appended : ∀ filename data content, operation = .append filename data →
    guard.Names filename path → known = some content →
    result.status.equalsInt 200 = true →
      result = {
        status := .int 200
        data := some (.json (ResponseBuilder.statusDict 200 none
          (sizeInfo filename (content ++ data).length))) }

variable {World : Type} {host : Host World} {guard : PolicyGuard}
  {clientId : Text}

/-! ## The handlers -/

section Server

variable (files : FileSystem host) (path : Text)

/-- The content is known correctly. -/
def Agrees (known : Option Bytes) (workspace : Workspace World) : Prop :=
  ∀ content, known = some content →
    files.content workspace.world path = some content

/-- The client is answered, and other clients leave the content of its file
alone. -/
def Private
    (guard : PolicyGuard) (clientId : Text)
    (state : AgentState World) (call : Call) : Prop :=
  AnswersClient host guard clientId state call ∧
    (call.clientId ≠ clientId →
      files.content
          (AgentServer.serve host guard state call).2.workspace.world path =
        files.content state.workspace.world path)

instance (state : AgentState World) (call : Call) :
    Decidable (Private files path guard clientId state call) :=
  inferInstanceAs (Decidable (_ ∧ (_ → _ = _)))

/-- What a handler replies to an operation, and what it leaves. -/
structure Taught
    (guard : PolicyGuard) (known : Option Bytes) (operation : FileOperation)
    (reply : Except PyError HandlerResult) (workspace : Workspace World) :
    Prop where
  agrees : ∀ succeeded, (succeeded = true → reply.toBool = true) →
    Agrees files path (operation.learn guard path known succeeded) workspace
  sent : ∀ filename content, operation = .get filename →
    guard.Names filename path → known = some content →
    (content.length : Int) ≤ maxFileSize →
      reply = .ok (.data (fileInfo filename content) (some content))
  extended : ∀ filename data content value,
    operation = .append filename data → guard.Names filename path →
    known = some content → reply = .ok value →
      value = .data (sizeInfo filename (content ++ data).length) none

variable {files path} {known : Option Bytes} {workspace : Workspace World}

theorem Agrees.of_content
    {after : Workspace World} (agrees : Agrees files path known workspace)
    (same : files.content after.world path =
      files.content workspace.world path) :
    Agrees files path known after :=
  fun content isKnown => same.trans (agrees content isKnown)

/-- Operations that read leave all contents as they are. -/
theorem LeavesContents.keeps
    {α : Type} {action : Action World α}
    (leaves : LeavesContents files.content action) (contents : Contents) :
    Keeps (fun world => files.content world = contents) action
      (fun _ => True) (fun _ => True) := by
  intro world holds
  apply (leaves.ends world).mono
  · exact fun _ _ same => ⟨trivial, same.trans holds⟩
  · exact fun _ _ same => ⟨trivial, same.trans holds⟩

variable (files) in
theorem handleList_keeps (guard : PolicyGuard) (contents : Contents) :
    Keeps (fun world => files.content world = contents)
      (handleList host guard) (fun _ => True) (fun _ => True) := by
  unfold handleList
  have listed := (files.listdir guard.sandboxRoot).keeps contents
  have diagnose : Keeps (fun world => files.content world = contents)
      (tryCatch (host.listdir guard.sandboxRoot *> pure ()) fun _ => pure () :
        Action World Unit) (fun _ => True) (fun _ => True) := by
    refine Keeps.tryCatch (?_ : Keeps _ _ _ fun _ => True) fun _ _ =>
      Keeps.of_pure trivial
    rw [seqRight_eq_bind]
    exact listed.bind fun _ _ => Keeps.of_pure trivial
  have each : ∀ name, Keeps (fun world => files.content world = contents)
      (fileMetadata host guard name) (fun _ => True) (fun _ => True) := by
    intro name
    unfold fileMetadata
    refine Keeps.tryCatch (?_ : Keeps _ _ _ fun _ => True) ?_
    · exact ((files.stat _).keeps contents).bind fun _ _ =>
        Keeps.of_pure trivial
    · intro error _
      split
      · exact Keeps.of_pure trivial
      · exact Keeps.of_throw trivial
  apply diagnose.bind
  intro _ _
  apply diagnose.bind
  intro _ _
  apply listed.bind
  intro filenames _
  exact (Keeps.mapM fun name _ => each name).bind fun _ _ =>
    Keeps.of_pure trivial

variable (files) in
/-- A GET leaves all contents as they are. -/
theorem handleGet_leaves (guard : PolicyGuard) (payload : Bytes) :
    LeavesContents files.content (handleGet host guard payload) := by
  intro world
  rcases handleGet_cases host guard payload with
    ⟨filename, absPath, request⟩ | ⟨error, _, refused⟩
  · rw [handleGet_of_request request, rescue_run_snd]
    have same : Keeps (fun after => files.content after = files.content world)
        (readRequested host absPath filename) (fun _ => True)
        (fun _ => True) := by
      unfold readRequested
      have required : Keeps
          (fun after => files.content after = files.content world)
          (requireFile host absPath filename) (fun _ => True)
          (fun _ => True) := by
        intro start holds
        unfold Ends
        rw [requireFile_run]
        cases host.pathExists absPath start <;> exact ⟨trivial, holds⟩
      apply required.bind
      intro _ _
      apply ((files.getsize absPath).keeps _).bind
      intro size _
      split
      · exact Keeps.of_throw trivial
      · exact ((files.readFile absPath).keeps _).bind fun _ _ =>
          Keeps.of_pure trivial
    exact same.run rfl
  · rw [refused]
    rfl

/-- Appending to a file that is known. -/
theorem appendRequested_known
    {content : Bytes} {world : World}
    (holds : files.content world path = some content)
    (filename : Text) (data : Bytes) :
    Ends (appendRequested host path filename data) world
      (fun result after =>
        result = .data (sizeInfo filename (content ++ data).length) none ∧
          files.content after path = some (content ++ data))
      (fun _ _ => True) := by
  have present := files.pathExists_of_content holds
  unfold appendRequested
  rw [Ends.bind_iff, Ends.of_run_ok (by
    rw [requireFile_run, if_pos present])]
  rw [Ends.bind_iff, Ends.of_run_ok (files.getsize_run holds)]
  dsimp only
  split
  · trivial
  rw [Ends.bind_iff]
  apply (files.appendFile path data world).mono
  · intro _ appended grown
    have extended : files.content appended path = some (content ++ data) := by
      rw [grown, Function.update_self, holds]
      rfl
    rw [Ends.bind_iff, Ends.of_run_ok (files.getsize_run extended)]
    exact ⟨rfl, extended⟩
  · exact fun _ _ _ => trivial

/-! ## Each operation -/

theorem Except.exists_of_toBool
    {ε α : Type} {result : Except ε α} (returns : result.toBool = true) :
    ∃ value, result = .ok value := by
  cases result with
  | ok value => exact ⟨value, rfl⟩
  | error error => exact absurd returns Bool.false_ne_true

/-- An operation that is not for the file, or only reads it. -/
theorem Taught.of_unchanged
    {operation : FileOperation} {reply : Except PyError HandlerResult}
    {after : Workspace World}
    (agrees : Agrees files path known workspace)
    (same : files.content after.world path =
      files.content workspace.world path)
    (keeps : ∀ succeeded, operation.learn guard path known succeeded = known)
    (noGet : ∀ filename, operation ≠ .get filename)
    (elsewhere : ∀ filename data, operation = .append filename data →
      ¬ guard.Names filename path) :
    Taught files path guard known operation reply after where
  agrees := by
    intro succeeded _
    rw [keeps]
    exact agrees.of_content same
  sent := fun filename _ isGet => absurd isGet (noGet filename)
  extended := fun filename data _ _ isAppend names =>
    absurd names (elsewhere filename data isAppend)

theorem handleList_taught (agrees : Agrees files path known workspace) :
    Taught files path guard known .list
      ((onWorld (handleList host guard)).run workspace).1
      ((onWorld (handleList host guard)).run workspace).2 := by
  apply Taught.of_unchanged agrees
  · exact congrFun ((handleList_keeps files guard _).run rfl) path
  · exact fun _ => rfl
  · exact fun _ isGet => FileOperation.noConfusion isGet
  · exact fun _ _ isAppend => FileOperation.noConfusion isAppend

theorem handleGet_taught
    {filename : Text} {payload : Bytes} (nonempty : payload ≠ [])
    (loaded : host.loadBytes payload =
      .ok (.object (GetHandler.buildRequest filename).metadata))
    (agrees : Agrees files path known workspace) :
    Taught files path guard known (.get filename)
      ((onWorld (handleGet host guard payload)).run workspace).1
      ((onWorld (handleGet host guard payload)).run workspace).2 where
  agrees := by
    intro succeeded _
    apply agrees.of_content
    exact congrFun (handleGet_leaves files guard payload workspace.world) path
  sent := by
    rintro name content isGet names isKnown fits
    cases isGet
    have run := handleGet_run (PolicyGuard.names_iff.mp names) nonempty loaded
      fits (agrees content isKnown)
    exact congrArg Prod.fst run
  extended := by
    intro name data content value isAppend
    cases isAppend

/-- The file name in the metadata of a request. -/
theorem requestFilename_eq
    {filename name : Text} {rest : List (Text × Json)}
    (named : requestFilename (("filename", .string filename) :: rest) =
      .ok name) :
    name = filename := by
  have found : requestFilename (("filename", .string filename) :: rest) =
      if filename = [] then valueError "Missing 'filename'"
      else .ok filename := rfl
  rw [found] at named
  split at named
  · cases named
  · exact (Except.ok.inj named).symm

/-- What an APPEND has to do with the file, if it is for the file and if it is
not. -/
theorem Taught.of_append
    {filename : Text} {data : Bytes} {reply : Except PyError HandlerResult}
    {after : Workspace World} (agrees : Agrees files path known workspace)
    (own : guard.Names filename path → ∀ content value,
      known = some content → reply = .ok value →
        value = .data (sizeInfo filename (content ++ data).length) none ∧
          files.content after.world path = some (content ++ data))
    (other : ¬ guard.Names filename path →
      files.content after.world path = files.content workspace.world path) :
    Taught files path guard known (.append filename data) reply after where
  agrees := by
    intro succeeded returns
    rw [FileOperation.learn]
    by_cases names : guard.Names filename path
    · rw [if_pos names]
      cases succeeded with
      | false =>
          intro content isKnown
          cases isKnown
      | true =>
          intro extended isKnown
          rw [if_pos rfl, Option.map_eq_some_iff] at isKnown
          obtain ⟨content, isKnown, rfl⟩ := isKnown
          cases reply with
          | error error => exact absurd (returns rfl) Bool.false_ne_true
          | ok value => exact (own names content value isKnown rfl).2
    · rw [if_neg names]
      exact agrees.of_content (other names)
  sent := by
    intro filename content isGet
    cases isGet
  extended := by
    intro name appended content value isAppend names isKnown returned
    cases isAppend
    exact (own names content value isKnown returned).1

theorem handleAppend_taught
    {filename : Text} {data payload : Bytes}
    (decoded : mixedModeDecode host payload =
      .ok (.object (AppendHandler.buildRequest filename data).metadata, data))
    (agrees : Agrees files path known workspace) :
    Taught files path guard known (.append filename data)
      ((onWorld (handleAppend host guard payload)).run workspace).1
      ((onWorld (handleAppend host guard payload)).run workspace).2 := by
  rcases handleAppend_cases host guard payload with
    ⟨name, absPath, binaryData, request⟩ | ⟨error, _, refused⟩
  · obtain ⟨entries, decodedAgain, named⟩ := request.read
    obtain ⟨⟨rfl⟩, rfl⟩ :=
      Prod.mk.inj (Except.ok.inj (decodedAgain.symm.trans decoded))
    obtain rfl := requestFilename_eq named
    have valid := request.valid
    rw [handleAppend_of_request request, onWorld_run]
    apply Taught.of_append agrees
    · intro names content value isKnown returned
      rw [PolicyGuard.names_iff, valid] at names
      obtain rfl := Except.ok.inj names
      exact ends_of_fst (ends_rescue_returned
        (appendRequested_known (agrees content isKnown) name binaryData))
        returned
    · intro elsewhere
      have different : path ≠ absPath := by
        rintro rfl
        exact elsewhere (PolicyGuard.names_iff.mpr valid)
      rw [rescue_run_snd]
      exact ((appendRequested_ends files absPath name binaryData
        workspace.world).mono (fun _ _ kept => kept.2 path different)
          fun _ _ kept => kept path different).run
  · rw [refused]
    apply Taught.of_append agrees
    · intro _ content value _ returned
      cases returned
    · exact fun _ => rfl

/-- What a PUT_META has to do with the file, if it is for the file and if it is
not. -/
theorem Taught.of_putMeta
    {filename : Text} {totalSize : Int} {overwrite : Bool}
    {reply : Except PyError HandlerResult} {after : Workspace World}
    (agrees : Agrees files path known workspace)
    (own : guard.Names filename path → reply.toBool = true →
      files.content after.world path = some [])
    (kept : guard.Names filename path → overwrite = false →
      Agrees files path known after)
    (other : ¬ guard.Names filename path →
      files.content after.world path = files.content workspace.world path) :
    Taught files path guard known (.putMeta filename totalSize overwrite)
      reply after where
  agrees := by
    intro succeeded returns
    rw [FileOperation.learn]
    by_cases names : guard.Names filename path
    · rw [if_pos names]
      cases succeeded with
      | true =>
          rintro _ ⟨rfl⟩
          exact own names (returns rfl)
      | false =>
          rw [if_neg Bool.false_ne_true]
          cases overwrite with
          | true =>
              intro content isKnown
              cases isKnown
          | false => exact kept names rfl
    · rw [if_neg names]
      exact agrees.of_content (other names)
  sent := by
    intro name content isGet
    cases isGet
  extended := by
    intro name data content value isAppend
    cases isAppend

theorem handlePutMeta_taught
    {filename : Text} {totalSize : Int} {overwrite : Bool} {payload : Bytes}
    (loaded : host.loadBytes payload = .ok (.object
      (PutMetaHandler.buildRequest filename totalSize overwrite).metadata))
    (agrees : Agrees files path known workspace) :
    Taught files path guard known (.putMeta filename totalSize overwrite)
      ((handlePutMeta host guard payload).run workspace).1
      ((handlePutMeta host guard payload).run workspace).2 := by
  rcases handlePutMeta_cases host guard payload with
    ⟨name, absPath, size, number, overwrites, request⟩ | ⟨error, _, refused⟩
  · obtain ⟨entries, loadedAgain, rfl, rfl, rfl⟩ := request.read
    obtain ⟨rfl⟩ := Except.ok.inj (loadedAgain.symm.trans loaded)
    have valid : guard.validatePath (.string filename) = .ok absPath :=
      request.valid
    have asked : handlePutMeta host guard payload =
        rescue (· == .jsonDecodeError) (fun _ => "Invalid JSON payload")
          (startUpload host (.string filename) absPath (.int totalSize) number
            overwrite) := handlePutMeta_of_request request
    have ends := startUpload_ends files (.string filename) absPath
      (.int totalSize) number overwrite workspace
    rw [asked]
    apply Taught.of_putMeta agrees
    · intro names returns
      rw [PolicyGuard.names_iff, valid] at names
      obtain rfl := Except.ok.inj names
      obtain ⟨value, returned⟩ := Except.exists_of_toBool returns
      obtain ⟨key, _, created, _⟩ :=
        ends_of_fst (ends_rescue_returned ends.returns) returned
      rw [created, Function.update_self]
    · rintro names rfl content isKnown
      rw [PolicyGuard.names_iff, valid] at names
      obtain rfl := Except.ok.inj names
      have present := files.pathExists_of_content (agrees content isKnown)
      rw [rescue_run_snd, startUpload_run_present present]
      exact agrees content isKnown
    · intro elsewhere
      have different : path ≠ absPath := by
        rintro rfl
        exact elsewhere (PolicyGuard.names_iff.mpr valid)
      rw [rescue_run_snd]
      refine (ends.mono ?_ fun _ _ kept => kept.2 path different).run
      rintro _ after ⟨key, _, created, _⟩
      rw [created, Function.update_of_ne different]
  · rw [refused]
    apply Taught.of_putMeta agrees
    · exact fun _ returns => absurd returns Bool.false_ne_true
    · exact fun _ _ => agrees
    · exact fun _ => rfl

/-- After a chunk nothing is known. -/
theorem Taught.of_putChunk
    (uploadId : Json) (offset : Int) (chunkData : Bytes)
    (reply : Except PyError HandlerResult) (after : Workspace World) :
    Taught files path guard known (.putChunk uploadId offset chunkData) reply
      after where
  agrees := by
    intro succeeded _ content isKnown
    cases isKnown
  sent := by
    intro name content isGet
    cases isGet
  extended := by
    intro name data content value isAppend
    cases isAppend

theorem Taught.of_content
    {operation : FileOperation} {reply : Except PyError HandlerResult}
    {after : Workspace World}
    (taught : Taught files path guard known operation reply workspace)
    (same : files.content after.world path =
      files.content workspace.world path) :
    Taught files path guard known operation reply after where
  agrees := fun succeeded returns =>
    (taught.agrees succeeded returns).of_content same
  sent := taught.sent
  extended := taught.extended

/-! ## Operations as calls -/

/-- What the handler of an operation does to the workspace. -/
theorem fileAction_taught
    (trips : host.JsonRoundTrips) {operation : FileOperation}
    {payload : Bytes}
    (payloaded : payloadOf host operation.buildRequest = .ok payload) :
    ∃ handler action,
      handlers.lookup operation.buildRequest.opcode = some handler ∧
      handler.fileAction? host guard payload = some action ∧
      ∀ workspace, Agrees files path known workspace →
        Taught files path guard known operation (action.run workspace).1
          (action.run workspace).2 := by
  cases operation with
  | get filename =>
      obtain ⟨rest, braced⟩ := Host.head?_of_dumpBytes trips.braces payloaded
      have nonempty : payload ≠ [] := by
        rw [braced]
        exact List.cons_ne_nil _ _
      exact ⟨.get, _, rfl, rfl, fun _ => handleGet_taught nonempty
        (loadBytes_of_payloadOf trips rfl payloaded)⟩
  | append filename data =>
      exact ⟨.append, _, rfl, rfl, fun _ => handleAppend_taught
        (mixedModeDecode_of_payloadOf trips rfl payloaded)⟩
  | list => exact ⟨.list, _, rfl, rfl, fun _ => handleList_taught⟩
  | putMeta filename totalSize overwrite =>
      exact ⟨.putMeta, _, rfl, rfl, fun _ => handlePutMeta_taught
        (loadBytes_of_payloadOf trips rfl payloaded)⟩
  | putChunk uploadId offset chunkData =>
      exact ⟨.putChunk, _, rfl, rfl, fun _ _ => .of_putChunk _ _ _ _ _⟩

theorem remoteCall_taught
    (trips : host.JsonRoundTrips) {operation : FileOperation}
    {payload message : Bytes} {header : AppHeader}
    (payloaded : payloadOf host operation.buildRequest = .ok payload)
    (payload_eq : message.drop headerSize = payload)
    (opcode : header.opcode = operation.buildRequest.opcode)
    (framed : frame? message = some header) :
    RemoteCall host guard clientId (Private files path guard clientId) message
      header (Agrees files path known)
      (Replies host header (Taught files path guard known operation)) := by
  obtain ⟨handler, action, routed, acts, teaches⟩ :=
    @fileAction_taught _ _ guard files path known trips _ _ payloaded
  rw [← opcode] at routed
  rw [← payload_eq] at acts
  apply RemoteCall.of_fileAction framed routed acts
  · exact fun _ _ admitted => admitted.1
  · exact teaches
  · exact fun _ _ foreign admitted agrees =>
      agrees.of_content (admitted.2 foreign)
  · exact fun _ _ _ foreign admitted taught =>
      taught.of_content (admitted.2 foreign)

end Server

/-! ## The client -/

namespace AgentClient

variable {State : Type} {files : FileSystem host} {path : Text}
  {known : Option Bytes} {start : AgentState World} {ids : Set Int}
  {transport : ClientTransport State}

/-- What the client is told by the result of an operation, and that what it
learns from it is so. -/
theorem Returned.tells
    (trips : host.JsonRoundTrips) {operation : FileOperation}
    {result : ExecuteResult} {link : RequestLink World}
    (returned : Returned host guard clientId start ids
      (Taught files path guard known operation) operation result link) :
    operation.Tells host guard path known result ∧
      Agrees files path
        (operation.learn guard path known (result.status.equalsInt 200))
        link.agent.workspace := by
  obtain ⟨header, reply, decoded, encodable, _, responds, read, parsed,
    taught⟩ := returned.reply
  refine ⟨⟨?got, ?appended⟩, ?agrees⟩
  case got =>
    intro filename content isGet names isKnown fits
    rw [isGet] at parsed
    exact result_of_sent trips encodable responds read parsed
      (taught.sent filename content isGet names isKnown fits)
  case appended =>
    intro filename data content isAppend names isKnown succeeded
    obtain ⟨info, binary, taught, parsed⟩ := returned.succeeded trips succeeded
    have same := taught.extended filename data content _ isAppend names isKnown
      rfl
    obtain ⟨rfl, rfl⟩ := HandlerResult.data.inj same
    rw [isAppend] at parsed
    exact (Except.ok.inj parsed).symm
  case agrees =>
    cases succeeded : result.status.equalsInt 200 with
    | false =>
        exact taught.agrees false fun contrary =>
          absurd contrary Bool.false_ne_true
    | true =>
        obtain ⟨_, _, taught, _⟩ := returned.succeeded trips succeeded
        exact taught.agrees true fun _ => rfl

/-- Step lemma: the client is told the truth by the result of an operation. -/
theorem executeOperation_tells
    (trips : host.JsonRoundTrips)
    (link : DelayedLink host guard clientId
      (Private files path guard clientId) transport)
    {operation : FileOperation} {client after : AgentClient State}
    {result : ExecuteResult} (noOverride : client.activeOverride = none)
    (settled : Settled host guard clientId start (idsUpTo client.currentId)
      (link.view client.world))
    (agrees : Agrees files path known (link.view client.world).agent.workspace)
    (returns : (executeOperation host transport none operation).run client =
      (.ok result, after)) :
    operation.Tells host guard path known result ∧
      after.activeOverride = none ∧
      Settled host guard clientId start (idsUpTo after.currentId)
        (link.view after.world) ∧
      Agrees files path
        (operation.learn guard path known (result.status.equalsInt 200))
        (link.view after.world).agent.workspace := by
  have nextId : client.requestIdOf none = client.currentId + 1 := by
    rw [requestIdOf, AgentClient.nextId, noOverride]
    rfl
  have unused : client.requestIdOf none ∉ idsUpTo client.currentId := by
    rw [nextId]
    exact Int.not_le.mpr (Int.lt_succ client.currentId)
  have remote : ∀ payload message header,
      payloadOf host operation.buildRequest = .ok payload →
      message.drop headerSize = payload →
      header.opcode = operation.buildRequest.opcode →
      frame? message = some header →
      RemoteCall host guard clientId (Private files path guard clientId)
        message header (Agrees files path known)
        (Replies host header (Taught files path guard known operation)) :=
    fun _ _ _ => remoteCall_taught trips
  obtain ⟨returned, restored⟩ :=
    executeOperation_returned link remote unused settled agrees returns
  obtain ⟨counted, _⟩ := client_executeOperation returns
  obtain ⟨tells, learned⟩ := returned.tells trips
  refine ⟨tells, restored.trans noOverride, ?_, learned⟩
  apply returned.settled.mono
  rw [nextId, counted]
  exact insert_idsUpTo_subset client.currentId

variable (host guard path) in
/-- Every result tells what fits the results before it. -/
def TellsEach
    (known : Option Bytes) (executed : List (FileOperation × ExecuteResult)) :
    Prop :=
  ∀ earlier operation result later,
    executed = earlier ++ (operation, result) :: later →
      operation.Tells host guard path (knownAfter guard path known earlier)
        result

theorem TellsEach.cons
    {operation : FileOperation} {result : ExecuteResult}
    {executed : List (FileOperation × ExecuteResult)}
    (tells : operation.Tells host guard path known result)
    (others : TellsEach host guard path
      (operation.learn guard path known (result.status.equalsInt 200))
      executed) :
    TellsEach host guard path known ((operation, result) :: executed) := by
  intro earlier other otherResult later same
  cases earlier with
  | nil =>
      obtain ⟨⟨rfl, rfl⟩, rfl⟩ := List.cons.inj same
      exact tells
  | cons first earlier =>
      obtain ⟨rfl, rest⟩ := List.cons.inj same
      exact others earlier other otherResult later rest

/-- Run lemma: if all operations return then every result tells the truth, and
what is known in the end is so. -/
theorem executeAll_tells
    (trips : host.JsonRoundTrips)
    (link : DelayedLink host guard clientId
      (Private files path guard clientId) transport)
    (operations : List FileOperation) {client after : AgentClient State}
    {results : List ExecuteResult} (noOverride : client.activeOverride = none)
    (settled : Settled host guard clientId start (idsUpTo client.currentId)
      (link.view client.world))
    (agrees : Agrees files path known (link.view client.world).agent.workspace)
    (returns : (executeAll host transport operations).run client =
      (.ok results, after)) :
    results.length = operations.length ∧
      TellsEach host guard path known (operations.zip results) ∧
      Agrees files path
        (knownAfter guard path known (operations.zip results))
        (link.view after.world).agent.workspace := by
  induction operations generalizing client known results with
  | nil =>
      obtain ⟨⟨rfl⟩, rfl⟩ := Prod.mk.inj returns
      refine ⟨rfl, ?_, agrees⟩
      intro earlier operation result later same
      exact absurd same (by simp)
  | cons operation operations inductionHypothesis =>
      rw [executeAll, run_bind_eq_ok_iff] at returns
      obtain ⟨result, between, executed, returns⟩ := returns
      rw [run_bind_eq_ok_iff] at returns
      obtain ⟨later, last, others, returns⟩ := returns
      obtain ⟨⟨rfl⟩, rfl⟩ := Prod.mk.inj returns
      obtain ⟨tells, restored, settledThen, learned⟩ :=
        executeOperation_tells trips link noOverride settled agrees executed
      obtain ⟨lengths, tellsOthers, known⟩ :=
        inductionHypothesis restored settledThen learned others
      exact ⟨congrArg Nat.succ lengths, .cons tells tellsOthers, known⟩

end AgentClient

/-! ## An append and a GET -/

namespace Sample

open AgentClient MemoryHost RequestLink RudpExchange

/-- A host that can append a byte to a file and send it. -/
def ownFileHost : Host Files :=
  recordedHost
    [appendData, .object (GetHandler.buildRequest "notes.txt").metadata,
      ResponseBuilder.statusDict 200 none (sizeInfo "notes.txt" 1),
      ResponseBuilder.statusDict 200 none (fileInfo "notes.txt" [0x7A])] []

def ownFiles : FileSystem ownFileHost := recordedFiles _ _

def appendAndGet : List FileOperation := [byteAppend, .get "notes.txt"]

/-- The first or the second request. -/
def ownRequest (requestId : Int) (operation : FileOperation) : Bytes :=
  ((requestMessage ownFileHost requestId operation).toOption).getD []

/-- The response to a request that comes after others. -/
def ownResponse (earlier : List Bytes) (request : Bytes) : Bytes :=
  let call (data : Bytes) : Call := ⟨"10.0.0.1:5000", data, instant 16⟩
  (AgentServer.serve ownFileHost policyGuard
    (AgentServer.run ownFileHost policyGuard emptyNotes
      (earlier.map call)) (call request)).1

/-- The server receives the first request twice, and another client reads the
file before the second request arrives. -/
def sharedServer : Nat → Period :=
  let first := ownRequest 1 byteAppend
  let second := ownRequest 2 (.get "notes.txt")
  fun
  | 2 => { events := [], sentAt := 16 }
  | 3 =>
      { events := [
          .serverReceive (dataDatagram first 1 0) 16 (frozenClock 16),
          .receive (ackDatagram 1) 16,
          .serverReceive (dataDatagram first 1 1) 17 (frozenClock 17),
          .receive (dataDatagram (ownResponse [] first) 1 0) 17]
        sentAt := 17 }
  | 4 => { events := [], sentAt := 18 }
  | 5 =>
      { events := [
          .receive (ackDatagram 2) 18,
          .serverReceive (ackDatagram 1) 18 (frozenClock 18),
          .other ⟨"10.0.0.2:6000", second, instant 18⟩,
          .serverReceive (dataDatagram second 2 2) 19 (frozenClock 19),
          .receive (dataDatagram (ownResponse [] first) 1 1) 19,
          .serverReceive (ackDatagram 2) 19 (frozenClock 19),
          .receive (dataDatagram (ownResponse [first] second) 2 2) 20]
        sentAt := 20 }
  | _ => { events := [], sentAt := 0 }

/-- The client appends a byte and gets the file. -/
def ownFileRun :=
  (executeAll ownFileHost (RudpClient.transport ownFileHost policyGuard
    "10.0.0.1:5000" (Private ownFiles "/sandbox/notes.txt" policyGuard
      "10.0.0.1:5000") sharedServer) appendAndGet).run
        { world := RudpClient.new emptyNotes }

/-- What the client knows after an append that has succeeded. -/
theorem knownAfter_byteAppend
    {appended : ExecuteResult}
    (succeeded : appended.status.equalsInt 200 = true) :
    knownAfter policyGuard "/sandbox/notes.txt" (some [])
      [(byteAppend, appended)] = some [0x7A] := by
  have names : policyGuard.Names "notes.txt" "/sandbox/notes.txt" := by
    decide
  rw [knownAfter, knownAfter, byteAppend, FileOperation.learn, if_pos names,
    if_pos succeeded]
  rfl

end Sample

end RudpAgentStack

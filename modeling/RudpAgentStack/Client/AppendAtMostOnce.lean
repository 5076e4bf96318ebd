import RudpAgentStack.Agent.FailingHost
import RudpAgentStack.Client.AppendOverRudp

/-!
# How often data is appended

A request of a call that appends is answered, and the server repeats its answer
to the others of the call for as long as it keeps it.  So those that append are
apart by the lifetime of a response.  Requests that arrive later than that are
carried out once more.
-/

namespace RudpAgentStack

open Foundation

namespace AgentServer

variable {World : Type} {host : Host World} {guard : PolicyGuard}
  {state : AgentState World} {call again : Call} {header : AppHeader}

/-! ## Appends and their responses -/

/-- An append that is refused because of a missing file changes nothing. -/
theorem world_serve_of_repeats
    (framed : frame? call.data = some header)
    (isAppend : header.opcode = opAppend)
    (own : state.cache.answer? (requestKey call.clientId header)
      call.now.lookup = none)
    {error : PyError}
    (refused : Repeats host guard .append (call.data.drop headerSize)
      state.workspace error) :
    (serve host guard state call).2.workspace.world =
      state.workspace.world := by
  have routed : handlers.lookup header.opcode = some .append := by
    rw [isAppend]
    rfl
  rw [serve_workspace framed own routed]
  cases refused with
  | appendMissing request missing =>
    have untouched : ((handleAppend host guard
        (call.data.drop headerSize)).run state.workspace.world).2 =
          state.workspace.world := by
      rw [handleAppend_of_request request, rescue_run_snd]
      simp only [appendRequested, Action.run_bind, requireFile_run, missing]
      rfl
    exact untouched

/-- An append that changes something is answered. -/
theorem responds_of_changes
    (modest : ModestHost host) (answering : state.cache.Answering)
    (framed : frame? call.data = some header)
    (isAppend : header.opcode = opAppend)
    (own : state.cache.answer? (requestKey call.clientId header)
      call.now.lookup = none)
    (changes : (serve host guard state call).2.workspace.world ≠
      state.workspace.world) :
    (serve host guard state call).1 ≠ [] := by
  obtain ⟨encodable, length_eq, fits⟩ := of_frame? framed
  rw [length_eq] at fits
  have refusalsFit : RefusalsFit host guard header
      (call.data.drop headerSize)
      (ownLookedUp call.clientId header call.now state).workspace := by
    intro handler error routed repeated
    rw [isAppend] at routed
    cases routed
    exact absurd (world_serve_of_repeats framed isAppend own repeated) changes
  obtain ⟨response, returned⟩ :=
    (Dispatcher.dispatch_returns_iff modest encodable fits).mpr refusalsFit
  have isResponse :=
    isResponse_of_returned guard modest answering framed response returned
  have answer_eq : (serve host guard state call).1 = response := by
    rw [serve_of_unanswered host guard framed own]
    unfold carryOut
    generalize (Dispatcher.dispatch host guard header
      (call.data.drop headerSize) none call.now).run
      (ownLookedUp call.clientId header call.now state) = dispatched
      at returned
    obtain ⟨error | responseBytes, after⟩ := dispatched
    · cases returned
    · exact Except.ok.inj returned
  rw [answer_eq]
  rintro rfl
  exact not_isResponse_nil _ _ isResponse

/-- What changes something was not answered from the cache. -/
theorem unanswered_of_changes
    (framed : frame? call.data = some header)
    (changes : (serve host guard state call).2.workspace.world ≠
      state.workspace.world) :
    state.cache.answer? (requestKey call.clientId header) call.now.lookup =
      none := by
  by_contra answered
  obtain ⟨response, answer⟩ := Option.ne_none_iff_exists'.mp answered
  rw [serve_of_framed host guard framed,
    processFrame_of_answer? host guard answer] at changes
  exact changes rfl

/-- After an append that changes something, a repetition that is looked up
while the response lives changes nothing. -/
theorem world_serve_of_repetition
    (modest : ModestHost host) (answering : state.cache.Answering)
    (framed : frame? call.data = some header)
    (isAppend : header.opcode = opAppend)
    (changes : (serve host guard state call).2.workspace.world ≠
      state.workspace.world)
    {between : List Call} (chronological : Chronological (between ++ [again]))
    (sameClient : again.clientId = call.clientId)
    (sameData : again.data = call.data)
    (inTime : again.now.lookup < call.now.store + idempotencyTtl) :
    let before :=
      run host guard (serve host guard state call).2 between
    (serve host guard before again).2.workspace.world =
      before.workspace.world := by
  intro before
  have own := unanswered_of_changes framed changes
  have responds :=
    responds_of_changes modest answering framed isAppend own changes
  have framedAgain : frame? again.data = some header := sameData ▸ framed
  have stored : (serve host guard state call).2.cache.get?
      (requestKey call.clientId header) =
        some ⟨(serve host guard state call).1, call.now.store⟩ := by
    rw [serve_of_framed host guard framed] at responds ⊢
    obtain ⟨storedAt, present, fresh⟩ :=
      exists_stored_of_processFrame host guard responds
    rw [present, fresh own]
  have answer := answer?_run_of_live host guard stored responds chronological
    (TtlCache.live_iff_lt_add.mpr inTime)
  have sameKey : requestKey again.clientId header =
      requestKey call.clientId header := by
    rw [sameClient]
  rw [← sameKey] at answer
  rw [serve_of_framed host guard framedAgain,
    processFrame_of_answer? host guard answer]

end AgentServer

/-! ## How often the data is appended -/

/-- No more positions of a list have a property than it counts. -/
theorem card_le_countP {α : Type} {property : α → Bool} {elements : List α}
    {indices : Finset Nat}
    (holds : ∀ index ∈ indices, ∃ element,
      elements[index]? = some element ∧ property element = true) :
    indices.card ≤ elements.countP property := by
  induction elements using List.reverseRecOn generalizing indices with
  | nil =>
      have none : indices = ∅ := by
        refine Finset.eq_empty_of_forall_notMem fun index member => ?_
        obtain ⟨element, found, _⟩ := holds index member
        cases found
      rw [none]
      exact le_rfl
  | append_singleton elements last inductionHypothesis =>
      have before : (indices.erase elements.length).card ≤
          elements.countP property := by
        refine inductionHypothesis fun index member => ?_
        obtain ⟨different, isIndex⟩ := Finset.mem_erase.mp member
        obtain ⟨element, found, has⟩ := holds index isIndex
        refine ⟨element, ?_, has⟩
        have short : index < (elements ++ [last]).length :=
          (List.getElem?_eq_some_iff.mp found).1
        rw [List.length_append, List.length_singleton] at short
        rwa [List.getElem?_append_left (by omega)] at found
      rw [List.countP_append]
      by_cases isLast : elements.length ∈ indices
      · obtain ⟨element, found, has⟩ := holds _ isLast
        rw [List.getElem?_concat_length] at found
        cases found
        have one : [last].countP property = 1 := by
          rw [List.countP_singleton, if_pos has]
        have erased := Finset.card_erase_of_mem isLast
        omega
      · rw [Finset.erase_eq_of_notMem isLast] at before
        omega

namespace AppendSession

variable {World : Type} {host : Host World} {guard : PolicyGuard}
  {append : AppendCall} {world : World} {session : AppendSession World}

/-- The world after so many of the requests. -/
def worldAfter
    (host : Host World) (guard : PolicyGuard) (world : World)
    (calls : List Call) (count : Nat) : World :=
  (AgentServer.run host guard (AgentServer.new world)
    (calls.take count)).workspace.world

/-- The request at a position is one of the call, and processing it changes the
content of a file. -/
def Appends
    (host : Host World) (guard : PolicyGuard) (append : AppendCall)
    (world : World) (content : World → Contents) (calls : List Call)
    (index : Nat) : Prop :=
  ∃ call, calls[index]? = some call ∧ call.clientId = append.clientId ∧
    append.message host = .ok call.data ∧ ∃ path,
      content (worldAfter host guard world calls (index + 1)) path ≠
        content (worldAfter host guard world calls index) path

/-- The message of the call is framed as an append. -/
theorem frame?_of_message {message : Bytes}
    (sent : append.message host = .ok message) :
    ∃ header, frame? message = some header ∧ header.opcode = opAppend := by
  unfold AppendCall.message at sent
  cases payloaded : AgentClient.payloadOf host
      (AppendHandler.buildRequest append.filename append.data) with
  | error error =>
      rw [payloaded] at sent
      cases sent
  | ok payload =>
      rw [payloaded] at sent
      exact ⟨_, (frame?_of_encodeMessage sent).1, rfl⟩

/-- Requests of the call that both append are apart by the lifetime of a
response. -/
theorem ttl_le_of_appends
    (modest : ModestHost host) {content : World → Contents}
    {calls : List Call} (chronological : Chronological calls)
    {first second : Nat} (order : first < second) {call again : Call}
    (found : calls[first]? = some call)
    (foundAgain : calls[second]? = some again)
    (appends : Appends host guard append world content calls first)
    (appendsAgain : Appends host guard append world content calls second) :
    call.now.store + idempotencyTtl ≤ again.now.lookup := by
  by_contra early
  obtain ⟨call', found', client, sent, path, changed⟩ := appends
  obtain rfl := Option.some.inj (found.symm.trans found')
  obtain ⟨again', foundAgain', clientAgain, sentAgain, path', changedAgain⟩ :=
    appendsAgain
  obtain rfl := Option.some.inj (foundAgain.symm.trans foundAgain')
  obtain ⟨header, framed, isAppend⟩ := frame?_of_message sent
  have sameData : again.data = call.data :=
    Except.ok.inj (sentAgain.symm.trans sent)
  -- the requests up to the repetition
  let before := calls.take first
  let between := (calls.drop (first + 1)).take (second - (first + 1))
  have upToFirst : calls.take (first + 1) = before ++ [call] := by
    rw [List.take_add_one, found]
    rfl
  have upToSecond : calls.take second = before ++ [call] ++ between := by
    rw [← upToFirst, ← List.take_add]
    congr 1
    omega
  have upToEnd : calls.take (second + 1) =
      before ++ [call] ++ between ++ [again] := by
    rw [List.take_add_one, foundAgain, upToSecond]
    rfl
  have inOrder : Chronological (between ++ [again]) := by
    refine chronological.sublist ?_
    refine List.Sublist.trans ?_ (List.take_sublist (second + 1) calls)
    rw [upToEnd, List.append_assoc]
    exact List.sublist_append_right _ _
  have changes : (AgentServer.serve host guard
      (AgentServer.run host guard (AgentServer.new world) before)
        call).2.workspace.world ≠
      (AgentServer.run host guard (AgentServer.new world)
        before).workspace.world := by
    intro same
    refine changed (congrArg (content · path) ?_)
    rw [worldAfter, worldAfter, upToFirst, AgentServer.run_append_singleton]
    exact same
  have same := AgentServer.world_serve_of_repetition modest
    (AgentServer.run_answering modest world before) framed isAppend changes
    inOrder (clientAgain.trans client.symm) sameData (not_le.mp early)
  refine changedAgain (congrArg (content · path') ?_)
  rw [worldAfter, worldAfter, upToEnd, AgentServer.run_append_singleton,
    upToSecond, AgentServer.run_append, AgentServer.run_append_singleton]
  exact same

/-- No more requests of the call are processed than it has rounds. -/
theorem Sound.card_le
    (sound : Sound host guard append world session)
    {content : World → Contents} {indices : Finset Nat}
    (appends : ∀ index ∈ indices,
      Appends host guard append world content session.calls index) :
    indices.card ≤ maxRetries + 1 := by
  cases sent : append.message host with
  | error error =>
      have none : indices = ∅ := by
        refine Finset.eq_empty_of_forall_notMem fun index member => ?_
        obtain ⟨call, _, _, isSent, _⟩ := appends index member
        rw [sent] at isSent
        cases isSent
      rw [none]
      exact Nat.zero_le _
  | ok message =>
      obtain ⟨outward, inward, joined⟩ := sound.joined
      have delivered : session.server.history.delivered <+:
          session.client.history.submitted.map Prod.fst := by
        rw [← joined.far.delivered, ← joined.near.submitted]
        exact (Link.agrees_of_reachable joined.outward).delivered_prefix_messages
      have copies : session.server.history.delivered.count message ≤
          session.rounds :=
        (delivered.sublist.count_le message).trans
          (sound.copies message sent)
      have processed : session.calls.countP (fun call =>
          decide (call.clientId = append.clientId) &&
            call.data == message) =
          session.server.history.delivered.count message := by
        rw [← sound.delivered, ofClient, List.count, List.countP_map,
          List.countP_filter]
        refine List.countP_congr fun call _ => ?_
        simp [and_comm]
      calc indices.card
        _ ≤ session.calls.countP _ := by
          refine card_le_countP fun index member => ?_
          obtain ⟨call, found, client, isSent, _⟩ := appends index member
          rw [sent] at isSent
          exact ⟨call, found, by
            simp [client, Except.ok.inj isSent]⟩
        _ ≤ maxRetries + 1 := processed.trans_le (copies.trans sound.rounds)

/-- Over any network, requests of one call that append are apart by at least
the lifetime of a response, and there are no more of them than rounds.  So the
data is appended at most once as long as no request of the call is processed
later than that. -/
theorem appends_apart
    (modest : ModestHost host) (guard : PolicyGuard) (append : AppendCall)
    (world : World) (content : World → Contents)
    {session : AppendSession World}
    (reachable : (machine host guard append world).Reachable session) :
    (∀ first second call again, first < second →
      session.calls[first]? = some call →
      session.calls[second]? = some again →
      Appends host guard append world content session.calls first →
      Appends host guard append world content session.calls second →
      call.now.store + idempotencyTtl ≤ again.now.lookup) ∧
    ∀ indices : Finset Nat,
      (∀ index ∈ indices,
        Appends host guard append world content session.calls index) →
      indices.card ≤ maxRetries + 1 := by
  have sound := sound_of_reachable reachable
  constructor
  · intro first second call again order found foundAgain appends appendsAgain
    exact ttl_le_of_appends modest sound.chronological order found foundAgain
      appends appendsAgain
  · exact fun indices appends => sound.card_le appends

end AppendSession

/-! ## A sandbox with one file -/

namespace Sample

/-- The path of the file. -/
def notesPath : Text := "/sandbox/notes.txt"

/-- A host with the file `notes.txt` and no other, whose content is the state
of the host.  Operations on other files fail. -/
def fileHost : Host Bytes where
  jsonLoads := fun text =>
    if text = appendData.write false then .ok appendData
    else
      .error ⟨.jsonDecodeError, "Expecting value: line 1 column 1 (char 0)"⟩
  jsonDumps := FailingHost.dumps
  decodeErrorMessage := fun _ => FailingHost.decodeErrorMessage
  encodeErrorMessage := fun _ => FailingHost.encodeErrorMessage
  repr := Json.write false
  streamRepr := fun _ => "<generator object>"
  formatMember := fun name _ => name
  sha256 := fun _ => []
  uuid4 := throw FailingHost.failure
  pathExists := fun path _ => decide (path = notesPath)
  getsize := fun path => do
    let content ← get
    if path = notesPath ∧ content.length < 2 ^ 63 then
      return (content.length : Int)
    else throw FailingHost.failure
  listdir := fun _ => throw FailingHost.failure
  stat := fun _ => throw FailingHost.failure
  makedirs := fun _ => throw FailingHost.failure
  readFile := fun _ => throw FailingHost.failure
  createEmpty := fun _ => throw FailingHost.failure
  appendFile := fun path data =>
    if path = notesPath then modify (· ++ data)
    else throw FailingHost.failure
  openUpdate := fun _ => throw FailingHost.failure
  writeAt := fun _ _ _ => throw FailingHost.failure
  createTemporary := fun _ => throw FailingHost.failure
  writeTemporary := fun _ _ => throw FailingHost.failure
  flushTemporary := fun _ => throw FailingHost.failure
  syncTemporary := fun _ => throw FailingHost.failure
  closeTemporary := fun _ => throw FailingHost.failure
  replace := fun _ _ => throw FailingHost.failure
  remove := fun _ => throw FailingHost.failure

/-- The content of the file. -/
def fileContent (content : Bytes) : Contents :=
  fun path => if path = notesPath then some content else none

/-- Its texts are those of the host whose disk fails. -/
theorem fileHost_modest : ModestHost fileHost :=
  have texts := FailingHost.modestHost [(appendData.write false, appendData)]
  { decodeErrorMessage := texts.decodeErrorMessage
    encodeErrorMessage := texts.encodeErrorMessage
    formatMember := texts.formatMember
    jsonLoads := by
      intro text error refused
      simp only [fileHost] at refused
      split at refused
      · cases refused
      · cases refused
        decide
    jsonDumps := texts.jsonDumps
    errorDict := texts.errorDict
    responseDict := texts.responseDict
    uuid4 := FailingHost.failure_modestly _
    getsize := by
      intro path content _
      change Ends (if path = notesPath ∧ content.length < 2 ^ 63 then
        return (content.length : Int) else throw FailingHost.failure)
          content _ _
      split
      · next fits =>
          obtain ⟨rfl, small⟩ := fits
          have bounded : (content.length : Int) < 2 ^ 63 := by
            exact_mod_cast small
          exact ⟨⟨⟨Int.natCast_nonneg _, bounded⟩, by decide⟩, trivial⟩
      · exact FailingHost.failure_modestly _ content trivial
    listdir := fun _ => FailingHost.failure_modestly _
    stat := fun _ => FailingHost.failure_modestly _
    makedirs := fun _ => FailingHost.failure_modestly _
    readFile := fun _ => FailingHost.failure_modestly _
    createEmpty := fun _ => FailingHost.failure_modestly _
    appendFile := by
      intro path data content _
      simp only [fileHost]
      split
      · exact ⟨trivial, trivial⟩
      · exact FailingHost.failure_modestly _ content trivial
    openUpdate := fun _ => FailingHost.failure_modestly _
    writeAt := fun _ _ _ => FailingHost.failure_modestly _
    createTemporary := fun _ => FailingHost.failure_modestly _
    writeTemporary := fun _ _ => FailingHost.failure_modestly _
    flushTemporary := fun _ => FailingHost.failure_modestly _
    syncTemporary := fun _ => FailingHost.failure_modestly _
    closeTemporary := fun _ => FailingHost.failure_modestly _
    replace := fun _ _ => FailingHost.failure_modestly _
    remove := fun _ => FailingHost.failure_modestly _ }

/-- A client appends a byte to the file. -/
def appendByte : AppendCall where
  clientId := "10.0.0.1:5000"
  requestId := 1
  filename := "notes.txt"
  data := [0x7A]

/-- The datagram of the message a round sends, under a sequence number. -/
def roundDatagram (seq : Int) : Bytes :=
  let segment : RUDPPacket :=
    { seqNum := seq
      ackNum := 0
      flags := flagFin
      rwnd := 0
      msgId := some 1
      offset := some 0
      payload := (appendByte.message fileHost).toOption.getD [] }
  segment.pack.toOption.getD []

/-- The acknowledgement of the first segment. -/
def firstAck : Bytes := [0, 0, 0, 0, 0, 0, 0, 1, 2, 0, 64, 189, 254]

/-- The server's clock stands still while it processes a datagram. -/
def standing (time : ℚ) : Nat → Readings × ℚ := fun _ => (instant time, time)

/-- The request of the first round arrives at once, but its response is lost.
The other rounds go unanswered, too, and the request of the second arrives when
the client has given up. -/
def lateRound : List AppendSession.Action :=
  [.round 0, .serverReceive (roundDatagram 0) 0 (standing 0),
    .receive firstAck 0, .expire 15,
    .round (31 / 2), .expire (61 / 2),
    .round (63 / 2), .expire (93 / 2),
    .round (97 / 2), .expire (127 / 2),
    .round (135 / 2), .expire (165 / 2),
    .round (173 / 2), .expire (203 / 2),
    .serverReceive (roundDatagram 1) 130 (standing 130)]

/-- Runs of the call with an empty file. -/
abbrev appendMachine : Machine (AppendSession Bytes) AppendSession.Action :=
  AppendSession.machine fileHost policyGuard appendByte []

/-- The state after that run. -/
def appendedTwice : AppendSession Bytes :=
  appendMachine.exec appendMachine.start lateRound

/-- The request of a round, as the server processes it at a time. -/
def roundRequest (time : ℚ) : Call :=
  ⟨appendByte.clientId, (appendByte.message fileHost).toOption.getD [],
    instant time⟩

theorem appendedTwice_reachable : appendMachine.Reachable appendedTwice :=
  .exec .start (by decide +kernel)

theorem calls_appendedTwice :
    appendedTwice.calls = [roundRequest 0, roundRequest 130] := by
  decide +kernel

/-- Each of the two requests appends the byte. -/
theorem appendedTwice_appends {index : Nat} (isRequest : index < 2) :
    AppendSession.Appends fileHost policyGuard appendByte [] fileContent
      appendedTwice.calls index := by
  have before : AppendSession.worldAfter fileHost policyGuard []
      [roundRequest 0, roundRequest 130] 0 = [] := by
    decide +kernel
  have between : AppendSession.worldAfter fileHost policyGuard []
      [roundRequest 0, roundRequest 130] 1 = [0x7A] := by
    decide +kernel
  have after : AppendSession.worldAfter fileHost policyGuard []
      [roundRequest 0, roundRequest 130] 2 = [0x7A, 0x7A] := by
    decide +kernel
  have sent : appendByte.message fileHost =
      .ok ((appendByte.message fileHost).toOption.getD []) := by
    decide +kernel
  rw [calls_appendedTwice]
  obtain rfl | rfl : index = 0 ∨ index = 1 := by omega
  · refine ⟨roundRequest 0, rfl, rfl, sent, notesPath, ?_⟩
    rw [before, between]
    decide
  · refine ⟨roundRequest 130, rfl, rfl, sent, notesPath, ?_⟩
    rw [between, after]
    decide

end Sample

namespace AppendSession

open Sample

/-- The two requests that append in the run of the sample are 130 seconds
apart. -/
theorem appends_apart_lateRound :
    (roundRequest 0).now.store + idempotencyTtl ≤
        (roundRequest 130).now.lookup ∧
      ∀ indices : Finset Nat,
        (∀ index ∈ indices,
          Appends fileHost policyGuard appendByte [] fileContent
            appendedTwice.calls index) →
        indices.card ≤ maxRetries + 1 := by
  obtain ⟨apart, few⟩ := appends_apart fileHost_modest policyGuard appendByte
    [] fileContent appendedTwice_reachable
  refine ⟨apart 0 1 _ _ Nat.zero_lt_one ?_ ?_
    (appendedTwice_appends (by decide)) (appendedTwice_appends (by decide)),
    few⟩
  · rw [calls_appendedTwice]
    rfl
  · rw [calls_appendedTwice]
    rfl

/-- The data of one call can be appended twice. -/
theorem data_appended_twice :
    ¬ ∀ session, appendMachine.Reachable session → ∀ first second,
      Appends fileHost policyGuard appendByte [] fileContent session.calls
        first →
      Appends fileHost policyGuard appendByte [] fileContent session.calls
        second →
      first = second := by
  intro once
  have same := once appendedTwice appendedTwice_reachable 0 1
    (appendedTwice_appends (by decide)) (appendedTwice_appends (by decide))
  cases same

end AppendSession

end RudpAgentStack

import RudpAgentStack.Client.UploadRequests

/-!
# Uploading a file and getting it back

An upload that returns status 200 over a link with delays has left the local
file on the server, byte for byte, and a GET of its name returns exactly these
bytes if its response can be sent at all.  Every chunk is applied once, however
often its request was repeated; other clients leave the file and its uploads
alone.
-/

namespace RudpAgentStack

open Foundation RequestLink AgentClient

variable {World State : Type} {host : Host World} {guard : PolicyGuard}
  {clientId : Text} {start : AgentState World}

/-! ## The local file -/

/-- A local file has this content throughout, and reading it does not touch
the link. -/
structure HoldsFile
    (localFiles : LocalFiles State) (view : State → RequestLink World)
    (localPath : Text) (content : Bytes) : Prop where
  pathExists : ∀ state, Ends (localFiles.pathExists localPath) state
    (fun _ after => view after = view state) (fun _ _ => True)
  getsize : ∀ state, Ends (localFiles.getsize localPath) state
    (fun size after => size = content.length ∧ view after = view state)
    (fun _ _ => True)
  openRead : ∀ state, Ends (localFiles.openRead localPath) state
    (fun _ after => view after = view state) (fun _ _ => True)
  read : ∀ state position size,
    Ends (localFiles.read localPath position size) state
      (fun data after => data = (content.drop position).take size ∧
        view after = view state)
      (fun _ _ => True)

/-- What a computation of the transport returns and leaves. -/
theorem onTransport_ends
    {α : Type} {action : Action State α} {client after : AgentClient State}
    {returned : α → State → Prop} {raised : PyError → State → Prop}
    (ends : Ends action client.world returned raised) {value : α}
    (run : (onTransport action).run client = (.ok value, after)) :
    returned value after.world ∧
      after = { client with world := after.world } := by
  have changed : (onTransport action).run client =
      ((action.run client.world).1,
        { client with world := (action.run client.world).2 }) := rfl
  rw [changed] at run
  obtain ⟨result, rfl⟩ := Prod.mk.inj run
  exact ⟨ends_of_fst ends result, rfl⟩

namespace UploadHandler

/-! ## Request ids of chunks -/

/-- The request ids of the chunks before an offset. -/
def chunkIds (host : Host World) (uploadId : Json) (limit : Nat) : Set Int :=
  { requestId | ∃ offset, offset < limit ∧ UploadClient.chunkSize ∣ offset ∧
    generateChunkReqId host uploadId offset = .ok requestId }

/-- The request ids of the chunks of a file differ from each other and from
those in use. -/
structure FreshChunks
    (host : Host World) (uploadId : Json) (size : Nat) (ids : Set Int) :
    Prop where
  unused : ∀ requestId ∈ chunkIds host uploadId size, requestId ∉ ids
  distinct : ∀ first second requestId, first < size → second < size →
    UploadClient.chunkSize ∣ first → UploadClient.chunkSize ∣ second →
    generateChunkReqId host uploadId first = .ok requestId →
    generateChunkReqId host uploadId second = .ok requestId →
      first = second

variable {uploadId : Json} {ids : Set Int} {size : Nat}

/-- The id of the next chunk is new. -/
theorem FreshChunks.next
    (fresh : FreshChunks host uploadId size ids) {offset : Nat}
    {requestId : Int} (inside : offset < size)
    (aligned : UploadClient.chunkSize ∣ offset)
    (generated : generateChunkReqId host uploadId offset = .ok requestId) :
    requestId ∉ ids ∪ chunkIds host uploadId offset := by
  rintro (used | ⟨earlier, before, alignedEarlier, same⟩)
  · exact fresh.unused requestId ⟨offset, inside, aligned, generated⟩ used
  · exact absurd (fresh.distinct earlier offset requestId
      (before.trans inside) inside alignedEarlier aligned same generated)
      before.ne

/-- The ids in use once a chunk has been sent. -/
theorem insert_chunkIds_subset
    {offset length : Nat} {requestId : Int} (sends : 0 < length)
    (aligned : UploadClient.chunkSize ∣ offset)
    (generated : generateChunkReqId host uploadId offset = .ok requestId) :
    insert requestId (ids ∪ chunkIds host uploadId offset) ⊆
      ids ∪ chunkIds host uploadId (offset + length) := by
  rintro other (rfl | used | ⟨earlier, before, alignedEarlier, same⟩)
  · exact .inr ⟨offset, Nat.lt_add_of_pos_right sends, aligned, generated⟩
  · exact .inl used
  · exact .inr ⟨earlier, Nat.lt_add_right length before, alignedEarlier, same⟩

end UploadHandler

section Upload

open UploadHandler

variable {files : FileSystem host} {path remoteName localPath : Text}
  {content : Bytes} {transport : ClientTransport State}
  {localFiles : LocalFiles State} {ids : Set Int}
  (trips : host.JsonRoundTrips)
  (valid : guard.validatePath (.string remoteName) = .ok path)
  (link : DelayedLink host guard clientId
    (Undisturbed files path remoteName guard clientId) transport)
  (holdsFile : HoldsFile localFiles link.view localPath content)

/-! ## Chunks -/

include trips valid in
/-- One turn of the loop: the chunk that was read is on the server. -/
theorem putChunk_holding
    {key : Text} (identified : (Json.string key).truthy = true) {offset : Nat}
    (inside : offset < content.length) {chunk : Bytes} {requestId : Int}
    {client after : AgentClient State} {result : ExecuteResult}
    (settled : Settled host guard clientId start ids (link.view client.world))
    (unused : requestId ∉ ids)
    (holding : Holding files path remoteName key content.length
      (content.take offset) (link.view client.world).agent.workspace)
    (run : (executeOperation host transport (some requestId)
      (.putChunk (.string key) offset chunk)).run client = (.ok result, after))
    (succeeded : result.status.equalsInt 200 = true) :
    Settled host guard clientId start (insert requestId ids)
        (link.view after.world) ∧
      Holding files path remoteName key content.length
        (content.take offset ++ chunk)
        (link.view after.world).agent.workspace := by
  have reached : (content.take offset).length = offset :=
    List.length_take_of_le inside.le
  have incomplete : (content.take offset).length ≠ content.length := by
    rw [reached]
    exact inside.ne
  have remote : ∀ payload message header,
      payloadOf host
        (FileOperation.putChunk (.string key) offset chunk).buildRequest =
          .ok payload →
      message.drop headerSize = payload → header.opcode = opPutChunk →
      frame? message = some header →
      RemoteCall host guard clientId
        (Undisturbed files path remoteName guard clientId) message header
        (Holding files path remoteName key content.length
          (content.take offset))
        (Replies host header (Extended files path remoteName key
          content.length (content.take offset ++ chunk))) := by
    intro payload message header payloaded payload_eq opcode framed
    refine putChunk_remote trips valid identified incomplete ?_ payload_eq
      opcode framed
    rw [reached]
    exact payloaded
  have returned := (executeOperation_returned link remote unused settled
    holding run).1
  obtain ⟨data, binary, extended, _⟩ := returned.succeeded trips succeeded
  exact ⟨returned.settled, extended _ rfl⟩

include holdsFile trips valid in
/-- Run lemma: if every chunk from an offset on is sent, then the whole file is
on the server. -/
theorem sendChunks_holding
    {key : Text} (identified : (Json.string key).truthy = true)
    (fresh : FreshChunks host (.string key) content.length ids) (fuel : Nat)
    {offset : Nat} {client after : AgentClient State}
    (position : offset = content.length ∨
      (offset < content.length ∧ UploadClient.chunkSize ∣ offset))
    (enough : content.length ≤ offset + fuel)
    (settled : Settled host guard clientId start
      (ids ∪ chunkIds host (.string key) offset) (link.view client.world))
    (holding : Holding files path remoteName key content.length
      (content.take offset) (link.view client.world).agent.workspace)
    (run : (sendChunks host transport localFiles (.string key) localPath
      content.length fuel offset).run client = (.ok none, after)) :
    Settled host guard clientId start
        (ids ∪ chunkIds host (.string key) content.length)
        (link.view after.world) ∧
      files.content (link.view after.world).agent.workspace.world path =
        some content := by
  induction fuel generalizing offset client with
  | zero =>
      obtain rfl : offset = content.length := by omega
      rw [List.take_length] at holding
      cases run
      exact ⟨settled, holding.content⟩
  | succ fuel inductionHypothesis =>
      rw [sendChunks] at run
      rcases position with rfl | ⟨inside, aligned⟩
      · rw [if_pos le_rfl] at run
        rw [List.take_length] at holding
        cases run
        exact ⟨settled, holding.content⟩
      have before : ¬ (content.length : Int) ≤ (offset : Int) := by
        exact_mod_cast not_le.mpr inside
      rw [if_neg before, run_bind_eq_ok_iff] at run
      obtain ⟨chunk, between, reads, run⟩ := run
      obtain ⟨⟨chunk_eq, quiet⟩, between_eq⟩ := onTransport_ends
        (holdsFile.read client.world offset UploadClient.chunkSize) reads
      have length_eq : chunk.length =
          min UploadClient.chunkSize (content.length - offset) := by
        rw [chunk_eq, List.length_take, List.length_drop]
      have positive : 0 < UploadClient.chunkSize := by decide
      have sends : 0 < chunk.length := by omega
      rw [if_neg (List.ne_nil_of_length_pos sends),
        run_bind_eq_ok_iff] at run
      obtain ⟨requestId, generated, generating, run⟩ := run
      rw [run_bind_eq_ok_iff] at run
      obtain ⟨chunkRes, later, executed, run⟩ := run
      obtain ⟨generates, rfl⟩ := run_lift_eq_ok_iff.mp generating
      rw [← quiet] at settled holding
      cases succeeded : chunkRes.status.equalsInt 200 with
      | false =>
          rw [succeeded, if_neg Bool.false_ne_true] at run
          cases run
      | true =>
      rw [succeeded, if_pos rfl] at run
      obtain ⟨settledLater, holdingLater⟩ := putChunk_holding trips valid link
        identified inside settled (fresh.next inside aligned generates) holding
        executed succeeded
      have extended : content.take offset ++ chunk =
          content.take (offset + chunk.length) := by
        rw [List.take_add, chunk_eq, List.length_take,
          ← List.take_eq_take_min]
      rw [extended] at holdingLater
      refine inductionHypothesis ?_ ?_ (settledLater.mono
        (insert_chunkIds_subset sends aligned generates)) holdingLater run
      · rcases Nat.lt_or_ge (offset + chunk.length) content.length with
          more | all
        · right
          have whole : chunk.length = UploadClient.chunkSize := by omega
          rw [whole] at more ⊢
          exact ⟨more, Nat.dvd_add aligned (Nat.dvd_refl _)⟩
        · left
          omega
      · omega

/-- A chunk that ends the upload has failed. -/
theorem status_of_sendChunks
    {uploadId : Json} {fileSize : Int} {fuel offset : Nat}
    {client after : AgentClient State} {chunkRes : ExecuteResult}
    (run : (sendChunks host transport localFiles uploadId localPath fileSize
      fuel offset).run client = (.ok (some chunkRes), after)) :
    chunkRes.status.equalsInt 200 = false := by
  induction fuel generalizing offset client with
  | zero => cases run
  | succ fuel inductionHypothesis =>
      rw [sendChunks] at run
      split at run
      · cases run
      rw [run_bind_eq_ok_iff] at run
      obtain ⟨chunk, between, _, run⟩ := run
      split at run
      · cases run
      rw [run_bind_eq_ok_iff] at run
      obtain ⟨requestId, generated, _, run⟩ := run
      rw [run_bind_eq_ok_iff] at run
      obtain ⟨result, later, _, run⟩ := run
      cases succeeded : result.status.equalsInt 200 with
      | true =>
          rw [succeeded, if_pos rfl] at run
          exact inductionHypothesis run
      | false =>
          rw [succeeded, if_neg Bool.false_ne_true] at run
          cases run
          exact succeeded

theorem status_of_uploadChunks
    {uploadId : Json} {client : AgentClient State} {chunkRes : ExecuteResult}
    (failed : ((uploadChunks host transport localFiles uploadId
      localPath).run client).1 = .ok (some chunkRes)) :
    chunkRes.status.equalsInt 200 = false := by
  have run : (uploadChunks host transport localFiles uploadId localPath).run
      client = (.ok (some chunkRes), _) := Prod.ext failed rfl
  unfold uploadChunks at run
  rw [run_bind_eq_ok_iff] at run
  obtain ⟨fileSize, measured, _, run⟩ := run
  rw [run_bind_eq_ok_iff] at run
  obtain ⟨_, opened, _, run⟩ := run
  exact status_of_sendChunks run

include holdsFile trips valid in
/-- Sending the chunks, from an empty file on the server. -/
theorem uploadChunks_holding
    {key : Text} (identified : (Json.string key).truthy = true)
    (fresh : FreshChunks host (.string key) content.length ids)
    {client after : AgentClient State}
    (settled : Settled host guard clientId start ids (link.view client.world))
    (holding : Holding files path remoteName key content.length []
      (link.view client.world).agent.workspace)
    (run : (uploadChunks host transport localFiles (.string key)
      localPath).run client = (.ok none, after)) :
    Settled host guard clientId start
        (ids ∪ chunkIds host (.string key) content.length)
        (link.view after.world) ∧
      files.content (link.view after.world).agent.workspace.world path =
        some content := by
  unfold uploadChunks at run
  rw [run_bind_eq_ok_iff] at run
  obtain ⟨fileSize, measured, measures, run⟩ := run
  obtain ⟨⟨rfl, quiet⟩, -⟩ :=
    onTransport_ends (holdsFile.getsize client.world) measures
  rw [run_bind_eq_ok_iff] at run
  obtain ⟨_, opened, opens, run⟩ := run
  obtain ⟨quietToo, -⟩ :=
    onTransport_ends (holdsFile.openRead measured.world) opens
  rw [Int.toNat_natCast] at run
  rw [← quiet, ← quietToo] at settled holding
  have position : (0 : Nat) = content.length ∨
      (0 < content.length ∧ UploadClient.chunkSize ∣ 0) := by
    rcases Nat.eq_zero_or_pos content.length with empty | positive
    · exact .inl empty.symm
    · exact .inr ⟨positive, Nat.dvd_zero _⟩
  exact sendChunks_holding trips valid link holdsFile identified fresh
    content.length position (by omega) (settled.mono Set.subset_union_left)
    holding run

/-! ## The id of the upload -/

/-- The client finds the id of the upload in what the server has sent. -/
theorem uploadIdOf_statusDict
    {entries : List (Text × Json)} {key : Text}
    (identified : Json.get entries "upload_id" = .string key) :
    PutMetaHandler.uploadIdOf
      (ResponseBuilder.statusDict 200 none (.object entries)) =
        .ok (.string key) := by
  have data : metaGet (ResponseBuilder.statusDict 200 none (.object entries))
      "data" (.object []) = .ok (.object entries) := rfl
  have found : metaGet (.object entries) "upload_id" .null =
      .ok (.string key) := by
    rw [← identified]
    rfl
  have root : metaGet (ResponseBuilder.statusDict 200 none (.object entries))
      "upload_id" (.string key) = .ok (.string key) := rfl
  unfold PutMetaHandler.uploadIdOf
  simp only [data, found, root, bind, Except.bind]
  split <;> rfl

/-- An upload without an id has failed. -/
theorem status_of_obtainUploadId
    {client after : AgentClient State} {refused : ExecuteResult}
    (run : (obtainUploadId host transport localFiles localPath
      remoteName).run client = (.ok (.error refused), after)) :
    refused.status.equalsInt 200 = false := by
  unfold obtainUploadId at run
  rw [run_bind_eq_ok_iff] at run
  obtain ⟨error, validated, _, run⟩ := run
  cases error with
  | some message =>
      cases run
      rfl
  | none =>
  rw [run_bind_eq_ok_iff] at run
  obtain ⟨size, measured, _, run⟩ := run
  rw [run_bind_eq_ok_iff] at run
  obtain ⟨metaRes, started, _, run⟩ := run
  cases succeeded : metaRes.status.equalsInt 200 with
  | false =>
      rw [succeeded, if_pos rfl] at run
      cases run
      exact succeeded
  | true =>
      rw [succeeded, if_neg (by simp)] at run
      dsimp only at run
      split at run
      · cases run
        rfl
      · cases run

include holdsFile trips valid in
/-- The upload that was started. -/
theorem obtainUploadId_started
    {client after : AgentClient State} {uploadId : Json} {fileSize : Int}
    (unused : client.nextId ∉ ids)
    (settled : Settled host guard clientId start ids (link.view client.world))
    (run : (obtainUploadId host transport localFiles localPath
      remoteName).run client = (.ok (.ok (uploadId, fileSize)), after)) :
    ∃ key, uploadId = .string key ∧ (Json.string key).truthy = true ∧
      (content.length : Int) ≤ maxFileSize ∧
      Settled host guard clientId start (insert client.nextId ids)
        (link.view after.world) ∧
      Holding files path remoteName key content.length []
        (link.view after.world).agent.workspace := by
  unfold obtainUploadId at run
  rw [run_bind_eq_ok_iff] at run
  obtain ⟨error, validated, validates, run⟩ := run
  have validity : Ends (UploadClient.validateFile localFiles localPath)
      client.world
      (fun error after => (error = none →
          (content.length : Int) ≤ maxFileSize) ∧
        link.view after = link.view client.world)
      (fun _ _ => True) := by
    unfold UploadClient.validateFile
    refine ((holdsFile.pathExists client.world).bind ?_)
    intro present between quiet
    split
    · refine ((holdsFile.getsize between).bind ?_)
      rintro fileSize measured ⟨rfl, quietToo⟩
      split
      · exact ⟨nofun, quietToo.trans quiet⟩
      · next fits => exact ⟨fun _ => not_lt.mp fits, quietToo.trans quiet⟩
    · exact ⟨nofun, quiet⟩
  obtain ⟨⟨fits, quiet⟩, validated_eq⟩ := onTransport_ends validity validates
  cases error with
  | some message => cases run
  | none =>
  rw [run_bind_eq_ok_iff] at run
  obtain ⟨size, measured, measures, run⟩ := run
  obtain ⟨⟨rfl, quietToo⟩, measured_eq⟩ :=
    onTransport_ends (holdsFile.getsize validated.world) measures
  rw [run_bind_eq_ok_iff] at run
  obtain ⟨metaRes, started, executed, run⟩ := run
  cases succeeded : metaRes.status.equalsInt 200 with
  | false =>
      rw [succeeded, if_pos rfl] at run
      cases run
  | true =>
  rw [succeeded, if_neg (by simp)] at run
  have sameId : measured.requestIdOf none = client.nextId := by
    rw [measured_eq, validated_eq]
    rfl
  have remote : ∀ payload message header,
      payloadOf host (FileOperation.putMeta remoteName content.length
        true).buildRequest = .ok payload →
      message.drop headerSize = payload → header.opcode = opPutMeta →
      frame? message = some header →
      RemoteCall host guard clientId
        (Undisturbed files path remoteName guard clientId) message header
        (fun _ => True)
        (Replies host header
          (Started files path remoteName content.length)) :=
    fun _ _ _ => putMeta_remote trips valid
  rw [← sameId] at unused ⊢
  rw [← quiet, ← quietToo] at settled
  have returned := (executeOperation_returned link remote unused settled
    trivial executed).1
  obtain ⟨data, binary, begun, parsed⟩ := returned.succeeded trips succeeded
  obtain ⟨key, entries, _, data_eq, identified, holding⟩ := begun _ rfl
  obtain ⟨rfl, _⟩ := HandlerResult.data.inj data_eq
  have found : metaRes = {
      status := .int 200
      data := some (.json (.object [("upload_id", .string key)])) } := by
    unfold FileOperation.parseResponse PutMetaHandler.parseResponse at parsed
    dsimp only at parsed
    rw [if_pos (by decide), uploadIdOf_statusDict identified] at parsed
    exact (Except.ok.inj parsed).symm
  have uploadId_eq : uploadIdOf metaRes = .string key := by
    rw [found]
    rfl
  rw [uploadId_eq] at run
  dsimp only at run
  cases named : (Json.string key).truthy with
  | false =>
      rw [named, if_pos rfl] at run
      cases run
  | true =>
      rw [named, if_neg (by simp)] at run
      cases run
      exact ⟨key, rfl, named, fits rfl, returned.settled, holding⟩

include holdsFile trips valid in
/-- A finished upload was successful only if every chunk was sent. -/
theorem finish_holding
    {key : Text} (identified : (Json.string key).truthy = true)
    (fresh : FreshChunks host (.string key) content.length ids)
    {client after : AgentClient State} {fileSize : Int}
    {result : ExecuteResult}
    (settled : Settled host guard clientId start ids (link.view client.world))
    (holding : Holding files path remoteName key content.length []
      (link.view client.world).agent.workspace)
    (run : (finish host transport localFiles (.string key) localPath
      fileSize).run client = (.ok result, after))
    (complete : result.status.equalsInt 200 = true) :
    Settled host guard clientId start
        (ids ∪ chunkIds host (.string key) content.length)
        (link.view after.world) ∧
      files.content (link.view after.world).agent.workspace.world path =
        some content := by
  unfold finish at run
  rw [run_bind_eq_ok_iff] at run
  obtain ⟨sent, between, sending, run⟩ := run
  rw [attempted_run] at sending
  obtain ⟨sent_eq, rfl⟩ := Prod.mk.inj sending
  cases outcome : ((uploadChunks host transport localFiles (.string key)
      localPath).run client).1 with
  | error error =>
      rw [outcome] at sent_eq
      rw [← Except.ok.inj sent_eq] at run
      cases run
      cases complete
  | ok failed =>
  rw [outcome] at sent_eq
  rw [← Except.ok.inj sent_eq] at run
  cases failed with
  | some chunkRes =>
      cases run
      have failed : result.status.equalsInt 200 = false :=
        status_of_uploadChunks outcome
      rw [failed] at complete
      exact absurd complete Bool.false_ne_true
  | none =>
      cases run
      exact uploadChunks_holding trips valid link holdsFile identified fresh
        settled holding (Prod.ext outcome rfl)

/-! ## The round trip -/

include trips valid in
/-- GET of a file on the server: its content if the response can be sent, and
an error otherwise. -/
theorem get_reads
    {client after : AgentClient State} {requestIdOverride : Option Int}
    {got : ExecuteResult} (fits : (content.length : Int) ≤ maxFileSize)
    (unused : client.requestIdOf requestIdOverride ∉ ids)
    (settled : Settled host guard clientId start ids (link.view client.world))
    (holds : files.content (link.view client.world).agent.workspace.world
      path = some content)
    (run : (executeOperation host transport requestIdOverride
      (.get remoteName)).run client = (.ok got, after)) :
    (Sendable host (fileInfo remoteName content) (some content) →
        got = { status := .int 200, data := some (.bytes content) }) ∧
      (¬ Sendable host (fileInfo remoteName content) (some content) →
        got.status.equalsInt 200 = false) := by
  have remote : ∀ payload message header,
      payloadOf host (FileOperation.get remoteName).buildRequest = .ok payload →
      message.drop headerSize = payload → header.opcode = opGet →
      frame? message = some header →
      RemoteCall host guard clientId
        (Undisturbed files path remoteName guard clientId) message header
        (fun workspace => files.content workspace.world path = some content)
        (Replies host header (Sent files path remoteName content)) :=
    fun _ _ _ => get_remote trips valid fits
  obtain ⟨header, reply, decoded, encodable, data, responds, read, parsed,
    sent, _⟩ := (executeOperation_returned link remote unused settled holds
      run).1.reply
  exact result_of_sent trips encodable responds read parsed sent

/-- The client is given this id for the upload. -/
def UploadHandler.Obtains
    (host : Host World) (transport : ClientTransport State)
    (localFiles : LocalFiles State) (localPath remoteName : Text)
    (client : AgentClient State) (uploadId : Json) : Prop :=
  ∃ fileSize after, (obtainUploadId host transport localFiles localPath
    remoteName).run client = (.ok (.ok (uploadId, fileSize)), after)

include holdsFile trips valid in
/-- An upload that returns status 200 has left the local file on the server,
and a GET after it returns the same bytes if its response can be sent. -/
theorem upload_round_trip
    {client after : AgentClient State} {result : ExecuteResult}
    (settled : Settled host guard clientId start ids (link.view client.world))
    (unused : client.nextId ∉ ids)
    (fresh : ∀ uploadId, Obtains host transport localFiles localPath
        remoteName client uploadId →
      FreshChunks host uploadId content.length (insert client.nextId ids))
    (run : (UploadHandler.run host transport localFiles localPath
      remoteName).run client = (.ok result, after))
    (complete : result.status.equalsInt 200 = true) :
    files.content (link.view after.world).agent.workspace.world path =
        some content ∧
      ∀ requestIdOverride got final,
        (∀ uploadId, Obtains host transport localFiles localPath remoteName
            client uploadId →
          after.requestIdOf requestIdOverride ∉
            insert client.nextId ids ∪
              chunkIds host uploadId content.length) →
        (executeOperation host transport requestIdOverride
          (.get remoteName)).run after = (.ok got, final) →
          (Sendable host (fileInfo remoteName content) (some content) →
            got = { status := .int 200, data := some (.bytes content) }) ∧
          (¬ Sendable host (fileInfo remoteName content) (some content) →
            got.status.equalsInt 200 = false) := by
  unfold UploadHandler.run at run
  rw [run_bind_eq_ok_iff] at run
  obtain ⟨obtained, between, obtains, run⟩ := run
  cases obtained with
  | error refused =>
      cases run
      have failed : result.status.equalsInt 200 = false :=
        status_of_obtainUploadId obtains
      rw [failed] at complete
      exact absurd complete Bool.false_ne_true
  | ok identified =>
  obtain ⟨uploadId, fileSize⟩ := identified
  have given : Obtains host transport localFiles localPath remoteName client
      uploadId := ⟨fileSize, between, obtains⟩
  obtain ⟨key, rfl, identified, fits, settledThen, holding⟩ :=
    obtainUploadId_started trips valid link holdsFile unused settled obtains
  obtain ⟨settledAfter, holds⟩ := finish_holding trips valid link holdsFile
    identified (fresh _ given) settledThen holding run complete
  refine ⟨holds, fun requestIdOverride got final unusedGet gets => ?_⟩
  exact get_reads trips valid link fits (unusedGet _ given) settledAfter holds
    gets

end Upload

/-! ## A small file -/

theorem eq_mk_of_fst {α β : Type} {pair : α × β} {first : α}
    (same : pair.1 = first) : pair = (first, pair.2) :=
  Prod.ext same rfl

namespace Sample

open MemoryHost

/-- The file that is uploaded. -/
def localContent : Bytes := [1, 2, 3]

/-- A host with what is written in the course of the upload and the GET, and
the digest behind the request id of the chunk. -/
def roundTripHost : Host Files :=
  let key : Json := .string "00000000-0000-4000-8000-000000000000"
  recordedHost
    [.object (PutMetaHandler.buildRequest "a.txt" 3 true).metadata,
      ResponseBuilder.statusDict 200 none
        (.object [("upload_id", key), ("status", .string "ready")]),
      .object (PutChunkHandler.buildRequest key 0 localContent).metadata,
      ResponseBuilder.statusDict 200 none
        (.object
          [("upload_id", key), ("bytes_written", .int 3),
            ("complete", .bool true), ("status", .string "Upload Complete")]),
      .object (GetHandler.buildRequest "a.txt").metadata,
      ResponseBuilder.statusDict 200 none (fileInfo "a.txt" localContent)]
    [((Text.ofString "00000000-0000-4000-8000-000000000000:0").flatMap
        Text.encodePoint,
      "1ab230364d4dd41c94b1127f921bebcb8c71234497a0742349c1cdae9266fc7c")]

/-- Local files that all have this content. -/
def localFiles : LocalFiles (SlowLink Files) where
  pathExists := fun _ => return true
  getsize := fun _ => return (localContent.length : Int)
  openRead := fun _ => return
  read := fun _ position size => return (localContent.drop position).take size

abbrev roundTripTransport : ClientTransport (SlowLink Files) :=
  SlowLink.transport roundTripHost policyGuard "10.0.0.1:5000"

/-- A client of a server without files. -/
def roundTripClient : AgentClient (SlowLink Files) where
  world :=
    { link := {
        agent := {
          workspace := { world := Dict.empty, sessions := Dict.empty }
          cache := Dict.empty } } }

/-- The upload, and the client after it. -/
def roundTripUpload :=
  (UploadHandler.run roundTripHost roundTripTransport localFiles
    "/home/a.txt" "a.txt").run roundTripClient

/-- The GET after the upload. -/
def roundTripGet :=
  (executeOperation roundTripHost roundTripTransport none
    (.get "a.txt")).run roundTripUpload.2

def roundTripFiles : FileSystem roundTripHost := recordedFiles _ _

/-- The client is alone. -/
def roundTripLink :
    DelayedLink roundTripHost policyGuard "10.0.0.1:5000"
      (Undisturbed roundTripFiles "/sandbox/a.txt" "a.txt" policyGuard
        "10.0.0.1:5000") roundTripTransport :=
  SlowLink.delayed fun _ _ own answered =>
    ⟨fun _ => answered, fun foreign => absurd own foreign⟩

theorem localFiles_hold :
    HoldsFile localFiles SlowLink.link "/home/a.txt" localContent where
  pathExists := fun _ => rfl
  getsize := fun _ => ⟨rfl, rfl⟩
  openRead := fun _ => rfl
  read := fun _ _ _ => ⟨rfl, rfl⟩

/-- The id in what the client obtains. -/
def givenId (obtained : Except PyError (Except ExecuteResult (Json × Int))) :
    Json :=
  ((obtained.toOption.bind Except.toOption).map Prod.fst).getD .null

/-- The id the server gives to the upload. -/
theorem uploadId_eq {uploadId : Json}
    (obtains : UploadHandler.Obtains roundTripHost roundTripTransport
      localFiles "/home/a.txt" "a.txt" roundTripClient uploadId) :
    uploadId = .string "00000000-0000-4000-8000-000000000000" := by
  obtain ⟨fileSize, after, run⟩ := obtains
  have same : sameJson
      (givenId ((UploadHandler.obtainUploadId roundTripHost roundTripTransport
        localFiles "/home/a.txt" "a.txt").run roundTripClient).1)
      (.string "00000000-0000-4000-8000-000000000000") = true := by
    decide +kernel
  rw [run] at same
  exact eq_of_sameJson same

theorem chunkId_eq {offset : Nat} {requestId : Int}
    (inside : offset < localContent.length)
    (aligned : UploadClient.chunkSize ∣ offset)
    (generated : UploadHandler.generateChunkReqId roundTripHost
      (.string "00000000-0000-4000-8000-000000000000") offset =
        .ok requestId) :
    offset = 0 ∧ requestId = 308739196 := by
  have first : offset = 0 := by
    have small : offset < 3 := inside
    have large : 3 ≤ UploadClient.chunkSize := by decide
    exact Nat.eq_zero_of_dvd_of_lt aligned (small.trans_le large)
  rw [first] at generated
  have known : UploadHandler.generateChunkReqId roundTripHost
      (.string "00000000-0000-4000-8000-000000000000") 0 =
        .ok 308739196 := by decide +kernel
  exact ⟨first, Except.ok.inj (generated.symm.trans known)⟩

/-- A file of three bytes is uploaded and comes back. -/
theorem upload_round_trip_small :
    roundTripFiles.content
        (roundTripLink.view roundTripUpload.2.world).agent.workspace.world
        "/sandbox/a.txt" = some localContent ∧
      roundTripGet.1 = .ok
        { status := .int 200, data := some (.bytes localContent) } := by
  have finished : (roundTripUpload.1.toOption.any
      fun result => result.status.equalsInt 200) = true := by decide +kernel
  have returned : roundTripGet.1.toBool = true := by decide +kernel
  have getId : roundTripUpload.2.requestIdOf none = 3 := by decide +kernel
  have sendable : Sendable roundTripHost (fileInfo "a.txt" localContent)
      (some localContent) :=
    ⟨_, rfl, by decide +kernel⟩
  cases uploaded : roundTripUpload.1 with
  | error error =>
      rw [uploaded] at finished
      exact absurd finished Bool.false_ne_true
  | ok result =>
  cases gets : roundTripGet.1 with
  | error error =>
      rw [gets] at returned
      exact absurd returned Bool.false_ne_true
  | ok got =>
  rw [uploaded] at finished
  have run : roundTripUpload = (.ok result, roundTripUpload.2) :=
    eq_mk_of_fst uploaded
  have getRun : roundTripGet = (.ok got, roundTripGet.2) :=
    eq_mk_of_fst gets
  have fresh : ∀ uploadId, UploadHandler.Obtains roundTripHost
      roundTripTransport localFiles "/home/a.txt" "a.txt" roundTripClient
      uploadId → UploadHandler.FreshChunks roundTripHost uploadId
        localContent.length (insert roundTripClient.nextId ∅) := by
    intro uploadId obtains
    rw [uploadId_eq obtains]
    constructor
    · rintro requestId ⟨offset, inside, aligned, generated⟩
      rw [(chunkId_eq inside aligned generated).2]
      rintro (same | none)
      · exact absurd same (by decide)
      · exact none
    · intro first second requestId insideFirst insideSecond alignedFirst
        alignedSecond generatedFirst generatedSecond
      rw [(chunkId_eq insideFirst alignedFirst generatedFirst).1,
        (chunkId_eq insideSecond alignedSecond generatedSecond).1]
  have trips : roundTripHost.JsonRoundTrips := recordedHost_roundTrips _ _
  have valid : policyGuard.validatePath (.string "a.txt") =
      .ok "/sandbox/a.txt" := rfl
  obtain ⟨holds, gives⟩ := upload_round_trip trips valid roundTripLink
    localFiles_hold (settled_new rfl) (Set.notMem_empty _) fresh run finished
  refine ⟨holds, ?_⟩
  have unusedGet : ∀ uploadId, UploadHandler.Obtains roundTripHost
      roundTripTransport localFiles "/home/a.txt" "a.txt" roundTripClient
      uploadId → roundTripUpload.2.requestIdOf none ∉
        insert roundTripClient.nextId ∅ ∪
          UploadHandler.chunkIds roundTripHost uploadId
            localContent.length := by
    intro uploadId obtains
    rw [uploadId_eq obtains, getId]
    rintro ((same | none) | ⟨offset, inside, aligned, generated⟩)
    · exact absurd same (by decide)
    · exact none
    · exact absurd (chunkId_eq inside aligned generated).2 (by decide)
  rw [(gives none got roundTripGet.2 unusedGet getRun).1 sendable]
end Sample

end RudpAgentStack

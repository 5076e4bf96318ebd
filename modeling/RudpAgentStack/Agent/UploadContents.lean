import RudpAgentStack.Agent.StrictUploads

/-!
# What a completed upload leaves

Any number of uploads and appends go on at once.  When the last chunk of an
upload is applied, the file holds the chunks of that upload if no request has
interfered with the file since the upload was started.
-/

namespace RudpAgentStack

open Foundation

variable {World : Type} {host : Host World} {guard : PolicyGuard}

/-! ## Requests one after the other -/

namespace FileRequest

/-- A property holds of every request, in the workspace it comes to. -/
def Each
    (host : Host World) (guard : PolicyGuard)
    (property : Workspace World → FileRequest → Prop) :
    Workspace World → List FileRequest → Prop
  | _, [] => True
  | workspace, request :: requests =>
      property workspace request ∧
        Each host guard property
          (request.perform host guard .strict workspace) requests

/-- The chunks that the requests apply to the session of an id. -/
def appliedChunks (host : Host World) (guard : PolicyGuard) (uploadId : Text) :
    Workspace World → List FileRequest → List Bytes
  | _, [] => []
  | workspace, request :: requests =>
      (request.appliedChunk? host guard uploadId workspace).toList ++
        appliedChunks host guard uploadId
          (request.perform host guard .strict workspace) requests

theorem each_append_singleton
    {property : Workspace World → FileRequest → Prop}
    (workspace : Workspace World) (requests : List FileRequest)
    (request : FileRequest) :
    Each host guard property workspace (requests ++ [request]) ↔
      Each host guard property workspace requests ∧
        property (performAll host guard .strict workspace requests)
          request := by
  induction requests generalizing workspace with
  | nil => simp [Each, performAll]
  | cons first requests inductionHypothesis =>
      rw [List.cons_append, Each, Each, inductionHypothesis, and_assoc]
      exact Iff.rfl

theorem Each.mono
    {property other : Workspace World → FileRequest → Prop} {world : World}
    {earlier requests : List FileRequest}
    (each : Each host guard property
      (reached host guard .strict world earlier) requests)
    (implies : ∀ before request,
      property (reached host guard .strict world before) request →
        other (reached host guard .strict world before) request) :
    Each host guard other (reached host guard .strict world earlier)
      requests := by
  induction requests generalizing earlier with
  | nil => trivial
  | cons first requests inductionHypothesis =>
      refine ⟨implies earlier first each.1, ?_⟩
      have performed : first.perform host guard .strict
          (reached host guard .strict world earlier) =
            reached host guard .strict world (earlier ++ [first]) :=
        (performAll_append_singleton _ _ _ _).symm
      have rest := each.2
      rw [performed] at rest ⊢
      exact inductionHypothesis rest

theorem appliedChunks_append_singleton
    (uploadId : Text) (workspace : Workspace World)
    (requests : List FileRequest) (request : FileRequest) :
    appliedChunks host guard uploadId workspace (requests ++ [request]) =
      appliedChunks host guard uploadId workspace requests ++
        (request.appliedChunk? host guard uploadId
          (performAll host guard .strict workspace requests)).toList := by
  induction requests generalizing workspace with
  | nil => simp [appliedChunks, performAll]
  | cons first requests inductionHypothesis =>
      rw [List.cons_append, appliedChunks, appliedChunks, inductionHypothesis,
        List.append_assoc]
      rfl

theorem reached_append
    (world : World) (earlier later : List FileRequest) :
    reached host guard .strict world (earlier ++ later) =
      performAll host guard .strict (reached host guard .strict world earlier)
        later := by
  simp [reached, performAll]

end FileRequest

/-! ## The requests since an upload was started -/

/-- A run of requests, split at the one that last started the upload of an id,
which is for the file of a path. -/
structure UploadHistory
    (host : Host World) (guard : PolicyGuard) (world : World) (uploadId : Text)
    (requests : List FileRequest) where
  earlier : List FileRequest
  opening : FileRequest
  during : List FileRequest
  path : Text
  requests_eq : requests = (earlier ++ [opening]) ++ during
  targets : opening.Targets host guard
    (FileRequest.reached host guard .strict world earlier) path
  ready : opening.reported? host guard
    (FileRequest.reached host guard .strict world earlier) =
      some (uploadId, Text.ofString "ready")
  latest : FileRequest.Each host guard
    (fun workspace request =>
      request.reported? host guard workspace ≠
        some (uploadId, Text.ofString "ready"))
    (FileRequest.reached host guard .strict world (earlier ++ [opening]))
    during

namespace UploadHistory

variable
  {world : World} {uploadId : Text} {requests : List FileRequest}
  {request : FileRequest}

/-- The workspace in which the upload had just been started. -/
def opened (history : UploadHistory host guard world uploadId requests) :
    Workspace World :=
  FileRequest.reached host guard .strict world
    (history.earlier ++ [history.opening])

/-- The chunks applied since then. -/
def applied (history : UploadHistory host guard world uploadId requests) :
    List Bytes :=
  FileRequest.appliedChunks host guard uploadId history.opened history.during

/-- Every request since then has applied a chunk of the upload, or has left
the content of its file as it was. -/
def Undisturbed
    (history : UploadHistory host guard world uploadId requests)
    (files : FileSystem host) : Prop :=
  FileRequest.Each host guard
    (fun workspace request =>
      (request.appliedChunk? host guard uploadId workspace).isSome = true ∨
        files.content (request.perform host guard .strict workspace).world
            history.path =
          files.content workspace.world history.path)
    history.opened history.during

theorem reached_eq
    (history : UploadHistory host guard world uploadId requests) :
    FileRequest.performAll host guard .strict history.opened history.during =
      FileRequest.reached host guard .strict world requests := by
  rw [opened, ← FileRequest.reached_append, ← history.requests_eq]

/-- The history of a run that goes on with a request. -/
def concat
    (history : UploadHistory host guard world uploadId requests)
    (goesOn : request.reported? host guard
      (FileRequest.reached host guard .strict world requests) ≠
        some (uploadId, Text.ofString "ready")) :
    UploadHistory host guard world uploadId (requests ++ [request]) where
  earlier := history.earlier
  opening := history.opening
  during := history.during ++ [request]
  path := history.path
  requests_eq := by
    rw [← List.append_assoc, ← history.requests_eq]
  targets := history.targets
  ready := history.ready
  latest := by
    rw [FileRequest.each_append_singleton]
    refine ⟨history.latest, ?_⟩
    have same := history.reached_eq
    unfold opened at same
    rw [same]
    exact goesOn

section Concat

variable
  (history : UploadHistory host guard world uploadId requests)
  (goesOn : request.reported? host guard
    (FileRequest.reached host guard .strict world requests) ≠
      some (uploadId, Text.ofString "ready"))

theorem applied_concat :
    (history.concat goesOn).applied = history.applied ++
      (request.appliedChunk? host guard uploadId
        (FileRequest.reached host guard .strict world requests)).toList := by
  have extended : FileRequest.appliedChunks host guard uploadId history.opened
      (history.during ++ [request]) = _ :=
    FileRequest.appliedChunks_append_singleton uploadId history.opened
      history.during request
  rw [history.reached_eq] at extended
  exact extended

theorem undisturbed_concat (files : FileSystem host) :
    (history.concat goesOn).Undisturbed files ↔
      history.Undisturbed files ∧
        ((request.appliedChunk? host guard uploadId
            (FileRequest.reached host guard .strict world
              requests)).isSome = true ∨
          files.content (FileRequest.reached host guard .strict world
              (requests ++ [request])).world history.path =
            files.content (FileRequest.reached host guard .strict world
              requests).world history.path) := by
  rw [FileRequest.reached_append, ← history.reached_eq]
  exact FileRequest.each_append_singleton _ _ _

end Concat

end UploadHistory

/-! ## Sessions and their histories -/

/-- A session has got as far as the chunks applied to it reach, and its file
holds them if nothing interfered. -/
structure UploadHistory.Fills
    {world : World} {uploadId : Text} {requests : List FileRequest}
    (history : UploadHistory host guard world uploadId requests)
    (files : FileSystem host) (session : UploadSession) : Prop where
  named : session.uploadId = uploadId
  valid : guard.validatePath (.string session.filename) = .ok history.path
  next : session.nextExpectedOffset = history.applied.flatten.length
  content : history.Undisturbed files →
    files.content (FileRequest.reached host guard .strict world requests).world
      history.path = some history.applied.flatten

/-- Every session has a history. -/
def SessionsFilled
    (files : FileSystem host) (guard : PolicyGuard) (world : World)
    (requests : List FileRequest) : Prop :=
  ∀ key session,
    (FileRequest.reached host guard .strict world requests).sessions.get? key =
      some session →
    ∃ history : UploadHistory host guard world key requests,
      history.Fills files session

theorem SessionsFilled.sound
    {files : FileSystem host} {world : World} {requests : List FileRequest}
    (filled : SessionsFilled files guard world requests) :
    SessionsSound (FileRequest.reached host guard .strict world
      requests).sessions := by
  intro key session known
  obtain ⟨history, fills⟩ := filled key session known
  exact ⟨fills.named, fills.next ▸ Int.natCast_nonneg _⟩

section Step

variable
  {files : FileSystem host} {world : World} {uploadId : Text}
  {requests : List FileRequest} {request : FileRequest}
  {session : UploadSession}

/-- A request that applies no chunk of an upload leaves its session filled. -/
theorem UploadHistory.Fills.concat
    {history : UploadHistory host guard world uploadId requests}
    (fills : history.Fills files session)
    (goesOn : request.reported? host guard
      (FileRequest.reached host guard .strict world requests) ≠
        some (uploadId, Text.ofString "ready"))
    (unapplied : request.appliedChunk? host guard uploadId
      (FileRequest.reached host guard .strict world requests) = none) :
    (history.concat goesOn).Fills files session := by
  have applied := history.applied_concat goesOn
  rw [unapplied, Option.toList_none, List.append_nil] at applied
  refine ⟨fills.named, fills.valid, applied ▸ fills.next, fun calm => ?_⟩
  rw [applied]
  obtain ⟨calm, unchanged⟩ := (history.undisturbed_concat goesOn files).mp calm
  rw [unapplied] at unchanged
  exact (unchanged.resolve_left nofun).trans (fills.content calm)

/-- The next chunk is written where the chunks before it end. -/
theorem UploadHistory.Fills.advance
    {history : UploadHistory host guard world uploadId requests}
    {data : Bytes} {status : Text}
    (fills : history.Fills files session)
    (goesOn : request.reported? host guard
      (FileRequest.reached host guard .strict world requests) ≠
        some (uploadId, Text.ofString "ready"))
    (isApplied : request.appliedChunk? host guard uploadId
      (FileRequest.reached host guard .strict world requests) = some data)
    (chunk : ChunkApplied files guard uploadId session data
      (FileRequest.reached host guard .strict world requests)
      (FileRequest.reached host guard .strict world (requests ++ [request]))
      status) :
    (history.concat goesOn).Fills files (session.advanced data) := by
  have applied := history.applied_concat goesOn
  rw [isApplied, Option.toList_some] at applied
  refine ⟨fills.named, fills.valid, ?_, fun calm => ?_⟩
  · rw [applied, List.flatten_append, List.length_append,
      List.flatten_singleton, Nat.cast_add, ← fills.next]
    rfl
  · rw [applied, List.flatten_append, List.flatten_singleton]
    have calm := ((history.undisturbed_concat goesOn files).mp calm).1
    obtain ⟨path, valid, written⟩ := chunk.content
    obtain rfl := Except.ok.inj (valid.symm.trans fills.valid)
    rw [written]
    change Function.update _ history.path _ history.path = _
    rw [Function.update_self, fills.content calm, fills.next, Option.getD_some,
      Int.toNat_natCast, overwrite_length]

/-- A request that reports nothing of an upload applies no chunk of it. -/
theorem UploadHistory.Fills.elsewhere
    (filled : SessionsFilled files guard world requests)
    (known : (FileRequest.reached host guard .strict world
      requests).sessions.get? uploadId = some session)
    (silent : ∀ status, request.reported? host guard
      (FileRequest.reached host guard .strict world requests) =
        some (uploadId, status) → status = "Duplicate ignored") :
    ∃ history : UploadHistory host guard world uploadId (requests ++ [request]),
      history.Fills files session := by
  obtain ⟨history, fills⟩ := filled uploadId session known
  refine ⟨history.concat fun reported => ?_, fills.concat _
    (FileRequest.appliedChunk?_eq_none fun status reported applied => ?_)⟩
  · exact absurd (silent _ reported) (by decide)
  · rw [silent status reported] at applied
    exact absurd applied (by decide)

/-- A started upload has an empty file and no chunks yet. -/
theorem UploadHistory.Fills.start
    {payload : Bytes} {filename totalSize : Json} {path : Text}
    {size : FloatValue} {overwrite : Bool}
    (asks : PutMetaRequest host guard payload filename path totalSize size
      overwrite)
    (content : files.content (FileRequest.reached host guard .strict world
        (requests ++ [.putMeta payload])).world =
      Function.update (files.content (FileRequest.reached host guard .strict
        world requests).world) path (some []))
    (reported : (FileRequest.putMeta payload).reported? host guard
      (FileRequest.reached host guard .strict world requests) =
        some (uploadId, Text.ofString "ready")) :
    ∃ history : UploadHistory host guard world uploadId
        (requests ++ [.putMeta payload]),
      history.Fills files
        { uploadId, filename := host.str filename, totalSize } := by
  refine ⟨⟨requests, .putMeta payload, [], path, (List.append_nil _).symm,
    ⟨filename, totalSize, size, overwrite, asks⟩, reported, trivial⟩, rfl, ?_,
    rfl, fun _ => ?_⟩
  · have valid := asks.valid
    have isString : filename = .string (host.str filename) :=
      PolicyGuard.eq_string_of_validatePath valid
    rwa [isString] at valid
  · rw [content]
    exact Function.update_self _ _ _

/-- Step lemma: sessions keep their histories. -/
theorem SessionsFilled.concat
    (filled : SessionsFilled files guard world requests)
    (request : FileRequest) :
    SessionsFilled files guard world (requests ++ [request]) := by
  have performed : FileRequest.reached host guard .strict world
      (requests ++ [request]) = request.perform host guard .strict
        (FileRequest.reached host guard .strict world requests) :=
    FileRequest.reached_append world requests [request]
  have effect : RequestEffect files guard _ _ _ _ :=
    request.perform_effect files filled.sound
  rw [← performed] at effect
  intro key session known
  generalize reported : request.reported? host guard
    (FileRequest.reached host guard .strict world requests) = report at effect
  cases effect with
  | kept unapplied sessions others =>
    rw [sessions] at known
    exact UploadHistory.Fills.elsewhere filled known fun status same =>
      unapplied key status (reported.symm.trans same)
  | started asks content sessions =>
    rw [sessions, Dict.get?_set] at known
    split at known
    · next same =>
        cases known
        subst same
        exact UploadHistory.Fills.start asks content reported
    · next different =>
        refine UploadHistory.Fills.elsewhere filled known fun status same => ?_
        cases reported.symm.trans same
        exact absurd rfl different
  | @applied _ data current status _ _ written asks before chunk =>
    by_cases same : key = current
    case neg =>
      have unchanged : (FileRequest.reached host guard .strict world
          requests).sessions.get? key = some session := by
        rcases chunk.sessions with set | deleted
        · rwa [set, Dict.get?_set_of_ne _ _ same] at known
        · rwa [deleted, Dict.get?_del, if_neg same,
            Dict.get?_set_of_ne _ _ same] at known
      refine UploadHistory.Fills.elsewhere filled unchanged fun status' reported' => ?_
      cases reported.symm.trans reported'
      exact absurd rfl same
    subst same
    have advanced : session = written.advanced data := by
      rcases chunk.sessions with set | deleted
      · rw [set, Dict.get?_set_self] at known
        exact (Option.some.inj known).symm
      · rw [deleted, Dict.get?_del, if_pos rfl] at known
        cases known
    obtain ⟨history, fills⟩ := filled key written before
    rw [advanced]
    refine ⟨_, fills.advance ?_ (FileRequest.appliedChunk?_of_reported asks
      chunk.status reported) chunk⟩
    rw [reported]
    rintro ⟨⟩
    exact absurd chunk.status (by decide)

end Step

/-- Run lemma: in every run of a server that started without uploads, sessions
have histories. -/
theorem sessionsFilled
    (files : FileSystem host) (guard : PolicyGuard) (world : World)
    (requests : List FileRequest) :
    SessionsFilled files guard world requests := by
  induction requests using List.reverseRecOn with
  | nil =>
      intro key session known
      change Dict.get? .empty key = _ at known
      rw [Dict.get?_empty] at known
      cases known
  | append_singleton requests request inductionHypothesis =>
      exact inductionHypothesis.concat request

/-- Requests that are about other files do not interfere. -/
theorem UploadHistory.undisturbed_of_elsewhere
    {files : FileSystem host} {world : World} {uploadId : Text}
    {requests : List FileRequest}
    {history : UploadHistory host guard world uploadId requests}
    (elsewhere : FileRequest.Each host guard
      (fun workspace request =>
        (request.appliedChunk? host guard uploadId workspace).isSome = true ∨
          ¬ request.Targets host guard workspace history.path)
      history.opened history.during) :
    history.Undisturbed files := by
  refine FileRequest.Each.mono elsewhere fun before request => ?_
  refine Or.imp_right fun notTarget => ?_
  have effect : RequestEffect files guard _ _ _ _ :=
    request.perform_effect files (sessionsFilled files guard world before).sound
  exact effect.unchanged files notTarget

namespace Sample

open MemoryHost

/-- The files of the sandbox. -/
def uploadFiles : FileSystem uploadHost := memoryFiles _ _

/-- The workspace after some requests to a server without files. -/
def uploaded (requests : List FileRequest) : Workspace Files :=
  FileRequest.reached uploadHost policyGuard .strict Dict.empty requests

/-- The workspace while the upload is going on. -/
def uploading (content : Bytes) (offset : Int) : Workspace Files where
  world := Dict.empty.set "/sandbox/a.txt" content
  sessions := Dict.empty.set uploadId
    { uploadId
      filename := "a.txt"
      totalSize := .int 2
      nextExpectedOffset := offset }

theorem uploaded_startRequest :
    uploaded [startRequest 2] = uploading [] 0 := by
  rfl

theorem perform_chunkRequest :
    (chunkRequest 0 [0x61]).perform uploadHost policyGuard .strict
      (uploading [] 0) = uploading [0x61] 1 := by
  rfl

theorem perform_growRequest :
    (growRequest [0x7A, 0x7A]).perform uploadHost policyGuard .strict
      (uploading [0x61] 1) = uploading [0x61, 0x7A, 0x7A] 1 := by
  rfl

/-- The last chunk is written into what was appended. -/
theorem perform_lastRequest :
    ((chunkRequest 1 [0x62]).perform uploadHost policyGuard .strict
      (uploading [0x61, 0x7A, 0x7A] 1)).world =
        Dict.empty.set (Text.ofString "/sandbox/a.txt") [0x61, 0x62, 0x7A] := by
  rfl

theorem reported?_startRequest :
    (startRequest 2).reported? uploadHost policyGuard (uploaded []) =
      some (uploadId, Text.ofString "ready") := by
  rfl

theorem reported?_chunkRequest :
    (chunkRequest 0 [0x61]).reported? uploadHost policyGuard (uploading [] 0) =
      some (uploadId, Text.ofString "Chunk Applied") := by
  rfl

theorem reported?_growRequest :
    (growRequest [0x7A, 0x7A]).reported? uploadHost policyGuard
      (uploading [0x61] 1) = none := by
  rfl

theorem reported?_lastRequest :
    (chunkRequest 1 [0x62]).reported? uploadHost policyGuard
      (uploading [0x61, 0x7A, 0x7A] 1) =
        some (uploadId, Text.ofString "Upload Complete") := by
  rfl

theorem startRequest_targets (workspace : Workspace Files) :
    (startRequest 2).Targets uploadHost policyGuard workspace
      "/sandbox/a.txt" :=
  ⟨.string "a.txt", .int 2, .finite 2, false,
    ⟨_, rfl, rfl, rfl, rfl⟩, rfl, rfl, rfl⟩

end Sample

namespace Sample

open MemoryHost

/-- An upload of two chunks, between which the file grows. -/
def interrupted : List FileRequest :=
  [startRequest 2, chunkRequest 0 [0x61], growRequest [0x7A, 0x7A]]

theorem uploaded_interrupted :
    uploaded interrupted = uploading [0x61, 0x7A, 0x7A] 1 := by
  have rest : uploaded interrupted = FileRequest.performAll _ _ _
      (uploaded [startRequest 2])
      [chunkRequest 0 [0x61], growRequest [0x7A, 0x7A]] :=
    FileRequest.reached_append _ [startRequest 2] _
  rw [rest, uploaded_startRequest]
  simp only [FileRequest.performAll, List.foldl, perform_chunkRequest,
    perform_growRequest]

/-- The requests since the upload was started. -/
def sinceStart : List FileRequest :=
  [chunkRequest 0 [0x61], growRequest [0x7A, 0x7A], chunkRequest 1 [0x62]]

theorem sinceStart_latest :
    FileRequest.Each uploadHost policyGuard
      (fun workspace request =>
        request.reported? uploadHost policyGuard workspace ≠
          some (uploadId, Text.ofString "ready"))
      (uploading [] 0) sinceStart := by
  simp only [sinceStart, FileRequest.Each, perform_chunkRequest,
    perform_growRequest, reported?_chunkRequest, reported?_growRequest,
    reported?_lastRequest, and_true]
  exact ⟨by decide, nofun, by decide⟩

theorem sinceStart_appliedChunks :
    FileRequest.appliedChunks uploadHost policyGuard uploadId (uploading [] 0)
      sinceStart = [[0x61], [0x62]] := by
  simp only [sinceStart, FileRequest.appliedChunks, perform_chunkRequest,
    perform_growRequest]
  rfl

/-- The history of the interrupted upload. -/
def interruptedHistory :
    UploadHistory uploadHost policyGuard Dict.empty uploadId
      (interrupted ++ [chunkRequest 1 [0x62]]) where
  earlier := []
  opening := startRequest 2
  during := sinceStart
  path := "/sandbox/a.txt"
  requests_eq := by
    simp only [interrupted, sinceStart, List.cons_append, List.nil_append]
  targets := startRequest_targets _
  ready := reported?_startRequest
  latest := by
    rw [List.nil_append, ← uploaded, uploaded_startRequest]
    exact sinceStart_latest

/-- The chunks of the upload. -/
theorem interruptedHistory_applied :
    interruptedHistory.applied = [[0x61], [0x62]] := by
  have opened : interruptedHistory.opened = _ := uploaded_startRequest
  rw [UploadHistory.applied, opened]
  exact sinceStart_appliedChunks

end Sample

end RudpAgentStack

import RudpAgentStack.Agent.LargeReports
import RudpAgentStack.Agent.ReturnedPlans
import RudpAgentStack.Agent.TaskConduct
import RudpAgentStack.Foundation.Chunks
import RudpAgentStack.Foundation.JsonText
import RudpAgentStack.Foundation.PathComponents

/-!
# Digests that are stored

A task stores the digest of a file, which it reads in chunks, in another file
or in the same.  The message that says so becomes an artifact if it is long;
then the artifact can be the file with the digest, under another spelling.
-/

namespace RudpAgentStack

open Foundation

variable {World : Type} {host : Host World} {guard : PolicyGuard}

/-! ## Hashing in chunks -/

/-- The objects of `hashlib.sha256`. -/
structure Hasher where
  State : Type
  initial : State
  update : State → Bytes → State
  hexdigest : State → Text

/-- What the agent relies on in `hashlib.sha256`. -/
structure Hasher.Lawful (hasher : Hasher) : Prop where
  incremental : Incremental hasher.update
  /-- A digest is written with 64 hexadecimal digits. -/
  digits : ∀ state, Text.Ascii (hasher.hexdigest state) ∧
    (hasher.hexdigest state).length = 64

/-- The digest of data. -/
def Hasher.digest (hasher : Hasher) (data : Bytes) : Text :=
  hasher.hexdigest (hasher.update hasher.initial data)

/-- Number of bytes `_tool_stream_read` reads at a time. -/
def readSize : Nat := 65536

/-- The host with the loop of `_tool_hash_sha256` over the chunks that the
generator of `_tool_stream_read` yields. -/
def Host.hashing (host : Host World) (hasher : Hasher) : Host World :=
  { host with
    sha256 := fun data => hasher.hexdigest
      ((readChunks readSize data).foldl hasher.update hasher.initial) }

/-- Hashing the chunks of a file is hashing its bytes. -/
theorem Host.hashing_sha256
    {hasher : Hasher} (lawful : hasher.Lawful) (data : Bytes) :
    (host.hashing hasher).sha256 data = hasher.digest data := by
  have positive : 0 < readSize := by decide
  exact congrArg hasher.hexdigest
    (lawful.incremental.foldl_readChunks positive data hasher.initial)

/-! ## Errors of the operating system -/

/-- Operations that change files raise errors of one class. -/
structure RaisesOnly (host : Host World) (osError : PyError → Prop) :
    Prop where
  makedirs : ∀ path, Keeps (fun _ => True) (host.makedirs path)
    (fun _ => True) osError
  createTemporary : ∀ directory, Keeps (fun _ => True)
    (host.createTemporary directory) (fun _ => True) osError
  writeTemporary : ∀ name data, Keeps (fun _ => True)
    (host.writeTemporary name data) (fun _ => True) osError
  flushTemporary : ∀ name, Keeps (fun _ => True)
    (host.flushTemporary name) (fun _ => True) osError
  syncTemporary : ∀ name, Keeps (fun _ => True)
    (host.syncTemporary name) (fun _ => True) osError
  closeTemporary : ∀ name, Keeps (fun _ => True)
    (host.closeTemporary name) (fun _ => True) osError
  replace : ∀ source target, Keeps (fun _ => True)
    (host.replace source target) (fun _ => True) osError
  remove : ∀ path, Keeps (fun _ => True) (host.remove path)
    (fun _ => True) osError

namespace ToolDispatcher

variable {osError : PyError → Prop}

/-- Writing content that is given raises nothing but errors of the operating
system. -/
theorem finishWrite_raises
    (raisesOnly : RaisesOnly host osError) (safePath temporary : Text)
    (bytes : Bytes) :
    Keeps (fun _ => True) (finishWrite host safePath temporary (.ok bytes))
      (fun _ => True) osError := by
  unfold finishWrite
  refine Keeps.bind (Keeps.tryCatch
    (?fill : Keeps (fun _ => True) _ (fun _ => True) osError)
    fun error raised => (raisesOnly.closeTemporary temporary).bind fun _ _ =>
      Keeps.of_throw raised) fun _ _ => Keeps.tryCatch
    (?rename : Keeps (fun _ => True) _ (fun _ => True) osError)
    fun error raised => ?removal
  case fill =>
    refine Keeps.bind (Keeps.of_lift (fun _ _ => trivial) nofun)
      fun written (_ : True) => ?_
    refine (raisesOnly.writeTemporary temporary written).bind fun _ _ => ?_
    refine (raisesOnly.flushTemporary temporary).bind fun _ _ => ?_
    refine (raisesOnly.syncTemporary temporary).tryCatch fun error raised => ?_
    split
    · exact Keeps.of_pure trivial
    · exact Keeps.of_throw raised
  case rename =>
    exact (raisesOnly.closeTemporary temporary).bind fun _ _ =>
      raisesOnly.replace temporary safePath
  case removal =>
    refine Keeps.bind (Keeps.bind Keeps.of_get fun _ _ =>
      Keeps.of_pure trivial) fun present (_ : True) => ?_
    split
    · exact (raisesOnly.remove temporary).bind fun _ _ =>
        Keeps.of_throw raised
    · exact Keeps.of_throw raised

/-- An atomic write of given content to a valid path raises nothing but errors
of the operating system. -/
theorem atomicWrite_raises
    (raisesOnly : RaisesOnly host osError) {path : Json} {safePath : Text}
    (valid : guard.validatePath path = .ok safePath) (bytes : Bytes) :
    Keeps (fun _ => True) (atomicWrite host guard path (.ok bytes))
      (fun _ => True) osError := by
  rw [atomicWrite_eq, valid]
  refine Keeps.bind (Keeps.of_lift (fun _ _ => trivial) nofun)
    fun written (_ : True) => ?_
  refine (raisesOnly.makedirs _).bind fun _ _ => ?_
  refine (raisesOnly.createTemporary _).bind fun temporary _ => ?_
  exact finishWrite_raises raisesOnly written temporary bytes

/-- An atomic write of given content to a valid path puts it there, or raises
an error of a class. -/
def Writes
    (files : FileSystem host) (guard : PolicyGuard) (osError : PyError → Prop) :
    Prop :=
  ∀ {path : Json} {safePath : Text},
    guard.validatePath path = .ok safePath → ∀ (bytes : Bytes) (world : World),
    Ends (atomicWrite host guard path (.ok bytes)) world
      (fun _ after => files.content after =
        Function.update (files.content world) safePath (some bytes))
      (fun error _ => osError error)

theorem RaisesOnly.writes
    (files : FileSystem host) (raisesOnly : RaisesOnly host osError) :
    Writes files guard osError := by
  intro path safePath valid bytes world
  refine ((atomicWrite_ends files path (.ok bytes) world).and
    (atomicWrite_raises raisesOnly valid bytes world trivial)).mono ?_ ?_
  · rintro _ after ⟨⟨safePath', bytes', valid', ⟨⟩, content_eq⟩, _⟩
    rw [valid] at valid'
    cases valid'
    exact content_eq
  · rintro error _ ⟨_, raised, _⟩
    exact raised

/-! ## The steps of the plan -/

/-- The message that a digest was stored. -/
def hashMessage (host : Host World) (outFile : Json) : Text :=
  Text.ofString "Hash written to " ++ host.str outFile

/-- The context after a file was hashed. -/
def hashedContext (context : Context) (safePath digest : Text) : Context :=
  (context.set "file_stream" (.stream safePath true)).set "hash_result"
    (.text digest)

/-- The context after a digest was stored. -/
def storedContext (context : Context) (message : Text) : Context :=
  (context.set "write_status" (.text "SUCCESS")).set "final_output"
    (.text message)

/-- The step that stores a digest. -/
def storeStep (outFile : Json) : Step where
  tool := .writeFile
  args := [("path", outFile)]
  produces := "write_status"
  consumes := some "hash_result"

/-- The step that reports it. -/
def messageStep (host : Host World) (outFile : Json) : Step where
  tool := .buildReport
  args := [("format", .string "action_completion"),
    ("msg", .string (hashMessage host outFile))]
  produces := "final_output"

section

variable
  {payload : List (Text × Json)} {context : Context} {safePath : Text}
  {bytes : Bytes} {world : World}

/-- The first two steps read the file and hash its bytes. -/
theorem executeSteps_hash
    (files : FileSystem host) (context : Context)
    (valid : guard.validatePath (Json.get payload "input_file") =
      .ok safePath)
    (found : files.content world safePath = some bytes) :
    (executeSteps host guard (Planner.templateHashAndStore host payload)
        context).run world =
      (executeSteps host guard
        [storeStep (Json.get payload "out_file"),
          messageStep host (Json.get payload "out_file")]
        (hashedContext context safePath (host.sha256 bytes))).run world := by
  have streamed : toolStreamRead guard
      [("path", Json.get payload "input_file"), ("binary", .bool true)] =
        .ok (.stream safePath true) := by
    change (do
      let safePath ← guard.validatePath (Json.get payload "input_file")
      return Value.stream safePath true) = _
    rw [valid]
    rfl
  have hashed : (toolHashSha256 host (.stream safePath true)).run world =
      (.ok (.text (host.sha256 bytes)), world) := by
    unfold toolHashSha256 hashedBytes
    rw [run_bind, files.readFile_run found]
    rfl
  have reads : (runTool host guard
      { tool := .streamRead
        args := [("path", Json.get payload "input_file"),
          ("binary", .bool true)]
        produces := "file_stream" } .none context).run world =
        (.ok (.stream safePath true), world) := by
    change (liftM (toolStreamRead guard _) : Action World Value).run world = _
    rw [streamed]
    rfl
  have given : stepInput host
      { tool := .hashSha256
        args := []
        produces := "hash_result"
        consumes := some "file_stream" }
      (context.set "file_stream" (.stream safePath true)) =
        .ok (.stream safePath true) := by
    simp only [stepInput, Context.get?_set_self]
  exact (executeSteps_cons_run _ rfl reads).trans
    (executeSteps_cons_run _ given hashed)

/-- A step ends as its tool does, and stores its output. -/
theorem executeStep_ends
    {step : Step} {input : Value} {returned : Value → World → Prop}
    {raised : PyError → World → Prop}
    (given : stepInput host step context = .ok input)
    (ran : Ends (runTool host guard step input context) world returned raised) :
    Ends (executeStep host guard step context) world
      (fun finished after => ∃ output,
        finished = context.set step.produces output ∧ returned output after)
      raised := by
  unfold executeStep
  rw [given]
  exact Ends.bind_lift (fun _ same => by
    cases same
    exact ran.bind fun output _ holds => ⟨output, rfl, holds⟩) nofun

/-- The other steps put the digest into the file and leave the message, unless
the operating system refuses. -/
theorem executeSteps_store
    {files : FileSystem host} {osError : PyError → Prop}
    (writes : Writes files guard osError) {outFile : Json} {digest : Text}
    (valid : guard.validatePath outFile = .ok safePath)
    (encoded : host.encode digest = .ok bytes)
    (hashed : context.get? "hash_result" = some (.text digest)) :
    Ends (executeSteps host guard
        [storeStep outFile, messageStep host outFile] context) world
      (fun finished after =>
        finished = storedContext context (hashMessage host outFile) ∧
        files.content after =
          Function.update (files.content world) safePath (some bytes))
      (fun error _ => osError error) := by
  have given : stepInput host (storeStep outFile) context =
      .ok (.text digest) := by
    simp only [stepInput, storeStep, hashed]
  have wrote : Ends (runTool host guard (storeStep outFile) (.text digest)
        context) world
      (fun value after => value = .text "SUCCESS" ∧ files.content after =
        Function.update (files.content world) safePath (some bytes))
      (fun error _ => osError error) := by
    have written : writtenBytes host (.text digest) = .ok bytes := encoded
    change Ends (atomicWrite host guard outFile
      (writtenBytes host (.text digest)) >>= fun _ =>
        pure (Value.text "SUCCESS")) world _ _
    rw [written]
    exact (writes valid bytes world).bind fun _ _ stored => ⟨rfl, stored⟩
  have reported : ∀ (between : Context) (after : World),
      (runTool host guard (messageStep host outFile) .none between).run after =
        (.ok (.text (hashMessage host outFile)), after) := fun _ _ => rfl
  refine (executeStep_ends given wrote).bind ?_
  rintro _ after ⟨_, rfl, rfl, stored⟩
  refine (Ends.of_run_ok
    (executeSteps_cons_run [] rfl (reported _ after))).mpr ?_
  exact ⟨rfl, stored⟩

/-- All steps together. -/
theorem executeSteps_hashAndStore
    {files : FileSystem host} {osError : PyError → Prop}
    (writes : Writes files guard osError) (context : Context)
    {safeOut : Text} {stored : Bytes}
    (valid : guard.validatePath (Json.get payload "input_file") =
      .ok safePath)
    (found : files.content world safePath = some bytes)
    (validOut : guard.validatePath (Json.get payload "out_file") = .ok safeOut)
    (encoded : host.encode (host.sha256 bytes) = .ok stored) :
    Ends (executeSteps host guard (Planner.templateHashAndStore host payload)
        context) world
      (fun finished after =>
        finished = storedContext
          (hashedContext context safePath (host.sha256 bytes))
          (hashMessage host (Json.get payload "out_file")) ∧
        files.content after =
          Function.update (files.content world) safeOut (some stored))
      (fun error _ => osError error) := by
  unfold Ends
  rw [executeSteps_hash files context valid found]
  exact executeSteps_store writes validOut encoded
    (Context.get?_set_self _ _ _)

end

/-! ## The message of the plan -/

/-- The message is too long to be returned, and the artifact that it becomes is
this file. -/
def Displaces
    (host : Host World) (guard : PolicyGuard) (context : TaskContext)
    (message safePath : Text) : Prop :=
  ∃ encoded, host.encode message = .ok encoded ∧
    inlineLimit < encoded.length ∧
    guard.validatePath
      (.string (Planner.makeArtifactPath context "result.txt")) = .ok safePath

/-- A fallback artifact is written, or its name is refused. -/
theorem writeFallbackArtifact_writes
    {files : FileSystem host} {osError : PyError → Prop}
    (writes : Writes files guard osError) (content : Bytes) (context : Context)
    (world : World) :
    Ends (writeFallbackArtifact host guard content context) world
      (fun _ after => ∃ safePath,
        guard.validatePath (.string
          (Planner.makeArtifactPath context.initial "result.txt")) =
            .ok safePath ∧
        files.content after =
          Function.update (files.content world) safePath (some content))
      (fun error after => osError error ∨
        guard.validatePath (.string
          (Planner.makeArtifactPath context.initial "result.txt")) =
            .error error ∧ after = world) := by
  unfold writeFallbackArtifact
  rw [fallbackPath_eq]
  cases valid : guard.validatePath (.string
      (Planner.makeArtifactPath context.initial "result.txt")) with
  | error error =>
      have refused : (atomicWrite host guard (.string
          (Planner.makeArtifactPath context.initial "result.txt"))
            (.ok content)).run world = (.error error, world) := by
        rw [atomicWrite_eq, valid]
        rfl
      dsimp only
      rw [Ends.bind_iff, Ends.of_run_error refused]
      exact .inr ⟨rfl, rfl⟩
  | ok safePath =>
      refine Ends.bind ((writes valid content world).mono
        (fun _ _ written => written) fun _ _ raised => .inl raised) ?_
      exact fun _ _ written => ⟨safePath, rfl, written⟩

/-- Returning a message changes a file only if the message displaces it. -/
theorem outcome_message_ends
    {files : FileSystem host} {osError : PyError → Prop}
    (writes : Writes files guard osError) {context : Context} {message : Text}
    (found : context.get? "final_output" = some (.text message))
    (nonempty : message ≠ []) (safePath : Text) (world : World) :
    Ends (outcome host guard .dynamic context) world
      (fun _ after =>
        (∃ encoded, host.encode message = .ok encoded ∧
          inlineLimit < encoded.length ∧
          Displaces host guard context.initial message safePath ∧
          files.content after safePath = some encoded) ∨
        ¬ Displaces host guard context.initial message safePath ∧
          files.content after safePath = files.content world safePath)
      (fun error after => osError error ∨
        ¬ Displaces host guard context.initial message safePath ∧
          files.content after safePath = files.content world safePath) := by
  have isTruthy : (Value.text message).truthy = true := by
    simpa [Value.truthy] using nonempty
  unfold outcome
  rw [found]
  simp only [isTruthy, Bool.true_eq_false, if_false]
  refine Ends.bind_lift (fun encoded given => ?_) fun error refused => ?_
  · have given' : host.encode message = .ok encoded := given
    split
    · next short =>
        refine .inr ⟨?_, rfl⟩
        rintro ⟨_, same, long, _⟩
        rw [given'] at same
        cases same
        omega
    · next long =>
        refine Ends.bind ((writeFallbackArtifact_writes writes encoded context
          world).mono (fun _ _ written => written) fun error after raised => ?_)
          ?_
        · rcases raised with raised | ⟨refused, rfl⟩
          · exact .inl raised
          · refine .inr ⟨?_, rfl⟩
            rintro ⟨_, _, _, valid⟩
            rw [refused] at valid
            cases valid
        · rintro path after ⟨safeArtifact, valid, written⟩
          by_cases same : safeArtifact = safePath
          · subst same
            refine .inl ⟨encoded, given', not_le.mp long,
              ⟨encoded, given', not_le.mp long, valid⟩, ?_⟩
            rw [written, Function.update_self]
          · refine .inr ⟨?_, ?_⟩
            · rintro ⟨_, _, _, valid'⟩
              rw [valid] at valid'
              cases valid'
              exact same rfl
            · rw [written, Function.update_of_ne (Ne.symm same)]
  · refine .inr ⟨?_, rfl⟩
    rintro ⟨_, same, _⟩
    have refused' : host.encode message = .error error := refused
    rw [refused'] at same
    cases same

/-! ## The digest after the plan -/

/-- The plan as the task handler executes it, with itself in its context. -/
def held (plan : Plan) : Plan :=
  { plan with
    initialContext := { plan.initialContext with holdsPlan := true } }

/-- The message of the plan overwrites the digest. -/
def Overwrites
    (host : Host World) (guard : PolicyGuard) (payload : List (Text × Json))
    (context : TaskContext) (safePath : Text) : Prop :=
  Planner.asksForPlan payload = false ∧
    Displaces host guard context
      (hashMessage host (Json.get payload "out_file")) safePath

section

variable
  {files : FileSystem host} {osError : PyError → Prop}
  {payload : List (Text × Json)} {context : TaskContext} {plan : Plan}
  {safeIn safeOut : Text} {bytes stored : Bytes} {world : World}

/-- Unless the operating system refuses, the plan leaves the digest in its
file, or a long message. -/
theorem executePlan_hashAndStore
    (writes : Writes files guard osError)
    (built : Planner.buildPlan host opTaskHashAndStore payload context =
      .ok plan)
    (validIn : guard.validatePath (Json.get payload "input_file") = .ok safeIn)
    (found : files.content world safeIn = some bytes)
    (validOut : guard.validatePath (Json.get payload "out_file") = .ok safeOut)
    (encoded : host.encode (host.sha256 bytes) = .ok stored) :
    Ends (executePlan host guard (held plan)) world
      (fun _ after =>
        (∃ message, inlineLimit < message.length ∧
          Overwrites host guard payload context safeOut ∧
          files.content after safeOut = some message) ∨
        ¬ Overwrites host guard payload context safeOut ∧
          files.content after safeOut = some stored)
      (fun error after => osError error ∨
        ¬ Overwrites host guard payload context safeOut ∧
          files.content after safeOut = some stored) := by
  obtain ⟨_, policy, initial, steps, extra, templated, extraSteps, steps_eq⟩ :=
    Planner.of_buildPlan built
  have hashes : steps = Planner.templateHashAndStore host payload := by
    rcases Planner.of_template templated with
      ⟨search, _⟩ | ⟨filter, _⟩ | ⟨_, hashes⟩
    · exact absurd search (by decide)
    · exact absurd filter (by decide)
    · exact hashes
  subst hashes
  have stepsEnd := executeSteps_hashAndStore writes
    { initial := { context with holdsPlan := true } } validIn found validOut
    encoded
  have extra_eq := Planner.planSteps_eq extraSteps
  rcases executed : (executeSteps host guard
      (Planner.templateHashAndStore host payload)
      { initial := { context with holdsPlan := true } }).run world with
    ⟨error | finished, after⟩
  · have run : (executePlan host guard (held plan)).run world =
        (.error error, after) := by
      unfold executePlan held
      rw [run_bind, steps_eq, executeSteps_append, run_bind, initial, executed]
    rw [Ends.of_run_error executed] at stepsEnd
    exact (Ends.of_run_error run).mpr (.inl stepsEnd)
  · rw [Ends.of_run_ok executed] at stepsEnd
    obtain ⟨finished_eq, content_eq⟩ := stepsEnd
    have holds : files.content after safeOut = some stored := by
      rw [content_eq, Function.update_self]
    cases asks : Planner.asksForPlan payload with
    | true =>
        obtain ⟨steps, steps_eq', execution⟩ :=
          executePlan_run_of_asks guard asks built
        rw [if_pos asks] at extra_eq
        rw [steps_eq, extra_eq] at steps_eq'
        have same := List.append_cancel_right steps_eq'
        subst same
        have run := execution world
        rw [executed] at run
        refine (Ends.of_run_error run).mpr (.inr ⟨?_, holds⟩)
        rintro ⟨unasked, _⟩
        rw [asks] at unasked
        cases unasked
    | false =>
        rw [asks, if_neg Bool.false_ne_true] at extra_eq
        rw [extra_eq, List.append_nil] at steps_eq
        have executed' : (executeSteps host guard (held plan).steps
            { initial := (held plan).initialContext }).run world =
              (.ok finished, after) := by
          unfold held
          rw [steps_eq, initial, executed]
        have isDynamic : (held plan).outputPolicy = .dynamic := policy
        have message : finished.get? "final_output" = some (.text
            (hashMessage host (Json.get payload "out_file"))) := by
          rw [finished_eq, storedContext, Context.get?_set_self]
        have names : Displaces host guard finished.initial
            (hashMessage host (Json.get payload "out_file")) safeOut ↔
              Overwrites host guard payload context safeOut := by
          rw [finished_eq, Overwrites, asks]
          exact (and_iff_right rfl).symm
        rw [executePlan_ends_iff executed', isDynamic]
        refine (outcome_message_ends writes message (List.cons_ne_nil _ _)
          safeOut after).mono ?_ ?_
        · rintro _ left (⟨encoded, _, long, displaces, content_eq⟩ |
            ⟨undisturbed, same⟩)
          · exact .inl ⟨encoded, long, names.mp displaces, content_eq⟩
          · exact .inr ⟨fun overwrites => undisturbed (names.mpr overwrites),
              same.trans holds⟩
        · rintro error left (raised | ⟨undisturbed, same⟩)
          · exact .inl raised
          · exact .inr ⟨fun overwrites => undisturbed (names.mpr overwrites),
              same.trans holds⟩

/-- A digest is stored as its digits. -/
theorem encode_sha256
    {hasher : Hasher} (lawful : hasher.Lawful) (host : Host World)
    (bytes : Bytes) :
    ∃ stored, (host.hashing hasher).encode
        ((host.hashing hasher).sha256 bytes) = .ok stored ∧
      stored = (hasher.digest bytes).flatMap Text.encodePoint ∧
      stored.length = 64 := by
  obtain ⟨ascii, digits⟩ := lawful.digits
    (hasher.update hasher.initial bytes)
  obtain ⟨stored, given, length_eq⟩ := Text.encodeUtf8_of_ascii ascii
  have encoded_eq : Text.encodeUtf8 (hasher.digest bytes) = some stored := given
  refine ⟨stored, ?_, ?_, length_eq.trans digits⟩
  · rw [Host.hashing_sha256 lawful, Host.encode, encoded_eq]
  · exact (Text.encodeUtf8_eq_some_iff.mp encoded_eq).2.symm

end

end ToolDispatcher

/-! ## Digests in memory -/

namespace Sample

/-- Hashing by a table of digests. -/
def tableHasher (digests : List (Bytes × Text)) : Hasher where
  State := Bytes
  initial := []
  update := fun hashed chunk => hashed ++ chunk
  hexdigest := fun data =>
    (digests.lookup data).getD (List.replicate 64 0x30)

theorem tableHasher_lawful
    {digests : List (Bytes × Text)}
    (digits : ∀ entry ∈ digests, Text.Ascii entry.2 ∧ entry.2.length = 64) :
    (tableHasher digests).Lawful where
  incremental := ⟨List.append_nil, List.append_assoc⟩
  digits := by
    intro (data : Bytes)
    change Text.Ascii ((digests.lookup data).getD _) ∧
      ((digests.lookup data).getD _).length = 64
    cases found : digests.lookup data with
    | none =>
        refine ⟨fun point member => ?_, List.length_replicate⟩
        rw [List.eq_of_mem_replicate member]
        decide
    | some text =>
        obtain ⟨before, later, rfl, _⟩ := List.lookup_eq_some_iff.mp found
        exact digits (data, text) (by simp)

/-- The files of a host in memory, whatever it hashes with. -/
def hashingFiles
    (texts : List (Text × Json)) (hasher : Hasher) :
    FileSystem ((memoryHost texts []).hashing hasher) :=
  { memoryFiles texts [] with }

/-- In memory nothing but a missing file is refused. -/
theorem raisesOnly_memoryHost (texts : List (Text × Json)) (hasher : Hasher) :
    RaisesOnly ((memoryHost texts []).hashing hasher)
      (fun error => error.kind = .fileNotFoundError) where
  makedirs := fun _ _ _ => ⟨trivial, trivial⟩
  createTemporary := fun _ _ _ => ⟨trivial, trivial⟩
  writeTemporary := fun _ _ _ _ => ⟨trivial, trivial⟩
  flushTemporary := fun _ _ _ => ⟨trivial, trivial⟩
  syncTemporary := fun _ _ _ => ⟨trivial, trivial⟩
  closeTemporary := fun _ _ _ => ⟨trivial, trivial⟩
  replace := by
    intro source target files _
    change Ends (MemoryHost.readFile source >>= fun content => modify _) files
      _ _
    rw [Ends.bind_iff, MemoryHost.readFile_ends_iff]
    cases files.get? source with
    | none => exact ⟨rfl, trivial⟩
    | some content => exact ⟨trivial, trivial⟩
  remove := fun _ _ _ => ⟨trivial, trivial⟩

/-- Data to hash the file into a file. -/
def hashData (outFile : Text) : List (Text × Json) :=
  [(Text.ofString "input_file", .string "notes.txt"),
    (Text.ofString "out_file", .string outFile)]

/-- The text whose digest names the plan. -/
def hashPlanText (outFile : Text) : Text :=
  Text.ofString "18-" ++ (Json.object (hashData outFile)).write true ++
    "-ExecutionMode.MEMORY-OutputPolicy.DYNAMIC-True"

/-- The digests of the file and of the text for hashing it into itself. -/
def hashDigests : List (Bytes × Text) :=
  [([0x78, 0x0A, 0x79, 0x0A],
      "09834d488008f5f1ef589a2d7cedc52425bee9dd23b2212e4c1d673c5cbb54e4"),
    ((hashPlanText "notes.txt").flatMap Text.encodePoint,
      "87be579fe27fb6a8b13e180fd41d1b2437bcc213083af8d6e928f480ce1a51ac")]

theorem hashDigests_lawful : (tableHasher hashDigests).Lawful := by
  apply tableHasher_lawful
  intro entry member
  rcases List.mem_cons.mp member with rfl | member
  · exact ⟨Text.ascii_of_all (by decide), rfl⟩
  · rw [List.mem_singleton.mp member]
    exact ⟨Text.ascii_of_all (by decide), rfl⟩

/-- A host that hashes with them. -/
def hashHost : Host MemoryHost.Files :=
  (memoryHost [] []).hashing (tableHasher hashDigests)

/-- The digits of the file. -/
def notesDigest : Text :=
  (tableHasher hashDigests).digest [0x78, 0x0A, 0x79, 0x0A]

/-- The context in which the plan is executed. -/
def heldContext : Context :=
  { initial := { planContext with holdsPlan := true } }

theorem hashPlanText_ascii (outFile : Text) :
    Text.Ascii (hashPlanText outFile) := by
  refine ((Text.ascii_of_all (by decide)).append
    (Json.write_object_ascii true ?_)).append (Text.ascii_of_all (by decide))
  intro entry member
  rcases List.mem_cons.mp member with rfl | member
  · exact Json.write_string_ascii true _
  · rw [List.mem_singleton.mp member]
    exact Json.write_string_ascii true _

/-- The plan is made, whatever the name of the file. -/
theorem built_hashData (outFile : Text) :
    ∃ plan, Planner.buildPlan hashHost opTaskHashAndStore (hashData outFile)
        planContext = .ok plan ∧
      plan.steps = Planner.templateHashAndStore hashHost (hashData outFile) ∧
      plan.initialContext = planContext ∧ plan.outputPolicy = .dynamic := by
  obtain ⟨bytes, encoded, _⟩ :=
    Text.encodeUtf8_of_ascii (hashPlanText_ascii outFile)
  have planned : Planner.buildPlan hashHost opTaskHashAndStore
      (hashData outFile) planContext =
        (hashHost.encode (hashPlanText outFile) >>= fun planBytes => .ok
          { planId := (hashHost.sha256 planBytes).take 16
            taskType := opTaskHashAndStore
            executionMode := .memory
            outputPolicy := .dynamic
            steps := Planner.templateHashAndStore hashHost (hashData outFile)
            sideEffects := true
            explanation := "Compute SHA256 hash and store to file."
            initialContext := planContext }) := rfl
  rw [Host.encode, encoded] at planned
  exact ⟨_, planned, rfl, rfl, rfl⟩

/-- The context after the file was hashed into itself. -/
def finishedContext : Context :=
  ToolDispatcher.storedContext
    (ToolDispatcher.hashedContext heldContext "/sandbox/notes.txt" notesDigest)
    (ToolDispatcher.hashMessage hashHost (.string "notes.txt"))

theorem executed_hashData :
    ∃ after, (ToolDispatcher.executeSteps hashHost policyGuard
        (Planner.templateHashAndStore hashHost (hashData "notes.txt"))
        heldContext).run files = (.ok finishedContext, after) := by
  have valid : policyGuard.validatePath
      (Json.get (hashData "notes.txt") "input_file") =
        .ok "/sandbox/notes.txt" := rfl
  have found : (hashingFiles [] (tableHasher hashDigests)).content files
      "/sandbox/notes.txt" = some [0x78, 0x0A, 0x79, 0x0A] := rfl
  have hashed := ToolDispatcher.executeSteps_hash
    (hashingFiles [] (tableHasher hashDigests)) heldContext valid found
  rw [Host.hashing_sha256 hashDigests_lawful] at hashed
  exact ⟨_, hashed.trans rfl⟩

/-- Writing to a valid path in memory does not raise. -/
theorem writes_hashHost :
    ToolDispatcher.Writes (hashingFiles [] (tableHasher hashDigests))
      policyGuard (fun _ => False) := by
  intro path safePath valid bytes world
  have returns : Ends (ToolDispatcher.atomicWrite (memoryHost [] [])
      policyGuard path (.ok bytes)) world (fun _ _ => True)
      (fun _ _ => False) := MemoryHost.atomicWrite_returns valid bytes world
  refine ((ToolDispatcher.atomicWrite_ends
    (hashingFiles [] (tableHasher hashDigests)) path (.ok bytes) world).and
      returns).mono ?_ fun _ _ raised => raised.2
  rintro _ after ⟨⟨safePath', bytes', valid', ⟨⟩, content_eq⟩, _⟩
  cases valid.symm.trans valid'
  exact content_eq

/-- The name of the artifact with the message, as an absolute path. -/
def artifactName : Text := "/sandbox/artifacts/default_client/1_result.txt"

/-- Longer names of the same file. -/
def longName (count : Nat) : Text :=
  List.replicate (count + 3) PosixPath.separator ++
    Text.ofString "sandbox/artifacts/default_client/1_result.txt"

theorem validatePath_longName (count : Nat) :
    policyGuard.validatePath (.string (longName count)) = .ok artifactName := by
  have absolute : PosixPath.isAbsolute (longName count) = true := rfl
  have joined : PosixPath.join policyGuard.sandboxRoot (longName count) =
      longName count := if_pos absolute
  have normalized : PosixPath.normalize (longName count) = artifactName := by
    rw [longName, PosixPath.normalize_separators (by decide)]
    rfl
  have isTruthy : (Json.string (longName count)).truthy = true := rfl
  unfold PolicyGuard.validatePath
  rw [isTruthy, if_neg (by decide)]
  dsimp only
  rw [joined, normalized]
  rfl

theorem longName_ascii (count : Nat) : Text.Ascii (longName count) := by
  refine Text.Ascii.append (fun point member => ?_)
    (Text.ascii_of_all (by decide))
  rw [List.eq_of_mem_replicate member]
  decide

/-- The message with a name that is long enough overwrites the digest. -/
theorem overwrites_longName {count : Nat} (long : 65536 ≤ count) :
    ToolDispatcher.Overwrites hashHost policyGuard (hashData (longName count))
      planContext artifactName := by
  have ascii : Text.Ascii (Text.ofString "Hash written to " ++
      longName count) :=
    (Text.ascii_of_all (by decide)).append (longName_ascii count)
  obtain ⟨encoded, given, length_eq⟩ := Text.encodeUtf8_of_ascii ascii
  refine ⟨rfl, encoded, ?_, ?_, rfl⟩
  · change hashHost.encode (Text.ofString "Hash written to " ++
      longName count) = _
    rw [Host.encode, given]
  · have limit : inlineLimit = 65536 := rfl
    rw [length_eq, longName, List.length_append, List.length_append,
      List.length_replicate]
    omega

end Sample

end RudpAgentStack

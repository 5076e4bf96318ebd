import RudpAgentStack.Agent.ExecutionModes
import RudpAgentStack.Foundation.NumberedLines

/-!
# Reports in the two execution modes

The two modes search the same text for the same query.  Their reports agree
exactly when the listing of its pieces agrees with that of its file lines.
-/

namespace RudpAgentStack

open Foundation

variable {World : Type} {host : Host World} {guard : PolicyGuard}

namespace ToolDispatcher

/-! ## Listings -/

/-- A listed line as the report shows it. -/
def entry (found : Nat × Text) : Text :=
  Text.ofString "Line " ++ Text.ofInt found.1 ++ ": " ++ found.2

/-- The entry that ends a full listing. -/
def truncated : Text := Text.ofString "... (Truncated)"

/-- The entries of a listing, with the end of a full one. -/
def entries (budget : Nat) (listing : List (Nat × Text)) : List Text :=
  listing.map entry ++ if listing.length = budget then [truncated] else []

theorem entries_cons
    (budget : Nat) (found : Nat × Text) (listing : List (Nat × Text)) :
    entries (budget + 1) (found :: listing) =
      entry found :: entries budget listing := by
  simp [entries]

theorem entry_inj {found found' : Nat × Text}
    (same : entry found = entry found') : found = found' := by
  obtain ⟨number, text⟩ := found
  obtain ⟨number', text'⟩ := found'
  have colon : Text.ofString ": " = 0x3A :: [0x20] := by decide
  simp only [entry, List.append_assoc, List.append_cancel_left_eq, colon,
    List.cons_append, List.nil_append] at same
  obtain ⟨rfl, rest⟩ := Text.ofInt_append_inj (.inr (by decide)) same
  cases rest
  rfl

theorem entry_ne_truncated (found : Nat × Text) : entry found ≠ truncated := by
  intro same
  have heads := congrArg List.head? same
  simp [entry, truncated, Text.ofString] at heads

/-- Different listings have different entries. -/
theorem entries_inj {budget : Nat} {listing listing' : List (Nat × Text)}
    (same : entries budget listing = entries budget listing') :
    listing = listing' := by
  have shown : ∀ listing, (entries budget listing).takeWhile
      (fun shown => decide (shown ≠ truncated)) = listing.map entry := by
    intro listing
    rw [entries, List.takeWhile_append_of_pos]
    · split <;> simp
    · intro shown member
      obtain ⟨found, _, rfl⟩ := List.mem_map.mp member
      simpa using entry_ne_truncated found
  have sameMap := (shown listing).symm.trans (same ▸ shown listing')
  exact List.map_injective_iff.mpr (fun _ _ => entry_inj) sameMap

theorem searchFrom_cons
    (query : Text) (index : Nat) (results : List Text) (line : Text)
    (lines : List Text) :
    searchFrom query index results (line :: lines) =
      if Text.contains line query then
        if 1000 < (results ++ [entry (index + 1, Text.strip line)]).length then
          results ++ [entry (index + 1, Text.strip line)] ++ [truncated]
        else searchFrom query (index + 1)
          (results ++ [entry (index + 1, Text.strip line)]) lines
      else searchFrom query (index + 1) results lines := rfl

/-- The loop of a search adds the entries of a listing. -/
theorem searchFrom_eq
    (query : Text) (index : Nat) {results : List Text}
    (few : results.length ≤ 1000) (lines : List Text) :
    searchFrom query index results lines = results ++
      entries (1001 - results.length)
        (Text.listed query (1001 - results.length) index lines) := by
  induction lines generalizing index results with
  | nil =>
      obtain ⟨budget, budget_eq⟩ : ∃ budget, 1001 - results.length = budget + 1 :=
        ⟨1000 - results.length, by omega⟩
      rw [budget_eq]
      simp [searchFrom, Text.listed, entries]
  | cons line lines inductionHypothesis =>
      obtain ⟨budget, budget_eq⟩ : ∃ budget, 1001 - results.length = budget + 1 :=
        ⟨1000 - results.length, by omega⟩
      rw [budget_eq, searchFrom_cons, Text.listed_cons]
      split
      · next found =>
          have added : (results ++ [entry (index + 1, Text.strip line)]).length =
              results.length + 1 := by simp
          have budgetAfter : 1001 - (results.length + 1) = budget := by omega
          rw [entries_cons, added]
          split
          · next full =>
              have last : budget = 0 := by omega
              subst last
              simp [entries]
          · next notFull =>
              rw [inductionHypothesis (index + 1) (by rw [added]; omega), added,
                budgetAfter, List.append_assoc, List.singleton_append]
      · rw [inductionHypothesis _ few, budget_eq]

/-! ## Reports -/

/-- The report on a list of results. -/
def report (results : List Text) : Text :=
  Text.ofString "Search Found " ++ Text.ofInt results.length ++
    " matches:\n" ++ Text.join "\n" results

/-- Different results without newlines have different reports. -/
theorem report_inj {results results' : List Text}
    (noNewline : ∀ result ∈ results, (0x0A : CodePoint) ∉ result)
    (noNewline' : ∀ result ∈ results', (0x0A : CodePoint) ∉ result)
    (same : report results = report results') : results = results' := by
  have space : Text.ofString " matches:\n" =
      0x20 :: Text.ofString "matches:\n" := by decide
  have newline : Text.ofString "\n" = [0x0A] := by decide
  simp only [report, List.append_assoc, List.append_cancel_left_eq, space,
    List.cons_append] at same
  obtain ⟨sameLength, rest⟩ := Text.ofInt_append_inj (.inl (by decide)) same
  rw [List.append_cancel_left_eq, newline] at rest
  by_cases empty : results = []
  · subst empty
    rw [eq_comm, List.length_nil, List.length_eq_zero_iff] at sameLength
    exact sameLength.symm
  · have nonempty' : results' ≠ [] := by
      rintro rfl
      exact empty (List.length_eq_zero_iff.mp sameLength)
    rw [← List.splitOn_intercalate (0x0A : CodePoint) noNewline empty,
      ← List.splitOn_intercalate (0x0A : CodePoint) noNewline' nonempty']
    exact congrArg (List.splitOn 0x0A) rest

/-- Where trimmed lines have no newlines, their entries have none. -/
theorem newline_not_mem_entries
    {query : Text} {budget index : Nat} {lines : List Text}
    (trimmed : ∀ line ∈ lines, (0x0A : CodePoint) ∉ Text.strip line)
    (limit : Nat) :
    ∀ shown ∈ entries limit (Text.listed query budget index lines),
      (0x0A : CodePoint) ∉ shown := by
  intro shown member
  rcases List.mem_append.mp member with listed | last
  · obtain ⟨found, isListed, rfl⟩ := List.mem_map.mp listed
    obtain ⟨line, isLine, same⟩ := Text.mem_listed isListed
    have noDigit : (0x0A : CodePoint) ∉ Text.ofInt found.1 := by
      intro inNumber
      have digit := Text.digit_of_mem_ofInt inNumber
      exact absurd digit.1 (by decide)
    have inWords : (0x0A : CodePoint) ∉ Text.ofString "Line " ∧
        (0x0A : CodePoint) ∉ Text.ofString ": " := by decide
    simp only [entry, List.mem_append, same, not_or]
    exact ⟨⟨⟨inWords.1, noDigit⟩, inWords.2⟩, trimmed line isLine⟩
  · split at last
    · rw [List.mem_singleton.mp last]
      decide
    · cases last

end ToolDispatcher

/-- Trimmed lines of both cuts have no newlines. -/
theorem newline_not_mem_strip
    (text : Text) (mode : ExecutionMode) :
    ∀ line ∈ linesRead text mode, (0x0A : CodePoint) ∉ Text.strip line := by
  intro line isLine member
  cases mode with
  | memory =>
      have unbroken := Text.unbroken_of_mem_splitlines
        (Text.return_not_mem_universalNewlines text) isLine _
        (Text.mem_of_mem_strip member)
      cases unbroken
  | stream =>
      obtain ⟨_, body, noNewline, shape⟩ := Text.of_mem_fileLines isLine
      rcases shape with rfl | rfl
      · exact noNewline (Text.mem_of_mem_strip member)
      · have blank : Text.Blank [0x0A] := by
          simp [Text.Blank, Text.isSpace]
        rw [Text.strip_append_blank body blank] at member
        exact noNewline (Text.mem_of_mem_strip member)

/-- The reports of the two modes on a text agree exactly when the listings
do. -/
theorem report_eq_iff (query text : Text) :
    ToolDispatcher.report
        (ToolDispatcher.searchFrom query 0 [] (linesRead text .memory)) =
      ToolDispatcher.report
        (ToolDispatcher.searchFrom query 0 [] (linesRead text .stream)) ↔
      Text.SearchedAlike query 1001 (Text.universalNewlines text) := by
  rw [← Text.listed_eq_iff 1000 0
    (Text.return_not_mem_universalNewlines text)]
  simp only [ToolDispatcher.searchFrom_eq query 0
    (show ([] : List Text).length ≤ 1000 by decide), List.nil_append,
    List.length_nil, Nat.sub_zero]
  constructor
  · intro same
    exact ToolDispatcher.entries_inj (ToolDispatcher.report_inj
      (ToolDispatcher.newline_not_mem_entries
        (newline_not_mem_strip text .memory) _)
      (ToolDispatcher.newline_not_mem_entries
        (newline_not_mem_strip text .stream) _) same)
  · intro same
    exact congrArg (fun listing =>
      ToolDispatcher.report (ToolDispatcher.entries 1001 listing)) same

/-! ## Plans -/

/-- The plan runs and leaves the report as its final output. -/
def Reports
    (host : Host World) (guard : PolicyGuard) (plan : Plan) (world : World)
    (report : Text) : Prop :=
  ∃ finished, (ToolDispatcher.executeSteps host guard plan.steps
      { initial := plan.initialContext }).run world = (.ok finished, world) ∧
    finished.get? "final_output" = some (.text report)

theorem executeSteps_report
    {context : Context} {results : List Text} (world : World)
    (found : context.get? "search_results" = some (.lines results)) :
    (ToolDispatcher.executeSteps host guard
      [{ tool := .buildReport
         args := [("format", .string "search_summary")]
         produces := "final_output"
         consumes := some "search_results" }] context).run world =
      (.ok (context.set "final_output"
        (.text (ToolDispatcher.report results))), world) := by
  have given : ToolDispatcher.stepInput host
      { tool := .buildReport
        args := [("format", .string "search_summary")]
        produces := "final_output"
        consumes := some "search_results" } context =
      .ok (.lines results) := by
    simp only [ToolDispatcher.stepInput, found]
  rw [ToolDispatcher.executeSteps_cons_run [] given rfl]
  rfl

/-- The report of a plan to search a text in one of the modes. -/
theorem TextInput.reports
    {files : FileSystem host} {payload : List (Text × Json)} {world : World}
    (input : TextInput files guard payload world)
    (noPlan : AsksNoPlan payload) {context : TaskContext} {plan : Plan}
    (planned : Planner.buildPlan host opTaskSearchReport payload context =
      .ok plan) :
    Reports host guard plan world (ToolDispatcher.report
      (ToolDispatcher.searchFrom input.query 0 []
        (linesRead input.text plan.executionMode))) := by
  obtain ⟨_, _, templated⟩ := noPlan.template_eq planned
  obtain ⟨_, steps⟩ | ⟨other, _⟩ | ⟨other, _⟩ := Planner.of_template templated
  · rw [Reports, steps, Planner.templateSearchReport]
    rw [input.executeSteps_run plan.executionMode _
      { tool := .searchLines
        args := [("pattern", Json.get payload "query")]
        produces := "search_results"
        consumes := some
          (Planner.readStep payload plan.executionMode).produces }
      _ rfl fun _ => input.toolSearchLines_run plan.executionMode]
    exact ⟨_, executeSteps_report world (Context.get?_set_self _ _ _),
      Context.get?_set_self _ _ _⟩
  · cases other
  · cases other

/-- The reports of a search in the two modes agree exactly when the listing of
the pieces of the text agrees with that of its file lines. -/
theorem report_modes_agree_iff
    {files : FileSystem host} {payload : List (Text × Json)} {world : World}
    (input : TextInput files guard payload world)
    (noPlan : AsksNoPlan payload)
    {memoryContext streamContext : TaskContext} {memoryPlan streamPlan : Plan}
    (memoryPlanned : Planner.buildPlan host opTaskSearchReport payload
      memoryContext = .ok memoryPlan)
    (inMemory : memoryPlan.executionMode = .memory)
    (streamPlanned : Planner.buildPlan host opTaskSearchReport payload
      streamContext = .ok streamPlan)
    (asStream : streamPlan.executionMode = .stream) :
    ∃ memoryReport streamReport,
      Reports host guard memoryPlan world memoryReport ∧
      Reports host guard streamPlan world streamReport ∧
      (memoryReport = streamReport ↔
        Text.SearchedAlike input.query 1001
          (Text.universalNewlines input.text)) := by
  refine ⟨_, _, input.reports noPlan memoryPlanned,
    input.reports noPlan streamPlanned, ?_⟩
  rw [inMemory, asStream]
  exact report_eq_iff input.query input.text

/-- The reports on the file of the sample. -/
theorem report_modes_agree_iff_sample :
    ∃ memoryReport streamReport,
      (∃ plan, Planner.buildPlan Sample.host opTaskSearchReport
          Sample.linesData (Sample.contextOfSize 4) = .ok plan ∧
        Reports Sample.host Sample.policyGuard plan Sample.files
          memoryReport) ∧
      (∃ plan, Planner.buildPlan Sample.host opTaskSearchReport
          Sample.linesData (Sample.contextOfSize 262145) = .ok plan ∧
        Reports Sample.host Sample.policyGuard plan Sample.files
          streamReport) ∧
      (memoryReport = streamReport ↔
        Text.SearchedAlike "x" 1001 [0x78, 0x0A, 0x79, 0x0A]) := by
  have memoryPlanned : ∃ plan, Planner.buildPlan Sample.host
      opTaskSearchReport Sample.linesData (Sample.contextOfSize 4) =
        .ok plan ∧ plan.executionMode = .memory := ⟨_, rfl, rfl⟩
  have streamPlanned : ∃ plan, Planner.buildPlan Sample.host
      opTaskSearchReport Sample.linesData (Sample.contextOfSize 262145) =
        .ok plan ∧ plan.executionMode = .stream := ⟨_, rfl, rfl⟩
  obtain ⟨memoryPlan, memoryPlanned, inMemory⟩ := memoryPlanned
  obtain ⟨streamPlan, streamPlanned, asStream⟩ := streamPlanned
  obtain ⟨memoryReport, streamReport, memory, stream, agree⟩ :=
    report_modes_agree_iff Sample.textInput ⟨[], rfl, rfl⟩ memoryPlanned
      inMemory streamPlanned asStream
  exact ⟨memoryReport, streamReport, ⟨memoryPlan, memoryPlanned, memory⟩,
    ⟨streamPlan, streamPlanned, stream⟩, agree⟩

/-- On a line with a form feed the reports differ. -/
theorem reports_differ_on_form_feed :
    ∃ memoryPlan streamPlan memoryReport streamReport,
      Planner.buildPlan Sample.host opTaskSearchReport Sample.linesData
        (Sample.contextOfSize 6) = .ok memoryPlan ∧
      memoryPlan.executionMode = .memory ∧
      Planner.buildPlan Sample.host opTaskSearchReport Sample.linesData
        (Sample.contextOfSize 262145) = .ok streamPlan ∧
      streamPlan.executionMode = .stream ∧
      Reports Sample.host Sample.policyGuard memoryPlan Sample.feedFiles
        memoryReport ∧
      Reports Sample.host Sample.policyGuard streamPlan Sample.feedFiles
        streamReport ∧
      memoryReport ≠ streamReport := by
  refine ⟨_, _, _, _, rfl, rfl, rfl, rfl, ⟨_, rfl, rfl⟩, ⟨_, rfl, rfl⟩, ?_⟩
  decide

end RudpAgentStack

import RudpAgentStack.Agent.SearchModes

/-!
# How many matches a report shows

A search stops behind the match with which its results become more than a
thousand, and marks the end of the results by one more entry.  The report
counts that entry as a match.
-/

namespace RudpAgentStack

open Foundation

variable {World : Type} {host : Host World} {guard : PolicyGuard}

namespace ToolDispatcher

/-- The results and the report show the matches up to a cap, say whether
matches are left out, and count those that are shown. -/
structure ExactReport
    (cap : Nat) (query : Text) (lines : List Text) (results : List Text)
    (reported : Text) : Prop where
  listed : results =
    ((Text.matching query 0 lines).take cap).map entry ++
      if cap < (Text.matching query 0 lines).length then [truncated] else []
  counted : reported =
    Text.ofString "Search Found " ++
      Text.ofInt (min (Text.matching query 0 lines).length cap : Nat) ++
      " matches:\n" ++ Text.join "\n" results

/-- The results of a search. -/
theorem searchFrom_eq_matching (query : Text) (lines : List Text) :
    searchFrom query 0 [] lines =
      ((Text.matching query 0 lines).take 1001).map entry ++
        if 1001 ≤ (Text.matching query 0 lines).length then [truncated]
        else [] := by
  rw [searchFrom_eq query 0 (Nat.zero_le _), List.nil_append, List.length_nil,
    Nat.sub_zero, Text.listed_eq_take, entries, List.length_take]
  congr 1
  apply if_congr _ rfl rfl
  omega

/-- Two reports on the same results agree when they count the same. -/
theorem counted_iff (results : List Text) (count : Nat) :
    report results =
        Text.ofString "Search Found " ++ Text.ofInt count ++
          " matches:\n" ++ Text.join "\n" results ↔
      results.length = count := by
  have space : Text.ofString " matches:\n" =
      0x20 :: Text.ofString "matches:\n" := by decide
  constructor
  · intro same
    simp only [report, List.append_assoc, List.append_cancel_left_eq, space,
      List.cons_append] at same
    have counts := (Text.ofInt_append_inj (.inl (by decide)) same).1
    exact_mod_cast counts
  · rintro rfl
    rfl

/-- The results end with the mark exactly when they are full. -/
theorem length_searchFrom (query : Text) (lines : List Text) :
    (searchFrom query 0 [] lines).length =
      if 1001 ≤ (Text.matching query 0 lines).length then 1002
      else (Text.matching query 0 lines).length := by
  rw [searchFrom_eq_matching, List.length_append, List.length_map,
    List.length_take]
  split
  · next many =>
      rw [Nat.min_eq_left many]
      rfl
  · next few =>
      rw [Nat.min_eq_right (by omega)]
      rfl

/-- The report of a search is exact if and only if there are neither more
matches than the cap nor more than a thousand. -/
theorem report_exact_iff (cap : Nat) (query : Text) (lines : List Text) :
    ExactReport cap query lines (searchFrom query 0 [] lines)
        (report (searchFrom query 0 [] lines)) ↔
      (Text.matching query 0 lines).length ≤ min cap 1000 := by
  have length := length_searchFrom query lines
  constructor
  · rintro ⟨listed, counted⟩
    rw [counted_iff] at counted
    have shown := congrArg List.length listed
    rw [List.length_append, List.length_map, List.length_take] at shown
    by_cases many : 1001 ≤ (Text.matching query 0 lines).length
    · -- The mark is counted, so no match may be left out.
      rw [if_pos many] at length
      have within : ¬ cap < (Text.matching query 0 lines).length := by
        intro less
        rw [if_pos less, List.length_singleton] at shown
        omega
      rw [if_neg within, List.append_nil, searchFrom_eq_matching,
        if_pos many] at listed
      have marked : truncated ∈
          ((Text.matching query 0 lines).take cap).map entry := by
        rw [← listed]
        simp
      obtain ⟨found, _, same⟩ := List.mem_map.mp marked
      exact absurd same (entry_ne_truncated found)
    · rw [if_neg many] at length
      omega
  · intro few
    obtain ⟨withinCap, withinLimit⟩ := le_min_iff.mp few
    refine ⟨?_, ?_⟩
    · rw [searchFrom_eq_matching, if_neg (by omega), if_neg (by omega),
        List.take_of_length_le (by omega), List.take_of_length_le withinCap]
    · rw [counted_iff, length, if_neg (by omega)]
      omega

/-- The search step and the report step on its results, for any input data that
can be iterated over: the report is exact, for a cap, if and only if the lines
with the query are no more than the cap and no more than a thousand. -/
theorem search_report_exact_iff
    {searchArgs reportArgs : List (Text × Json)} {query : Text}
    {inputData : Value} {lines : List Text} {world after : World}
    (isQuery : Json.get? searchArgs "pattern" = some (.string query))
    (isSummary : Json.get? reportArgs "format" = some (.string "search_summary"))
    (iterated : (textLines host inputData).run world = (.ok lines, after)) :
    ∃ results reported,
      (toolSearchLines host searchArgs inputData).run world =
        (.ok (.lines results), after) ∧
      toolBuildReport host reportArgs (.lines results) =
        .ok (.text reported) ∧
      ∀ cap, ExactReport cap query lines results reported ↔
        (lines.countP fun line => Text.contains line query) ≤ min cap 1000 := by
  refine ⟨searchFrom query 0 [] lines, report (searchFrom query 0 [] lines),
    ?_, ?_, fun cap => ?_⟩
  · have given : argument searchArgs "pattern" = .ok (.string query) := by
      rw [argument, isQuery]
    rw [toolSearchLines, Action.run_bind, Action.run_liftM, given]
    dsimp only
    rw [Action.run_bind, iterated]
    rfl
  · have asked : Json.get reportArgs "format" = .string "search_summary" := by
      rw [Json.get, isSummary]
      rfl
    simp only [toolBuildReport, asked]
    rfl
  · rw [report_exact_iff, Text.length_matching]

end ToolDispatcher

/-- The report of a plan to search a text, in either mode. -/
theorem TextInput.exactReport_iff
    {files : FileSystem host} {payload : List (Text × Json)} {world : World}
    (input : TextInput files guard payload world)
    (noPlan : AsksNoPlan payload) {context : TaskContext} {plan : Plan}
    (planned : Planner.buildPlan host opTaskSearchReport payload context =
      .ok plan) :
    ∃ results reported,
      Reports host guard plan world reported ∧
      ∀ cap, ToolDispatcher.ExactReport cap input.query
          (linesRead input.text plan.executionMode) results reported ↔
        (linesRead input.text plan.executionMode).countP
          (fun line => Text.contains line input.query) ≤ min cap 1000 := by
  refine ⟨ToolDispatcher.searchFrom input.query 0 []
    (linesRead input.text plan.executionMode), _,
    input.reports noPlan planned, fun cap => ?_⟩
  rw [ToolDispatcher.report_exact_iff, Text.length_matching]

/-! ## A thousand and one matches -/

namespace Sample

open ToolDispatcher

/-- The arguments of a search for `x`. -/
def searchArgs : List (Text × Json) := [("pattern", .string "x")]

/-- The arguments of the report on a search. -/
def summaryArgs : List (Text × Json) := [("format", .string "search_summary")]

/-- A text with the query on each of its lines. -/
def matchingText : Nat → Text
  | 0 => []
  | count + 1 => 0x78 :: 0x0A :: matchingText count

theorem splitlines_matchingText (count : Nat) :
    Text.splitlines (matchingText count) = List.replicate count [0x78] := by
  induction count with
  | zero => rfl
  | succ count inductionHypothesis =>
      have unbroken : Text.Unbroken [0x78] := by
        simp [Text.Unbroken, Text.isLineBreak]
      have isBreak : Text.isLineBreak 0x0A = true := rfl
      have noReturn : (0x0A : CodePoint) ≠ 0x0D := by decide
      have first : Text.splitlines (matchingText (count + 1)) =
          [0x78] :: Text.splitlines (matchingText count) :=
        Text.splitlinesFrom_break _ unbroken isBreak noReturn
      rw [first, inductionHypothesis, List.replicate_succ]

theorem search_report_exact_iff_twoLines :
    ∃ results reported,
      (toolSearchLines Sample.host searchArgs (.text (matchingText 2))).run
        files = (.ok (.lines results), files) ∧
      toolBuildReport Sample.host summaryArgs (.lines results) =
        .ok (.text reported) ∧
      ∀ cap, ExactReport cap "x" [[0x78], [0x78]] results reported ↔
        ([[0x78], [0x78]].countP fun line => Text.contains line "x") ≤
          min cap 1000 :=
  search_report_exact_iff rfl rfl rfl

/-- With a thousand and one matches the report is not exact, whatever the cap
is taken to be. -/
theorem manyMatches_inexact :
    ∃ results reported,
      (toolSearchLines Sample.host searchArgs (.text (matchingText 1001))).run
        files = (.ok (.lines results), files) ∧
      toolBuildReport Sample.host summaryArgs (.lines results) =
        .ok (.text reported) ∧
      ∀ cap, ¬ ExactReport cap "x" (Text.splitlines (matchingText 1001))
        results reported := by
  refine ⟨searchFrom "x" 0 [] (Text.splitlines (matchingText 1001)),
    report (searchFrom "x" 0 [] (Text.splitlines (matchingText 1001))),
    rfl, rfl, fun cap exact => ?_⟩
  rw [report_exact_iff, Text.length_matching, splitlines_matchingText,
    List.countP_replicate, if_pos (by decide)] at exact
  omega

end Sample

end RudpAgentStack

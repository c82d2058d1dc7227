import Roster.Document.Suite
import Roster.Outcome.Suite

/-!
The documents of outcomes: what executions report, and what is made of it.
-/

namespace Roster.Document

/-- How a scenario ended. -/
def status : Format Status :=
  Choice.format
    { name := "ExecutionStatus"
      note := some "Outcome of one scenario instance."
      all := [.passed, .failed, .skipped]
      label := fun
        | .passed => "passed"
        | .failed => "failed"
        | .skipped => "skipped" }

/-- A failure of a hook. -/
def hookFailure : Format HookFailure :=
  Record.format
    { name := "HookFailure"
      note := some "A failure raised by a suite-level hook."
      members := [
        .needed "message" none .text (·.message) fun v s => { s with message := v },
        .unlessStandard "stack_trace" none .text "" (· == "") (·.stackTrace)
          fun v s => { s with stackTrace := v },
        .optional "screenshot_file" none .text (·.screenshotFile)
          fun v s => { s with screenshotFile := v }] }

/-- What the execution of a scenario instance reports. -/
def scenarioOutcome : Format ScenarioOutcome :=
  Record.format
    { name := "ScenarioResult"
      note := some "Outcome of one scenario instance as reported by the execution step."
      members := [
        .needed "heading" none .text (·.heading) fun v s => { s with heading := v },
        .needed "span" none span (·.span) fun v s => { s with span := v },
        .withDefault "status" none status .passed (·.status) fun v s => { s with status := v },
        .withDefault "execution_time_ms" none .duration 0 (·.time) fun v s => { s with time := v },
        .unlessEmpty "pre_hook_messages" none .text (·.preHookMessages)
          fun v s => { s with preHookMessages := v },
        .unlessEmpty "post_hook_messages" none .text (·.postHookMessages)
          fun v s => { s with postHookMessages := v },
        .unlessEmpty "pre_hook_screenshot_files" none .text (·.preHookScreenshots)
          fun v s => { s with preHookScreenshots := v },
        .unlessEmpty "post_hook_screenshot_files" none .text (·.postHookScreenshots)
          fun v s => { s with postHookScreenshots := v },
        .unlessEmpty "skip_reasons" none .text (·.skipReasons)
          fun v s => { s with skipReasons := v },
        .unlessEmpty "errors" none .text (·.errors) fun v s => { s with errors := v },
        .withDefault "spec_data_table_row_index" none .count 0 (·.specRowIndex)
          fun v s => { s with specRowIndex := v },
        .withDefault "scenario_data_table_row_index" none .count 0 (·.ownRowIndex)
          fun v s => { s with ownRowIndex := v },
        .withDefault "is_spec_table_driven" none .flag false (·.isSpecDriven)
          fun v s => { s with isSpecDriven := v },
        .withDefault "is_scenario_table_driven" none .flag false (·.isOwnDriven)
          fun v s => { s with isOwnDriven := v }] }

/-- A scenario as it is shown. -/
def shownScenario : Format ShownScenario :=
  Record.format
    { name := "ScenarioItem"
      note := some "Rendered scenario outcome."
      members := [
        .needed "heading" none .text (·.heading) fun v s => { s with heading := v },
        .needed "status" none status (·.status) fun v s => { s with status := v },
        .needed "execution_time_ms" none .duration (·.time) fun v s => { s with time := v },
        .unlessEmpty "skip_reasons" none .text (·.skipReasons)
          fun v s => { s with skipReasons := v },
        .unlessEmpty "errors" none .text (·.errors) fun v s => { s with errors := v },
        .unlessEmpty "pre_hook_messages" none .text (·.preHookMessages)
          fun v s => { s with preHookMessages := v },
        .unlessEmpty "post_hook_messages" none .text (·.postHookMessages)
          fun v s => { s with postHookMessages := v }] }

/-- A scenario instance as it is shown. -/
def shownInstance : Format ShownInstance :=
  Record.format
    { name := "TableDrivenScenarioItem"
      note := some "Rendered outcome of one data-table row instance."
      members := [
        .needed "scenario" none shownScenario (·.scenario) fun v s => { s with scenario := v },
        .needed "is_spec_table_driven" none .flag (·.isSpecDriven)
          fun v s => { s with isSpecDriven := v },
        .needed "is_scenario_table_driven" none .flag (·.isOwnDriven)
          fun v s => { s with isOwnDriven := v },
        .needed "table_row_index" none .count (·.specRowIndex)
          fun v s => { s with specRowIndex := v },
        .needed "scenario_table_row_index" none .count (·.ownRowIndex)
          fun v s => { s with ownRowIndex := v }] }

/-- An item of the report of a specification. -/
def shownItem : Format ShownItem :=
  Kinds.format
    { name := "ResultItem"
      note := some "Output item of a specification result."
      kinds := [
        .of "scenario" shownScenario .scenario fun | .scenario s => some s | _ => none,
        .of "table_driven_scenario" shownInstance .inst fun | .inst i => some i | _ => none,
        .of "comment" .text .comment fun | .comment c => some c | _ => none] }

/-- What is reported on a specification. -/
def specOutcome : Format SpecOutcome :=
  Record.format
    { name := "SpecResult"
      note := some "Aggregate result of one specification."
      members := [
        .needed "heading" none .text (·.heading) fun v s => { s with heading := v },
        .needed "file_name" none .text (·.fileName) fun v s => { s with fileName := v },
        .needed "items" none (.list shownItem) (·.items) fun v s => { s with items := v },
        .needed "scenario_count" none .count (·.scenarioCount)
          fun v s => { s with scenarioCount := v },
        .needed "scenario_failed_count" none .count (·.failedCount)
          fun v s => { s with failedCount := v },
        .needed "scenario_skipped_count" none .count (·.skippedCount)
          fun v s => { s with skippedCount := v },
        .needed "is_failed" none .flag (·.isFailed) fun v s => { s with isFailed := v },
        .needed "skipped" none .flag (·.skipped) fun v s => { s with skipped := v },
        .needed "failed_data_table_rows" none (.list .count) (·.failedRows)
          fun v s => { s with failedRows := v },
        .needed "skipped_data_table_rows" none (.list .count) (·.skippedRows)
          fun v s => { s with skippedRows := v },
        .needed "execution_time_ms" none .duration (·.time) fun v s => { s with time := v },
        .needed "pre_hook_failures" none (.list hookFailure) (·.preHookFailures)
          fun v s => { s with preHookFailures := v },
        .needed "post_hook_failures" none (.list hookFailure) (·.postHookFailures)
          fun v s => { s with postHookFailures := v },
        .needed "errors" none (.list .text) (·.errors) fun v s => { s with errors := v }] }

/-- What is reported on a suite, for writing. -/
def writeSuiteOutcome (r : SuiteOutcome) : Json :=
  .obj [
    ("spec_results", (Format.list specOutcome).write r.specs),
    ("execution_time_ms", .nat r.time),
    ("specs_failed_count", .nat r.failedCount),
    ("specs_skipped_count", .nat r.skippedCount),
    ("is_failed", .bool r.isFailed)]

/-- What is to be summed up: a specification and how its hooks and scenarios ended. -/
structure SummaryRequest where
  spec : Specification := {}
  outcomes : List ScenarioOutcome := []
  preHooks : List HookFailure := []
  postHooks : List HookFailure := []
  deriving Inhabited

/-- A request to sum up a specification. -/
def summaryRequest : Format SummaryRequest :=
  Record.format
    { name := "AggregateInput"
      note := some "Input document: one specification and the outcomes of its scenarios."
      members := [
        .needed "spec" none specification (·.spec) fun v s => { s with spec := v },
        .withDefault "scenarios" none (.list scenarioOutcome) [] (·.outcomes)
          fun v s => { s with outcomes := v },
        .withDefault "pre_hook_failures" none (.list hookFailure) [] (·.preHooks)
          fun v s => { s with preHooks := v },
        .withDefault "post_hook_failures" none (.list hookFailure) [] (·.postHooks)
          fun v s => { s with postHooks := v }] }

end Roster.Document

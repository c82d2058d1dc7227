import Roster.Document.Choice
import Roster.Suite.Specification

/-!
The documents of a suite: specifications and all that they hold.
-/

namespace Roster.Document

/-- A span of lines. -/
def span : Format Span :=
  Record.format
    { name := "Span"
      note := some "Inclusive line span of a scenario in its source file."
      members := [
        .needed "start" none .count (·.start) fun v s => { s with start := v },
        .needed "end" none .count (·.stop) fun v s => { s with stop := v }] }

/-- Groups of tags, as an array of arrays. -/
def tags : Format Tags :=
  .wrap (.list (.list .text)) Tags.groups Tags.mk

/-- The kind of a cell. -/
def cellKind : Format CellKind :=
  Choice.format
    { name := "CellType"
      note := some "How a table cell's value is produced."
      all := [.static, .dynamic, .special]
      label := fun
        | .static => "static"
        | .dynamic => "dynamic"
        | .special => "special" }

/-- A cell of a table. -/
def cell : Format Cell :=
  Record.format
    { name := "TableCell"
      note := none
      members := [
        .needed "value" none .text (·.value) fun v s => { s with value := v },
        .withDefault "cell_type" none cellKind .static (·.kind) fun v s => { s with kind := v }] }

/-- A data table. -/
def table : Format Table :=
  Record.format
    { name := "Table"
      note := some "A data table: named columns and rows of cells."
      members := [
        .needed "headers" none (.list .text) (·.headers) fun v s => { s with headers := v },
        .withDefault "rows" none (.list (.list cell)) [] (·.rows) fun v s => { s with rows := v },
        .withDefault "line" none .count 0 (·.line) fun v s => { s with line := v }] }

/-- A comment. -/
def comment : Format Comment :=
  Record.format
    { name := "Comment"
      note := none
      members := [
        .needed "value" none .text (·.value) fun v s => { s with value := v },
        .withDefault "line" none .count 0 (·.line) fun v s => { s with line := v }] }

/-- A step. -/
def step : Format Step :=
  Record.format
    { name := "Step"
      note := none
      members := [
        .needed "text" none .text (·.text) fun v s => { s with text := v },
        .withDefault "line" none .count 0 (·.line) fun v s => { s with line := v }] }

/-- A scenario. -/
def scenario : Format Scenario :=
  Record.format
    { name := "Scenario"
      note := some "A scenario, or one data-table row instance of it."
      members := [
        .needed "heading" none .text (·.heading) fun v s => { s with heading := v },
        .needed "span" none span (·.span) fun v s => { s with span := v },
        .withDefault "tags" none tags {} (·.tags) fun v s => { s with tags := v },
        .optional "filter_expression"
          (some ("Tag expression inherited by this scenario, evaluated alongside any " ++
            "run-level expression."))
          .text (·.inherited) fun v s => { s with inherited := v },
        .withDefault "steps" none (.list step) [] (·.steps) fun v s => { s with steps := v },
        .optional "spec_data_table_row"
          (some "The single spec-level table row this instance runs with.")
          table (·.specRow) fun v s => { s with specRow := v },
        .optional "scenario_data_table_row"
          (some "The single scenario-level table row this instance runs with.")
          table (·.ownRow) fun v s => { s with ownRow := v },
        .withDefault "spec_data_table_row_index" none .count 0 (·.specRowIndex)
          fun v s => { s with specRowIndex := v },
        .withDefault "scenario_data_table_row_index" none .count 0 (·.ownRowIndex)
          fun v s => { s with ownRowIndex := v }] }

/-- An item of a specification. -/
def item : Format Item :=
  Kinds.format
    { name := "Item"
      note := some "Everything a specification body can contain."
      kinds := [
        .of "scenario" scenario .scenario Item.scenario?,
        .of "step" step .step fun | .step s => some s | _ => none,
        .of "comment" comment .comment fun | .comment c => some c | _ => none,
        .of "table" table .table fun | .table t => some t | _ => none,
        .of "tags" tags .tags fun | .tags t => some t | _ => none,
        .of "tear_down" step .tearDown fun | .tearDown s => some s | _ => none] }

/-- A specification. -/
def specification : Format Specification :=
  Record.format
    { name := "Specification"
      note := some ("A parsed specification.\n\nScenarios live inside `items`, so the ordered " ++
        "scenario list is always the subsequence of scenario items and the two can never disagree.")
      members := [
        .needed "heading" none .text (·.heading) fun v s => { s with heading := v },
        .needed "file_name"
          (some "File identity; also the identity of the spec-level data table.")
          .text (·.fileName) fun v s => { s with fileName := v },
        .withDefault "items" none (.list item) [] (·.items) fun v s => { s with items := v },
        .withDefault "tags" none tags {} (·.tags) fun v s => { s with tags := v },
        .optional "filter_expression" none .text (·.inherited) fun v s => { s with inherited := v },
        .optional "data_table" (some "The spec-level data table (one row per expanded instance).")
          table (·.dataTable) fun v s => { s with dataTable := v }] }

/-- A suite: an array of specifications. -/
def suite : Format (List Specification) :=
  .list specification

/-- The specifications of a stream. -/
def bucket : Format Bucket :=
  Record.format
    { name := "SpecCollection"
      note := some "The specifications assigned to one execution stream."
      members := [.needed "specs" none suite (·.specs) fun v s => { s with specs := v }] }

end Roster.Document

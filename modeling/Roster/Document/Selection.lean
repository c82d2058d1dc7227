import Roster.Document.Suite
import Roster.Selection.Run

/-!
The documents of a selection: settings, and what is selected.
-/

namespace Roster.Document

/-- A strategy. -/
def strategy : Format Strategy :=
  Choice.format
    { name := "DistributionStrategy"
      note := some "How the execution driver hands specifications to streams."
      all := [.lazy, .eager]
      label := Strategy.text
      labelNote := fun
        | .lazy => some "Streams pull the next specification when they become free."
        | .eager => some "Specifications are assigned to streams up front, round-robin." }

/-- Settings of a selection. -/
def settings : Format Settings :=
  Record.format
    { name := "SelectionConfig"
      note := some "Typed selection settings resolved from configuration."
      members := [
        .withDefault "tags" none .text "" (·.tags) fun v s => { s with tags := v },
        .withDefault "scenarios" none (.list .text) [] (·.scenarios)
          fun v s => { s with scenarios := v },
        .withDefault "lines" none (.list .count) [] (·.lines) fun v s => { s with lines := v },
        .withDefault "suite_tags" none (.list .text) [] (·.suiteTags)
          fun v s => { s with suiteTags := v },
        .needed "parallel_streams" none .count (·.streams) fun v s => { s with streams := v },
        .optional "group" none .count (·.group) fun v s => { s with group := v },
        .withDefault "strategy" none strategy .lazy (·.strategy)
          fun v s => { s with strategy := v }] }

/-- A selection. -/
def selection : Format Selection :=
  Record.format
    { name := "Selection"
      note := some "Specifications chosen to run, with the strategy that will run them."
      members := [
        .needed "specs" none suite (·.specs) fun v s => { s with specs := v },
        .needed "strategy" none strategy (·.strategy) fun v s => { s with strategy := v },
        .needed "streams" none .count (·.streams) fun v s => { s with streams := v },
        .optional "group" none .count (·.group) fun v s => { s with group := v },
        .optional "notice" none .text (·.notice) fun v s => { s with notice := v }] }

/-- The share of a group. -/
def groupShare : Format GroupShare :=
  Record.format
    { name := "GroupSelection"
      note := some "Outcome of selecting one group."
      members := [
        .needed "group" none .count (·.group) fun v s => { s with group := v },
        .needed "specs" none suite (·.specs) fun v s => { s with specs := v },
        .needed "strategy" (some "Strategy in force after group mode was applied. Always eager.")
          strategy (·.strategy) fun v s => { s with strategy := v },
        .optional "notice"
          (some "The override notice, when the configured strategy was not already eager.")
          .text (·.notice) fun v s => { s with notice := v }] }

end Roster.Document

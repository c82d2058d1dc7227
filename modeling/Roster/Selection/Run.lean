import Roster.Filter.Partition
import Roster.Selection.Settings
import Roster.Stream.Deal

/-!
Selections: the scenarios to run, and on which streams.

The steps of `Selection.run` have a fixed order: the settings are checked, then
come the filters by lines, by tags and by names, and last the choice of a group.
Without lines, names or a group their step is left out; the filter by tags never
is, so that carried expressions always count.
-/

namespace Roster

/-- The specifications to run, with the strategy that runs them. -/
structure Selection where
  specs : List Specification
  strategy : Strategy
  streams : Nat
  group : Option Nat
  /-- What is said when running one group has set the strategy. -/
  notice : Option String
  deriving DecidableEq, Repr, Inhabited

namespace Selection

/-- How many scenarios are selected. -/
def scenarioCount (selection : Selection) : Nat :=
  scenarioTotal selection.specs

/-- The suite after the filter by lines. -/
def onLines (settings : Settings) (specs : List Specification) : List Specification :=
  if settings.lines.isEmpty then specs else filterByLines specs settings.lines

/-- The suite after the filter by names. -/
def named (settings : Settings) (specs : List Specification) : Logged (List Specification) :=
  if settings.scenarios.isEmpty then ⟨specs, []⟩ else filterByNames specs settings.scenarios

/-- The selection of the specifications `specs`, or of the group's share of them. -/
def ofSpecs (settings : Settings) (specs : List Specification) :
    Except Fault (Logged Selection) :=
  match settings.group with
  | none => .ok ⟨⟨specs, settings.strategy, settings.streams, none, none⟩, []⟩
  | some group => do
    let ⟨picked, events⟩ ← pickGroup specs group settings.streams settings.strategy
    .ok ⟨⟨picked.specs, picked.strategy, settings.streams, some group, picked.notice⟩, events⟩

/-- The selection that the settings ask for. -/
def run (settings : Settings) (specs : List Specification) :
    Except Fault (Logged Selection) := do
  settings.check
  let halves ← filterByTags (onLines settings specs) settings.tags settings.suiteTags
  let ⟨specsLeft, warnings⟩ := named settings halves.kept
  let ⟨selection, notices⟩ ← ofSpecs settings specsLeft
  let done := Event.selectionComplete specs.length selection.specs.length
    selection.scenarioCount selection.strategy
  .ok ⟨selection, warnings ++ notices ++ [done]⟩

/-- The buckets to execute. A group is the share of one stream and stays whole. -/
def buckets (selection : Selection) : Except Fault (List Bucket) :=
  match selection.group with
  | some _ => .ok [⟨selection.specs⟩]
  | none => deal selection.specs selection.streams

end Selection

end Roster

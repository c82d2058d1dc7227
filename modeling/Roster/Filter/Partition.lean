import Roster.Event
import Roster.Filter.Rows
import Roster.Filter.Rule

/-!
Filtering a suite.

`partition` splits one specification by a rule: every scenario goes to one half,
every other item to both, and order is kept. The filters apply a rule to a whole
suite and drop the specifications that are left without scenarios.
-/

namespace Roster

/-- Items split in two halves. -/
structure Halves (α : Type) where
  kept : α
  excluded : α
  deriving DecidableEq, Repr

/-- Splits items by `excludes`, which the scenarios are put to in order. -/
def splitItems (excludes : Scenario → Except Fault Bool) :
    List Item → Except Fault (Halves (List Item))
  | [] => .ok ⟨[], []⟩
  | item :: items =>
    match item.scenario? with
    | some s => do
      let out ← excludes s
      let halves ← splitItems excludes items
      .ok (if out then { halves with excluded := item :: halves.excluded }
        else { halves with kept := item :: halves.kept })
    | none => do
      let halves ← splitItems excludes items
      .ok ⟨item :: halves.kept, item :: halves.excluded⟩

/-- Splits a specification by a rule. -/
def partition (spec : Specification) (rule : Rule) : Except Fault (Halves Specification) := do
  let halves ← splitItems (rule.excludes spec) spec.items
  .ok ⟨{ spec with items := halves.kept }, { spec with items := halves.excluded }⟩

/-- Splits every specification by a rule. A half without scenarios is dropped. -/
def partitionAll (rule : Rule) :
    List Specification → Except Fault (Halves (List Specification))
  | [] => .ok ⟨[], []⟩
  | spec :: specs => do
    let halves ← partition spec rule
    let rest ← partitionAll rule specs
    .ok ⟨if halves.kept.hasScenarios then halves.kept :: rest.kept else rest.kept,
      if halves.excluded.hasScenarios then halves.excluded :: rest.excluded
      else rest.excluded⟩

/-- Splits a suite by tags. The rows of the half that is kept are numbered anew. -/
def filterByTags (specs : List Specification) (expression : String)
    (suiteTags : List String) : Except Fault (Halves (List Specification)) := do
  let rule ← TagRule.make expression suiteTags
  let halves ← partitionAll (.tags rule) specs
  .ok { halves with kept := renumberRows halves.kept }

/-- A specification with the scenarios that `keeps` holds of. -/
def Specification.keep (spec : Specification) (keeps : Scenario → Bool) : Specification :=
  { spec with items := spec.items.filter fun item => item.scenario?.all keeps }

/-- The suite with the scenarios that `keeps` holds of. -/
def retain (specs : List Specification) (keeps : Scenario → Bool) : List Specification :=
  (specs.map fun spec => spec.keep keeps).filter Specification.hasScenarios

/-- The scenarios on one of `lines`. -/
def filterByLines (specs : List Specification) (lines : List Nat) : List Specification :=
  retain specs fun s => s.isOnLine lines

/-- The scenarios with one of the headings `names`. A name that no scenario has is
reported and otherwise ignored. -/
def filterByNames (specs : List Specification) (names : List String) :
    Logged (List Specification) :=
  let existing := scenarioHeadings specs
  let unknown := names.filter fun name => !existing.contains name
  let known := names.filter fun name => existing.contains name
  { value := retain specs fun s => s.isNamed known
    events := unknown.map fun name => .unknownScenario (.scenarioNotFound name existing) }

end Roster

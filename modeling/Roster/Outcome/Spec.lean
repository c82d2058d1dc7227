import Roster.Outcome.Scenario
import Roster.Suite.Specification

/-!
Outcomes of specifications.

A specification outcome grows as things are reported. Folding in scenario outcomes
counts them: the instances of one scenario for the rows of the specification's table
count as one, all within one call of `addOutcomes`.
-/

namespace Roster

/-- What is reported on one specification. -/
structure SpecOutcome where
  heading : String := ""
  fileName : String := ""
  items : List ShownItem := []
  scenarioCount : Nat := 0
  failedCount : Nat := 0
  skippedCount : Nat := 0
  isFailed : Bool := false
  skipped : Bool := false
  failedRows : List Nat := []
  skippedRows : List Nat := []
  /-- The time it took, in milliseconds. -/
  time : Nat := 0
  preHookFailures : List HookFailure := []
  postHookFailures : List HookFailure := []
  errors : List String := []
  deriving DecidableEq, Repr, Inhabited

namespace SpecOutcome

/-- The outcome of a specification of which nothing is reported yet. -/
def ofSpec (spec : Specification) : SpecOutcome where
  heading := spec.heading
  fileName := spec.fileName

/-- The specification failed. -/
def fail (r : SpecOutcome) : SpecOutcome :=
  { r with isFailed := true }

/-- The specification was skipped, or was not. -/
def setSkipped (r : SpecOutcome) (skipped : Bool) : SpecOutcome :=
  { r with skipped := skipped }

/-- More time was spent. -/
def addTime (r : SpecOutcome) (millis : Nat) : SpecOutcome :=
  { r with time := r.time + millis }

/-- More is shown. -/
def addItems (r : SpecOutcome) (items : List ShownItem) : SpecOutcome :=
  { r with items := r.items ++ items }

/-- Hooks before the specification failed. -/
def addPreHooks (r : SpecOutcome) (failures : List HookFailure) : SpecOutcome :=
  { r with preHookFailures := r.preHookFailures ++ failures }

/-- Hooks after the specification failed. -/
def addPostHooks (r : SpecOutcome) (failures : List HookFailure) : SpecOutcome :=
  { r with postHookFailures := r.postHookFailures ++ failures }

/-- Errors were met. -/
def addErrors (r : SpecOutcome) (errors : List String) : SpecOutcome :=
  { r with errors := r.errors ++ errors }

/-- The instance is one of several for the rows of the specification's table, which
count as one scenario. -/
def isCountedOnce (o : ScenarioOutcome) : Bool :=
  o.isSpecDriven && !o.isOwnDriven

/-- The row of an instance that the specification's table drives. -/
def rowOf (o : ScenarioOutcome) : List Nat :=
  if o.isSpecDriven then [o.specRowIndex] else []

/-- Counts the status of an outcome. -/
def addStatus (r : SpecOutcome) (o : ScenarioOutcome) : SpecOutcome :=
  match o.status with
  | .passed => r
  | .failed =>
    { r with
      isFailed := true
      failedCount := r.failedCount + 1
      failedRows := r.failedRows ++ rowOf o }
  | .skipped =>
    { r with
      skippedCount := r.skippedCount + 1
      skippedRows := r.skippedRows ++ rowOf o }

/-- Counts one scenario, unless it is counted already. -/
def countScenario (r : SpecOutcome) (isNew : Bool) : SpecOutcome :=
  if isNew then { r with scenarioCount := r.scenarioCount + 1 } else r

/-- Folds in scenario outcomes, where the scenarios that start on the lines `counted`
are counted already. -/
def addFrom (counted : List Nat) (r : SpecOutcome) : List ScenarioOutcome → SpecOutcome
  | [] => r
  | o :: os =>
    let isNew := !(isCountedOnce o && counted.contains o.span.start)
    let counted := if isCountedOnce o then o.span.start :: counted else counted
    addFrom counted ((((r.addTime o.time).countScenario isNew).addStatus o).addItems [o.toItem]) os

/-- Folds in scenario outcomes, in order. -/
def addOutcomes (r : SpecOutcome) (os : List ScenarioOutcome) : SpecOutcome :=
  addFrom [] r os

/-- The outcome of a specification whose hooks failed so and whose scenarios ended so.
It was skipped if every scenario was and nothing failed. -/
def summarize (spec : Specification) (outcomes : List ScenarioOutcome)
    (preHooks postHooks : List HookFailure) : SpecOutcome :=
  let failIf := fun (b : Bool) (r : SpecOutcome) => if b then r.fail else r
  let r := (failIf (!preHooks.isEmpty) (.ofSpec spec)).addPreHooks preHooks
  let r := r.addOutcomes outcomes
  let r := (failIf (!postHooks.isEmpty) r).addPostHooks postHooks
  if !outcomes.isEmpty && outcomes.all ScenarioOutcome.isSkipped then
    r.setSkipped (!r.isFailed)
  else r

end SpecOutcome

end Roster

import Roster.Suite.Scenario

/-!
Outcomes of scenarios.

A scenario outcome is what the execution of one instance reports. `toItem` is how it
is shown in the report of a specification: an instance driven by a table is shown
with its rows.
-/

namespace Roster

/-- How a scenario ended. -/
inductive Status where
  | passed
  | failed
  | skipped
  deriving DecidableEq, Repr, Inhabited

/-- A failure of a hook of the suite. -/
structure HookFailure where
  message : String := ""
  stackTrace : String := ""
  screenshotFile : Option String := none
  deriving DecidableEq, Repr, Inhabited

/-- What the execution of one scenario instance reports. -/
structure ScenarioOutcome where
  heading : String := ""
  span : Span := {}
  status : Status := .passed
  /-- The time it took, in milliseconds. -/
  time : Nat := 0
  preHookMessages : List String := []
  postHookMessages : List String := []
  preHookScreenshots : List String := []
  postHookScreenshots : List String := []
  skipReasons : List String := []
  errors : List String := []
  specRowIndex : Nat := 0
  ownRowIndex : Nat := 0
  isSpecDriven : Bool := false
  isOwnDriven : Bool := false
  deriving DecidableEq, Repr, Inhabited

/-- A scenario as it is shown. -/
structure ShownScenario where
  heading : String := ""
  status : Status := .passed
  time : Nat := 0
  skipReasons : List String := []
  errors : List String := []
  preHookMessages : List String := []
  postHookMessages : List String := []
  deriving DecidableEq, Repr, Inhabited

/-- A scenario instance as it is shown, with its table rows. -/
structure ShownInstance where
  scenario : ShownScenario := {}
  isSpecDriven : Bool := false
  isOwnDriven : Bool := false
  specRowIndex : Nat := 0
  ownRowIndex : Nat := 0
  deriving DecidableEq, Repr, Inhabited

/-- What the report of a specification shows. -/
inductive ShownItem where
  | scenario (s : ShownScenario)
  | inst (i : ShownInstance)
  | comment (text : String)
  deriving DecidableEq, Repr, Inhabited

namespace ScenarioOutcome

/-- The outcome of an instance of which nothing is reported: it passed. -/
def ofScenario (s : Scenario) : ScenarioOutcome where
  heading := s.heading
  span := s.span
  specRowIndex := s.specRowIndex
  ownRowIndex := s.ownRowIndex
  isSpecDriven := s.isSpecDriven
  isOwnDriven := s.isOwnDriven

/-- The scenario failed. -/
def isFailed (o : ScenarioOutcome) : Bool :=
  o.status == .failed

/-- The scenario was skipped. -/
def isSkipped (o : ScenarioOutcome) : Bool :=
  o.status == .skipped

/-- A row of some table drives the instance. -/
def isTableDriven (o : ScenarioOutcome) : Bool :=
  o.isSpecDriven || o.isOwnDriven

/-- The outcome as it is shown. -/
def toItem (o : ScenarioOutcome) : ShownItem :=
  let shown : ShownScenario :=
    { heading := o.heading
      status := o.status
      time := o.time
      skipReasons := o.skipReasons
      errors := o.errors
      preHookMessages := o.preHookMessages
      postHookMessages := o.postHookMessages }
  if o.isTableDriven then
    .inst ⟨shown, o.isSpecDriven, o.isOwnDriven, o.specRowIndex, o.ownRowIndex⟩
  else
    .scenario shown

end ScenarioOutcome

end Roster

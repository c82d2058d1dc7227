import Roster.Fault.Report
import Roster.Stream.Strategy

/-!
Events: what a selection tells its user beside its result.

Steps that report something give a `Logged` value, so the events are part of the
answer and not of a log.
-/

namespace Roster

/-- How urgent an event is. -/
inductive Urgency where
  | warning
  | info
  deriving DecidableEq, Repr

/-- The name of a level of urgency. -/
def Urgency.text : Urgency → String
  | .warning => "WARN"
  | .info => "INFO"

/-- Something that a selection reports. -/
inductive Event where
  /-- A scenario name was asked for that no scenario has. -/
  | unknownScenario (report : Report)
  /-- Running one group has set the strategy. -/
  | strategyOverridden
  /-- A selection is done: the specifications it started from, those and the
  scenarios left, and the strategy. -/
  | selectionComplete (total selected scenarios : Nat) (strategy : Strategy)

namespace Event

/-- How urgent an event is. -/
def urgency : Event → Urgency
  | .unknownScenario _ => .warning
  | .strategyOverridden | .selectionComplete .. => .info

/-- An event in words. -/
def message : Event → String
  | .unknownScenario report => "Warning: " ++ report.message
  | .strategyOverridden => Strategy.overrideNotice
  | .selectionComplete .. => "Selection complete"

/-- The named values of an event. -/
def details : Event → List (String × Json)
  | .unknownScenario report => [("hint", .str (report.hint.getD ""))]
  | .strategyOverridden => []
  | .selectionComplete total selected scenarios strategy =>
    [("total", .nat total), ("selected", .nat selected), ("scenarios", .nat scenarios),
      ("strategy", .str strategy.text)]

end Event

/-- A value with the events on the way to it, in order. -/
structure Logged (α : Type) where
  value : α
  events : List Event := []

end Roster

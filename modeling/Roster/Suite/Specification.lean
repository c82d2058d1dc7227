import Roster.Suite.Scenario

/-!
Specifications.

A specification is a document: a heading, a file, and a body of items. Its
scenarios are the scenario items, in order, so there is no second list to keep in
step. A bucket holds the specifications of one execution stream.
-/

namespace Roster

/-- A comment in a specification. -/
structure Comment where
  value : String := ""
  line : Nat := 0
  deriving DecidableEq, Repr, Inhabited

/-- What the body of a specification holds. -/
inductive Item where
  | scenario (s : Scenario)
  | step (s : Step)
  | comment (c : Comment)
  | table (t : Table)
  | tags (t : Tags)
  | tearDown (s : Step)
  deriving DecidableEq, Repr, Inhabited

namespace Item

/-- The scenario that an item is. -/
def scenario? : Item → Option Scenario
  | .scenario s => some s
  | _ => none

/-- The item is a scenario. -/
def isScenario (item : Item) : Bool :=
  item.scenario?.isSome

/-- The item with its scenario changed by `f`; any other item as it is. -/
def mapScenario (f : Scenario → Scenario) : Item → Item
  | .scenario s => .scenario (f s)
  | item => item

end Item

/-- A specification document. -/
structure Specification where
  heading : String := ""
  /-- The file, which is also the identity of the specification's data table. -/
  fileName : String := ""
  items : List Item := []
  tags : Tags := {}
  /-- The tag expression that the specification carries with it. -/
  inherited : Option String := none
  dataTable : Option Table := none
  deriving DecidableEq, Repr, Inhabited

namespace Specification

/-- The scenarios, in item order. -/
def scenarios (spec : Specification) : List Scenario :=
  spec.items.filterMap Item.scenario?

/-- How many scenarios there are. -/
def scenarioCount (spec : Specification) : Nat :=
  spec.scenarios.length

/-- There is a scenario. -/
def hasScenarios (spec : Specification) : Bool :=
  spec.items.any Item.isScenario

/-- The specification with an empty body. -/
def withoutItems (spec : Specification) : Specification :=
  { spec with items := [] }

/-- The specification with one more item at its end. -/
def addItem (spec : Specification) (item : Item) : Specification :=
  { spec with items := spec.items ++ [item] }

/-- The specification with one more group of tags. -/
def addTags (spec : Specification) (group : List String) : Specification :=
  { spec with tags := spec.tags.add group }

/-- The specification with every scenario changed by `f`. -/
def mapScenarios (spec : Specification) (f : Scenario → Scenario) : Specification :=
  { spec with items := spec.items.map (Item.mapScenario f) }

end Specification

/-- Every heading of a scenario of the suite, in order, repetitions included. -/
def scenarioHeadings (specs : List Specification) : List String :=
  specs.flatMap fun spec => spec.scenarios.map Scenario.heading

/-- How many scenarios the suite has. -/
def scenarioTotal : List Specification → Nat
  | [] => 0
  | spec :: specs => spec.scenarioCount + scenarioTotal specs

/-- The specifications of one execution stream. -/
structure Bucket where
  specs : List Specification := []
  deriving DecidableEq, Repr, Inhabited

end Roster

import Roster.Suite.Table
import Roster.Text.Numeral

/-!
Scenarios.

A scenario is a named unit of behaviour on a span of lines. One that is driven by
a data table occurs once per row: every occurrence is an instance with a table of
that one row and the number of the row.
-/

namespace Roster

/-- An inclusive span of lines in a source file. -/
structure Span where
  start : Nat := 0
  stop : Nat := 0
  deriving DecidableEq, Repr, Inhabited

namespace Span

/-- The line lies in the span. -/
def contains (s : Span) (line : Nat) : Bool :=
  s.start ≤ line && line ≤ s.stop

/-- A span as it is shown. -/
def text (s : Span) : String :=
  Text.numeral s.start ++ "-" ++ Text.numeral s.stop

end Span

/-- Groups of tag names. A group is one line of tags in the source. -/
structure Tags where
  groups : List (List String) := []
  deriving DecidableEq, Repr, Inhabited

namespace Tags

/-- The groups with one more at the end. -/
def add (t : Tags) (group : List String) : Tags :=
  ⟨t.groups ++ [group]⟩

/-- The names of every group, in order. -/
def values (t : Tags) : List String :=
  t.groups.flatten

/-- No group names a tag. -/
def isEmpty (t : Tags) : Bool :=
  t.groups.all List.isEmpty

end Tags

/-- A step of a scenario or of a specification. -/
structure Step where
  text : String := ""
  line : Nat := 0
  deriving DecidableEq, Repr, Inhabited

/-- A scenario, or its instance for one row of a data table. -/
structure Scenario where
  heading : String := ""
  span : Span := {}
  tags : Tags := {}
  /-- The tag expression that the scenario carries with it. -/
  inherited : Option String := none
  steps : List Step := []
  /-- The row of the specification's table that drives the instance. -/
  specRow : Option Table := none
  /-- The row of the scenario's own table that drives the instance. -/
  ownRow : Option Table := none
  /-- The number of the row of the specification's table. -/
  specRowIndex : Nat := 0
  /-- The number of the row of the scenario's own table. -/
  ownRowIndex : Nat := 0
  deriving DecidableEq, Repr, Inhabited

namespace Scenario

/-- The heading is one of `names`. -/
def isNamed (s : Scenario) (names : List String) : Bool :=
  names.contains s.heading

/-- One of `lines` lies in the span. -/
def isOnLine (s : Scenario) (lines : List Nat) : Bool :=
  lines.any s.span.contains

/-- The instance has a row of the specification's table. -/
def isSpecDriven (s : Scenario) : Bool :=
  s.specRow.isSome

/-- The instance has a row of the scenario's own table. -/
def isOwnDriven (s : Scenario) : Bool :=
  s.ownRow.isSome

/-- The tags that the rows of the instance list. -/
def rowTags (s : Scenario) : List String :=
  s.specRow.toList.flatMap Table.allTags ++ s.ownRow.toList.flatMap Table.allTags

end Scenario

end Roster

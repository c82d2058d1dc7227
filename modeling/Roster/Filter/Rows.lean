import Roster.Suite.Specification

/-!
Row numbers for reports.

After a selection the rows that are left are numbered anew. All specifications of
one file share a count of table rows: in each of them the rows take the next
numbers in the order in which they are first seen. The instances of a scenario's
own table are then numbered among those with the same table row and the same first
line.
-/

namespace Roster

namespace Specification

/-- The incoming row numbers of the scenarios, each once, in the order first seen. -/
def rowsSeen (spec : Specification) : List Nat :=
  (spec.scenarios.map Scenario.specRowIndex).eraseDups

/-- The specification with its table rows numbered from `base` in the order first seen. -/
def renumberSpecRows (base : Nat) (spec : Specification) : Specification :=
  let seen := spec.rowsSeen
  spec.mapScenarios fun s => { s with specRowIndex := base + seen.idxOf s.specRowIndex }

/-- What the instances of one scenario for one table row have in common. -/
def instanceKey (s : Scenario) : Nat × Nat :=
  (s.specRowIndex, s.span.start)

/-- The items with every scenario numbered by how many before it have its key, where
the keys in `before` came first. -/
def numberInstances (before : List (Nat × Nat)) : List Item → List Item
  | [] => []
  | .scenario s :: items =>
    .scenario { s with ownRowIndex := before.count (instanceKey s) } ::
      numberInstances (instanceKey s :: before) items
  | item :: items => item :: numberInstances before items

/-- The specification with the instances of every scenario numbered from zero. -/
def renumberOwnRows (spec : Specification) : Specification :=
  { spec with items := numberInstances [] spec.items }

end Specification

/-- The first row number that is free for the file `fileName` after the specifications
in `before`: every one of them in this file takes as many as it has rows. -/
def nextRow (fileName : String) : List Specification → Nat
  | [] => 0
  | spec :: before =>
    (if spec.fileName = fileName then spec.rowsSeen.length else 0) + nextRow fileName before

/-- Renumbers the rows of `specs`, which come after `before`. -/
def renumberAfter (before : List Specification) : List Specification → List Specification
  | [] => []
  | spec :: specs =>
    (spec.renumberSpecRows (nextRow spec.fileName before)).renumberOwnRows ::
      renumberAfter (before ++ [spec]) specs

/-- The suite with its rows numbered anew. -/
def renumberRows (specs : List Specification) : List Specification :=
  renumberAfter [] specs

end Roster

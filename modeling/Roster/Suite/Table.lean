import Roster.Text.Fields

/-!
Data tables.

A table has named columns and rows of cells; a row may be shorter or longer than
the header. The first column called `tags`, in any case, lists tags of its row.
-/

namespace Roster

open Roster.Text

/-- How the value of a cell is produced. -/
inductive CellKind where
  | static
  | dynamic
  | special
  deriving DecidableEq, Repr, Inhabited

/-- One cell of a table. -/
structure Cell where
  value : String := ""
  kind : CellKind := .static
  deriving DecidableEq, Repr, Inhabited

/-- A data table: named columns and rows of cells. -/
structure Table where
  headers : List String := []
  rows : List (List Cell) := []
  line : Nat := 0
  deriving DecidableEq, Repr, Inhabited

namespace Table

/-- The name of the column whose cells list tags. -/
def tagsColumn : String := "tags"

/-- The table has neither columns nor rows. -/
def isEmpty (t : Table) : Bool :=
  t.headers.isEmpty && t.rows.isEmpty

/-- The first column whose trimmed header is `name`, ASCII case aside. -/
def columnIndex? (t : Table) (name : String) : Option Nat :=
  t.headers.findIdx? fun header => asciiLower (trim header) == asciiLower name

/-- The table with row `i` alone. -/
def onlyRow? (t : Table) (i : Nat) : Option Table :=
  t.rows[i]?.map fun row => { t with rows := [row] }

/-- The tags that a row lists in column `column`. A row that is too short lists none. -/
def tagsAt (column : Nat) (row : List Cell) : List String :=
  match row[column]? with
  | some cell => filledFields cell.value
  | none => []

/-- The tags of row `i`. -/
def rowTags (t : Table) (i : Nat) : List String :=
  match t.columnIndex? tagsColumn, t.rows[i]? with
  | some column, some row => tagsAt column row
  | _, _ => []

/-- The tags of every row, in row order. -/
def allTags (t : Table) : List String :=
  match t.columnIndex? tagsColumn with
  | some column => t.rows.flatMap (tagsAt column)
  | none => []

end Table

end Roster

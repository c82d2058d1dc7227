/-!
Edit distance: how many characters must be inserted, deleted or replaced to turn
one text into another.

The distance is computed a row at a time. The row of a text `a` holds the distances
from `a` to every beginning of `b`, the shortest first; `nextRow` is the row of `a`
with one more character, from the row of `a`.
-/

namespace Roster.Text

/-- The row after `row` from its second entry on. `left` is the entry before, `diagonal`
the one above it. -/
def fillRow (c : Char) (left diagonal : Nat) : List Char → List Nat → List Nat
  | d :: b, above :: row =>
    let entry := min (min (above + 1) (left + 1)) (diagonal + if c = d then 0 else 1)
    entry :: fillRow c entry above b row
  | _, _ => []

/-- The row of `a` with `c` at its end, from the row of `a`. -/
def nextRow (b : List Char) (row : List Nat) (c : Char) : List Nat :=
  match row with
  | [] => []
  | first :: rest => (first + 1) :: fillRow c (first + 1) first b rest

/-- The row of the text `a`. -/
def distanceRow (a b : List Char) : List Nat :=
  a.foldl (nextRow b) (List.range (b.length + 1))

/-- The edit distance of two texts. -/
def distance (a b : String) : Nat :=
  ((distanceRow a.toList b.toList).getLast?).getD 0

end Roster.Text

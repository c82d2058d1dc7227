import Roster.Text.Distance

/-!
Names to suggest for one that was not found.

A name is close when at most three edits turn the name searched for into it. The
closest come first, names at one distance in the order of their characters.
-/

namespace Roster

open Roster.Text

/-- The greatest edit distance of a name worth suggesting. -/
def suggestionRadius : Nat := 3

/-- `a` is suggested no later than `b`. -/
def suggestedBefore (a b : Nat × String) : Bool :=
  a.1 < b.1 || (a.1 == b.1 && !(b.2 < a.2))

/-- The list with each run of equal neighbours cut down to its first. -/
def dropRepeats : List String → List String
  | a :: b :: rest => if a = b then dropRepeats (a :: rest) else a :: dropRepeats (b :: rest)
  | rest => rest

/-- At most `limit` names of `existing` that are close to `searched`, each once, the
best first. -/
def closeNames (searched : String) (existing : List String) (limit : Nat) : List String :=
  let measured := existing.map fun name => (distance searched name, name)
  let close := measured.filter fun entry => entry.1 ≤ suggestionRadius
  (dropRepeats ((close.mergeSort suggestedBefore).map Prod.snd)).take limit

end Roster

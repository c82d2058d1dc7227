import Roster.Stream.Strategy

/-!
Settings of a selection, and the check that comes before any work.
-/

namespace Roster

/-- What a selection is asked for. -/
structure Settings where
  /-- The tag expression of the run. -/
  tags : String := ""
  /-- The headings to keep; none keeps all. -/
  scenarios : List String := []
  /-- The lines to keep; none keeps all. -/
  lines : List Nat := []
  /-- The tags of the whole suite. -/
  suiteTags : List String := []
  /-- The number of parallel streams. -/
  streams : Nat := 1
  /-- The group to run alone, counted from one. -/
  group : Option Nat := none
  strategy : Strategy := .lazy
  deriving DecidableEq, Repr, Inhabited

/-- The settings are of use for any suite. -/
def Settings.check (settings : Settings) : Except Fault Unit := do
  let _ ← Tag.Expression.read settings.tags
  if settings.streams = 0 then .error (.streamCount 0)

end Roster

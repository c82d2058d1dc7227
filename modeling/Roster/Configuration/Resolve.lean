import Roster.Configuration.Layer
import Roster.Configuration.Written
import Roster.Selection.Settings

/-!
Settings out of a layer.

The lines, the number of streams, the group and the strategy are read in this order,
and the first that is malformed is a fault. A blank text counts as none. Keys that
settings do not have are ignored.
-/

namespace Roster

open Roster.Text

namespace Layer

/-- The text of a key, unless it is blank. -/
def filled? (l : Layer) (key : String) : Option String :=
  (l.get? key).filter fun raw => trim raw ≠ ""

/-- The items of the list that a key has. -/
def items (l : Layer) (key : String) : List String :=
  ((l.get? key).map readList).getD []

/-- The numbers of the list that a key has. -/
def numbers (l : Layer) (key : String) : Except Fault (List Nat) :=
  (l.items key).mapM (readNumber key)

/-- The number that a key has. -/
def number? (l : Layer) (key : String) : Except Fault (Option Nat) :=
  match l.filled? key with
  | some raw => (readNumber key raw).map some
  | none => .ok none

/-- The strategy that a key has. -/
def strategy? (l : Layer) (key : String) : Except Fault (Option Strategy) :=
  match l.filled? key with
  | some raw => (Strategy.parse raw).map some
  | none => .ok none

/-- The settings that a layer gives. -/
def settings (l : Layer) : Except Fault Settings := do
  let standard : Settings := {}
  let lines ← l.numbers "lines"
  let streams ← l.number? "parallel-streams"
  let group ← l.number? "group"
  let strategy ← l.strategy? "strategy"
  return {
    tags := (l.get? "tags").getD ""
    scenarios := l.items "scenarios"
    lines := lines
    suiteTags := l.items "suite-tags"
    streams := streams.getD standard.streams
    group := group
    strategy := strategy.getD standard.strategy }

end Layer

end Roster

import Roster.Fault.Basic
import Roster.Text.Fields

/-!
Strategies: how specifications reach the streams that execute them.
-/

namespace Roster

open Roster.Text

/-- How specifications reach streams. -/
inductive Strategy where
  /-- A stream takes the next specification when it is free. -/
  | lazy
  /-- Every stream has its specifications from the start. -/
  | eager
  deriving DecidableEq, Repr, Inhabited

namespace Strategy

/-- The name of a strategy. -/
def text : Strategy → String
  | .lazy => "lazy"
  | .eager => "eager"

/-- The strategy that `raw` names; blanks around it and case do not count. -/
def parse (raw : String) : Except Fault Strategy :=
  match asciiLower (trim raw) with
  | "lazy" => .ok .lazy
  | "eager" => .ok .eager
  | other =>
    .error (.config s!"unknown distribution strategy '{other}' (expected lazy or eager)")

/-- What is said when running one group replaces another strategy. -/
def overrideNotice : String :=
  "Using the -g flag will make the distribution strategy 'eager'. " ++
    "The --strategy setting will be overridden."

end Strategy

end Roster

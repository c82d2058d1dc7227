import Roster.Fault.Basic
import Roster.Fault.Suggestion
import Roster.Json.Basic

/-!
Reports of failures.

A report is a failure as tools and people see it: `Report.toJson` is what a command
prints for tools, `Report.toText` what it shows to people, with colours or without.
A scenario name that is not found is reported too, although nothing fails.
-/

namespace Roster

/-- A failure with all that is said about it. -/
structure Report where
  code : FaultCode
  message : String
  hint : Option String
  retryable : Bool
  context : Option Json

namespace Report

/-- The report of a fault. -/
def ofFault (f : Fault) : Report where
  code := f.code
  message := f.message
  hint := f.suggestion
  retryable := f.code.isRetryable
  context :=
    match f with
    | .tagExpression expression reason =>
      some (.obj [("expression", .str expression), ("reason", .str reason)])
    | .streamCount count => some (.obj [("count", .nat count)])
    | .config _ | .io _ | .json | .yaml => none

/-- The question that suggests `names`. -/
def didYouMean : List String → Option String
  | [] => none
  | [name] => some s!"Did you mean '{name}'?"
  | names =>
    let listed := ", ".intercalate names
    some s!"Did you mean one of: {listed}?"

/-- The report of a scenario name that none of the headings `existing` is. -/
def scenarioNotFound (searched : String) (existing : List String) : Report :=
  let similar := closeNames searched existing 3
  { code := .validationFailed
    message := s!"scenario name - \"{searched}\" not found"
    hint := didYouMean similar
    retryable := false
    context := some (.obj [("searched", .str searched), ("similar", .strings similar)]) }

/-- The report as commands print it. -/
def toJson (r : Report) : Json :=
  .obj [("error", .obj [
    ("code", .str r.code.text),
    ("context", .orNull r.context),
    ("hint", .orNull (r.hint.map .str)),
    ("message", .str r.message),
    ("retryable", .bool r.retryable)])]

/-- The report as a document: a hint or context that is absent is left out. -/
def toDocument (r : Report) : Json :=
  .obj <|
    [("code", .str r.code.name), ("message", .str r.message)] ++
    (r.hint.map fun hint => ("hint", Json.str hint)).toList ++
    [("retryable", .bool r.retryable)] ++
    (r.context.map fun context => ("context", context)).toList

/-- `label` in the terminal colour `colour`, or plain. -/
def paint (colour : Option String) (label : String) : String :=
  match colour with
  | some colour => "\x1b[" ++ colour ++ "m" ++ label ++ "\x1b[0m"
  | none => label

/-- The report for people: the message, and on a line of its own the hint. -/
def toText (r : Report) (coloured : Bool) : String :=
  let red := if coloured then some "31" else none
  let yellow := if coloured then some "33" else none
  let head := paint red "Error:" ++ " " ++ r.message
  match r.hint with
  | some hint => head ++ "\n" ++ paint yellow "Hint:" ++ " " ++ hint
  | none => head

end Report

end Roster

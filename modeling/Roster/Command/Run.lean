import Roster.Command.Host
import Roster.Command.Verb
import Roster.Configuration.Resolve
import Roster.Document.Outcome
import Roster.Document.Selection
import Roster.Document.Text
import Roster.Fault.Report

/-!
What commands do.

`perform` is the work of a command on a host: what it prints, or the fault that ends
it. `run` adds what the user sees of a fault, and the exit status. A log file that
cannot be opened is told to the user and otherwise ignored.
-/

namespace Roster.Command

open Roster.Document Roster.Text

/-- What a command prints. -/
structure Printed where
  out : String := ""
  err : String := ""
  deriving DecidableEq, Repr

/-- A value printed as JSON. -/
def Printed.json (v : Json) : Printed :=
  { out := v.toPretty ++ "\n" }

/-- A line printed. -/
def Printed.line (text : String) : Printed :=
  { out := text ++ "\n" }

/-! ### Tag expressions -/

/-- What is printed on a well-formed expression. -/
def validate (expression : String) (json : Bool) : Except Fault Printed := do
  let parsed ← Tag.Expression.read expression
  if json then
    return .json (.obj [
      ("expression", .str expression),
      ("valid", .bool true),
      ("operands", .strings parsed.operands)])
  else if parsed.isEmpty then
    return .line "ok (empty expression matches everything)"
  else
    let count := numeral parsed.operands.length
    let listed := ", ".intercalate parsed.operands
    return .line s!"ok: {count} tag(s): {listed}"

/-- What is printed on the value of an expression. -/
def evaluate (expression : String) (tags : List String) (json : Bool) :
    Except Fault Printed := do
  let result ← Tag.evaluate expression tags
  if json then
    return .json (.obj [
      ("expression", .str expression),
      ("tags", .strings tags),
      ("result", .bool result)])
  else
    return .line (if result then "true" else "false")

/-! ### Selections -/

/-- What is printed on a selection: the streams where several share it, or else its
specifications. -/
def selectionReport (settings : Settings) (chosen : Selection) : Except Fault Json := do
  let body ←
    if chosen.group.isNone && settings.streams > 1 then do
      pure ("streams", bucket.list.write (← chosen.buckets))
    else pure ("specs", suite.write chosen.specs)
  return .obj <|
    [("strategy", strategy.write chosen.strategy)] ++
    (chosen.group.map fun g => ("group", Json.nat g)).toList ++
    (chosen.notice.map fun text => ("notice", Json.str text)).toList ++
    [("scenario_count", .nat chosen.scenarioCount), body]

/-- What is printed on a selection out of the text of a suite. -/
def selectFrom (settings : Settings) (text : String) : Except Fault Printed := do
  let specs ← suite.readText text
  let chosen ← Selection.run settings specs
  return .json (← selectionReport settings chosen.value)

/-! ### Outcomes and schemas -/

/-- A specification outcome in one line. -/
def outcomeLine (r : SpecOutcome) : String :=
  let total := numeral r.scenarioCount
  let failed := numeral r.failedCount
  let skipped := numeral r.skippedCount
  let time := numeral r.time
  s!"{r.heading}: {total} scenario(s), {failed} failed, {skipped} skipped, {time} ms\n"

/-- What is printed on outcomes out of the text of a request to sum them up. -/
def aggregateFrom (text : String) (json : Bool) : Except Fault Printed := do
  let request ← summaryRequest.readText text
  let r := SpecOutcome.summarize request.spec request.outcomes request.preHooks request.postHooks
  return { Printed.json (specOutcome.write r) with err := if json then "" else outcomeLine r }

/-- The published schema. -/
def schemaOf : SchemaTarget → Json
  | .specification => suite.schema "Array_of_Specification"
  | .scenarioResult => scenarioOutcome.schema "ScenarioResult"
  | .specResult => specOutcome.schema "SpecResult"
  | .selection => selection.schema "Selection"
  | .all => sortKeys <| .obj [
      ("specification", suite.schema "Array_of_Specification"),
      ("scenario_result", scenarioOutcome.schema "ScenarioResult"),
      ("spec_result", specOutcome.schema "SpecResult"),
      ("selection", selection.schema "Selection")]

/-! ### Files -/

section Hosted

variable {m : Type → Type} [Monad m]

/-- The text of a file. -/
def readFileText (host : Host m) (path : String) : ExceptT Fault m String := do
  match ← host.readText path with
  | .ok text => return text
  | .error problem => throw (.io problem)

/-- The project's configuration file. -/
def projectFile : String := "ssel.yaml"

/-- The layer of the file at a path, which is empty where there is none. -/
def layerAt (host : Host m) (path : String) : ExceptT Fault m Layer := do
  if ← host.isPresent path then
    ExceptT.mk (pure (Layer.ofText (← readFileText host path)))
  else return {}

/-- The layer of the project: of the file asked for, which must be there, or of the
project's own file. -/
def projectLayer (host : Host m) (asked : Option String) : ExceptT Fault m Layer := do
  match asked with
  | none => layerAt host projectFile
  | some path =>
    if ← host.isPresent path then layerAt host path
    else throw (.config s!"config file not found: {path}")

/-- The settings of a selection, from every source. -/
def resolveSettings (host : Host m) (asked : Option String) (overrides : Overrides) :
    ExceptT Fault m Settings := do
  let project ← projectLayer host asked
  let environment ← host.environment
  ExceptT.mk (pure (Layer.ofSources project environment overrides).settings)

/-- What a command prints, or the fault that ends it. -/
def perform (host : Host m) (i : Invocation) : ExceptT Fault m Printed := do
  match i.verb with
  | .validate expression => ExceptT.mk (pure (validate expression i.common.json))
  | .eval expression tags => ExceptT.mk (pure (evaluate expression tags i.common.json))
  | .select specs overrides =>
    let settings ← resolveSettings host i.common.config overrides
    ExceptT.mk (pure (selectFrom settings (← readFileText host specs)))
  | .aggregate results =>
    ExceptT.mk (pure (aggregateFrom (← readFileText host results) i.common.json))
  | .schema target => return .json (schemaOf target)

/-- Who reads what a command says about a fault. -/
inductive Reader where
  | tool
  | person (coloured : Bool)
  deriving DecidableEq, Repr

/-- A fault as its reader sees it. -/
def faultText (f : Fault) : Reader → String
  | .tool => (Report.ofFault f).toJson.toPretty ++ "\n"
  | .person coloured => (Report.ofFault f).toText coloured ++ "\n"

/-- What is seen of a command that has ended. -/
structure Ending extends Printed where
  status : Nat
  deriving DecidableEq, Repr

/-- The note on a log file that cannot be opened. -/
def logNote (host : Host m) (logFile : Option String) : m String := do
  match logFile with
  | none => return ""
  | some path =>
    match ← host.openLog path with
    | none => return ""
    | some problem =>
      let said := (Fault.io problem).message
      return s!"Failed to initialize logging: {said}\n"

/-- Runs a command. -/
def run (host : Host m) (reader : Reader) (i : Invocation) : m Ending := do
  let note ← logNote host i.common.logFile
  match ← (perform host i).run with
  | .ok printed => return { printed with err := note ++ printed.err, status := 0 }
  | .error f => return { err := note ++ faultText f reader, status := f.code.exitStatus }

end Hosted

/-! ### Command lines -/

/-- The exit status of a command line that names no command. -/
def misuseStatus : Nat := 2

/-- The name of the program and its version. -/
def versionLine : String := "ssel 0.1.0\n"

/-- A command with what it does, in one line. -/
def usageLine (rule : VerbRule) : String :=
  "  " ++ rule.name ++ ": " ++ rule.about ++ "\n"

/-- How the program is used. -/
def usage : String :=
  "Usage: ssel [OPTIONS] <COMMAND>\n\nCommands:\n" ++ String.join (verbRules.map usageLine)

/-- What is seen of a command line that names no command. -/
def Stop.ending : Stop → Ending
  | .misuse => { err := usage, status := misuseStatus }
  | .help => { out := usage, status := 0 }
  | .version => { out := versionLine, status := 0 }

end Roster.Command

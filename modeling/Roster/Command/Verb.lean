import Roster.Command.Level
import Roster.Command.Line
import Roster.Configuration.Source

/-!
The commands, and the command lines that name them.

Options that all commands share may stand before the name of the command or after it;
of one that stands at both places the one after the name counts.
-/

namespace Roster.Command

open Roster.Text

/-- The documents whose schemas are published. -/
inductive SchemaTarget where
  | all
  | specification
  | scenarioResult
  | specResult
  | selection
  deriving DecidableEq, Repr

/-- What the program is to do. -/
inductive Verb where
  /-- Check that a tag expression is well formed. -/
  | validate (expression : String)
  /-- Tell the value of a tag expression where some tags are present. -/
  | eval (expression : String) (tags : List String)
  /-- Select the scenarios of a suite, which is in a file. -/
  | select (specs : String) (overrides : Overrides)
  /-- Sum up what is reported on a specification, which is in a file. -/
  | aggregate (results : String)
  /-- Print the schema of a document. -/
  | schema (target : SchemaTarget)
  deriving Repr

/-- What an option asks for. -/
inductive Setting where
  | config (path : String)
  | json
  | verbose
  | quiet
  | logFile (path : String)
  | tags (expression : String)
  | scenario (heading : String)
  | line (n : Nat)
  | streams (n : Nat)
  | group (n : Nat)
  | strategy (s : Strategy)
  deriving DecidableEq, Repr

/-- What is asked for beside the command. -/
structure Common where
  config : Option String := none
  json : Bool := false
  verbosity : Nat := 0
  quiet : Bool := false
  logFile : Option String := none
  deriving Repr

/-- A command with what is asked for beside it. -/
structure Invocation where
  verb : Verb
  common : Common
  deriving Repr

/-! ### Options -/

/-- The path that a text is. -/
def path? (text : String) : Option String :=
  if text = "" then none else some text

/-- The option that asks how the program is used. -/
def helpOption : OptionRule Setting :=
  { name := "help", letter := some 'h', meaning := .stop .help }

/-- The options of all commands. -/
def commonOptions : List (OptionRule Setting) := [
  { name := "config", meaning := .value fun text => (path? text).map .config },
  { name := "json", meaning := .flag .json },
  { name := "verbose", letter := some 'v', repeatable := true, meaning := .flag .verbose },
  { name := "quiet", letter := some 'q', meaning := .flag .quiet },
  { name := "log-file", meaning := .value fun text => (path? text).map .logFile },
  helpOption]

/-- The options before the name of the command. -/
def leadingOptions : List (OptionRule Setting) :=
  commonOptions ++ [{ name := "version", letter := some 'V', meaning := .stop .version }]

/-- The strategy of this very name. -/
def strategyNamed? (text : String) : Option Strategy :=
  [Strategy.lazy, .eager].find? fun s => s.text == text

/-- The options of a selection. -/
def selectOptions : List (OptionRule Setting) := [
  { name := "tags", letter := some 't', meaning := .value fun text => some (.tags text) },
  { name := "scenario", letter := some 's', repeatable := true
    meaning := .value fun text => some (.scenario text) },
  { name := "line", letter := some 'l', repeatable := true
    meaning := .value fun text => (word? text).map .line },
  { name := "parallel-streams", letter := some 'n'
    meaning := .value fun text => (word? text).map .streams },
  { name := "group", letter := some 'g', meaning := .value fun text => (word? text).map .group },
  { name := "strategy", meaning := .value fun text => (strategyNamed? text).map .strategy }]

/-- What settings ask for over any other configuration. -/
def overridesOf (settings : List Setting) : Overrides where
  tags := settings.findSome? fun | .tags t => some t | _ => none
  scenarios := settings.filterMap fun | .scenario h => some h | _ => none
  lines := settings.filterMap fun | .line n => some n | _ => none
  streams := settings.findSome? fun | .streams n => some n | _ => none
  group := settings.findSome? fun | .group n => some n | _ => none
  strategy := settings.findSome? fun | .strategy s => some s | _ => none

/-- What settings of one place ask for beside the command. -/
def commonOf (settings : List Setting) : Common where
  config := settings.findSome? fun | .config p => some p | _ => none
  json := settings.contains .json
  verbosity := settings.countP fun | .verbose => true | _ => false
  quiet := settings.contains .quiet
  logFile := settings.findSome? fun | .logFile p => some p | _ => none

/-- What is asked for after the name of the command counts over what is before it. -/
def Common.above (after before : Common) : Common where
  config := after.config.or before.config
  json := after.json || before.json
  verbosity := if after.verbosity = 0 then before.verbosity else after.verbosity
  quiet := after.quiet || before.quiet
  logFile := after.logFile.or before.logFile

/-- The least urgent level that is to be logged. -/
def Common.level (c : Common) : String :=
  logLevel c.verbosity c.quiet

/-! ### Commands -/

/-- The target of a schema by its name. -/
def schemaTarget? : String → Option SchemaTarget
  | "all" => some .all
  | "specification" => some .specification
  | "scenario-result" => some .scenarioResult
  | "spec-result" => some .specResult
  | "selection" => some .selection
  | _ => none

/-- How a command is named and written. -/
structure VerbRule where
  name : String
  /-- What the command does. -/
  about : String
  /-- The options that it does not share. -/
  options : List (OptionRule Setting) := []
  /-- The words that it accepts, by their place. -/
  accepts : Nat → String → Bool
  /-- The command of these settings and words, if there are enough words. -/
  make : List Setting → List String → Option Verb

/-- Every command. -/
def verbRules : List VerbRule := [
  { name := "validate"
    about := "Check that a tag expression is well formed"
    accepts := fun i _ => i == 0
    make := fun _ words => words.head?.map .validate },
  { name := "eval"
    about := "Evaluate a tag expression against a list of tags"
    accepts := fun _ _ => true
    make := fun _ words => words.head?.map fun e => .eval e words.tail },
  { name := "select"
    about := "Filter specifications and split them across streams"
    options := selectOptions
    accepts := fun i word => i == 0 && word != ""
    make := fun settings words => words.head?.map fun path => .select path (overridesOf settings) },
  { name := "aggregate"
    about := "Fold scenario results into a specification result"
    accepts := fun i word => i == 0 && word != ""
    make := fun _ words => words.head?.map .aggregate },
  { name := "schema"
    about := "Print JSON schemas for input and output documents"
    accepts := fun i word => i == 0 && (schemaTarget? word).isSome
    make := fun _ words => some (.schema ((words.head?.bind schemaTarget?).getD .all)) }]

/-- The command of this name. -/
def verbRule? (name : String) : Option VerbRule :=
  verbRules.find? fun rule => rule.name == name

/-- What `help` with these words stops for: it knows the commands and itself. -/
def helpStop : List String → Stop
  | [] => .help
  | [name] => if name == "help" || (verbRule? name).isSome then .help else .misuse
  | _ => .misuse

/-- The command that the arguments name. -/
def Invocation.ofArgs (args : List String) : Except Stop Invocation := do
  let (before, name, args) ←
    Taken.addLeading { options := leadingOptions, accepts := fun _ _ => false } {} args
  if name == "help" then .error (helpStop args)
  else match verbRule? name with
    | none => .error .misuse
    | some rule =>
      let after ← Taken.addAll
        { options := commonOptions ++ rule.options, accepts := rule.accepts } args
      match rule.make after.settings after.words with
      | some verb =>
        .ok { verb := verb, common := (commonOf after.settings).above (commonOf before.settings) }
      | none => .error .misuse

end Roster.Command

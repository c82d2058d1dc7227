import Roster.Configuration.Layer
import Roster.Configuration.Written
import Roster.Stream.Strategy
import Roster.Yaml.Load

/-!
Where configuration comes from.

The lowest layer holds what is so unless something else is asked for; over it lie the
project's file, the environment variables and the command line. A YAML document is
flattened: the path to a value, with points between the keys, is the key of its text,
and a sequence is a list of the texts of its scalars.
-/

namespace Roster

open Roster.Text

/-- What is so unless something else is asked for. -/
def standardSettings : List (String × String) :=
  [("parallel-streams", "1"), ("strategy", Strategy.text default)]

/-- The layer under all others. -/
def Layer.standard : Layer :=
  .ofList standardSettings

/-! ### Environment variables -/

/-- How the names of the variables start that set keys. -/
def variableStart : List Char :=
  "SSEL_".toList

/-- The key that a variable of this name sets. -/
def variableKey? (name : String) : Option String :=
  if variableStart.isPrefixOf name.toList then
    some (.ofList (name.toList.drop variableStart.length))
  else none

/-- What environment variables set, which are given as names and values. -/
def variableSettings (environment : List (String × String)) : List (String × String) :=
  environment.filterMap fun entry => (variableKey? entry.1).map (·, entry.2)

/-- The layer of environment variables. -/
def Layer.ofVariables (environment : List (String × String)) : Layer :=
  .ofList (variableSettings environment)

/-! ### YAML documents -/

/-- The path one key further. -/
def extendPath (path key : String) : String :=
  if path = "" then key else path ++ "." ++ key

mutual

/-- The paths of a value and its parts that have a text, with their texts. -/
def flatten (path : String) : Yaml.Value → List (String × String)
  | .map entries => flattenEntries path entries
  | .seq items => [(path, writeList (items.filterMap Yaml.Value.scalarText?))]
  | v => (v.scalarText?.map (path, ·)).toList

/-- The paths and texts of the values whose keys are texts. -/
def flattenEntries (path : String) : List (Yaml.Value × Yaml.Value) → List (String × String)
  | [] => []
  | (key, v) :: entries =>
    (match key.text? with
      | some key => flatten (extendPath path key) v
      | none => []) ++ flattenEntries path entries

end

/-- The layer of a value. -/
def Layer.ofValue (v : Yaml.Value) : Layer :=
  .ofList (flatten "" v)

/-- The layer of the text of a configuration file. -/
def Layer.ofText (text : String) : Except Fault Layer :=
  match Yaml.read? text with
  | some v => .ok (.ofValue v)
  | none => .error .yaml

/-! ### The command line -/

/-- What a command line asks for over any other configuration. -/
structure Overrides where
  tags : Option String := none
  scenarios : List String := []
  lines : List Nat := []
  streams : Option Nat := none
  group : Option Nat := none
  strategy : Option Strategy := none
  deriving DecidableEq, Repr

/-- The setting of a list, if it has items. -/
def listSetting (key : String) (items : List String) : List (String × String) :=
  if items.isEmpty then [] else [(key, writeList items)]

/-- What a command line sets. -/
def Overrides.settings (o : Overrides) : List (String × String) :=
  (o.tags.map ("tags", ·)).toList ++
  listSetting "scenarios" o.scenarios ++
  listSetting "lines" (o.lines.map numeral) ++
  (o.streams.map fun n => ("parallel-streams", numeral n)).toList ++
  (o.group.map fun n => ("group", numeral n)).toList ++
  (o.strategy.map fun s => ("strategy", s.text)).toList

/-- The layer of a command line. -/
def Overrides.toLayer (o : Overrides) : Layer :=
  .ofList o.settings

/-! ### All sources -/

/-- The layers of all sources over one another. -/
def Layer.ofSources (project : Layer) (environment : List (String × String))
    (o : Overrides) : Layer :=
  .merge [.standard, project, .ofVariables environment, o.toLayer]

end Roster

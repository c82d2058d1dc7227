import Roster.Command.Host
import Roster.Command.Level
import Roster.Command.Line
import Roster.Command.Run
import Roster.Command.Verb
import Roster.Configuration.Layer
import Roster.Configuration.Resolve
import Roster.Configuration.Source
import Roster.Configuration.Written
import Roster.Decimal.Double
import Roster.Decimal.Layout
import Roster.Decimal.Shortest
import Roster.Document.Choice
import Roster.Document.Format
import Roster.Document.Outcome
import Roster.Document.Record
import Roster.Document.Selection
import Roster.Document.Shape
import Roster.Document.Suite
import Roster.Document.Text
import Roster.Event
import Roster.Fault.Basic
import Roster.Fault.Report
import Roster.Fault.Suggestion
import Roster.Filter.Partition
import Roster.Filter.Rows
import Roster.Filter.Rule
import Roster.Json.Basic
import Roster.Json.Reader
import Roster.Json.Writer
import Roster.Main
import Roster.Outcome.Scenario
import Roster.Outcome.Spec
import Roster.Outcome.Suite
import Roster.Selection.Run
import Roster.Selection.Settings
import Roster.Stream.Deal
import Roster.Stream.Strategy
import Roster.Suite.Scenario
import Roster.Suite.Specification
import Roster.Suite.Table
import Roster.Tag.Expression
import Roster.Tag.Name
import Roster.Tag.Set
import Roster.Tag.Token
import Roster.Tag.Tree
import Roster.Text.Blank
import Roster.Text.Case.Lower
import Roster.Text.Case.Table
import Roster.Text.Distance
import Roster.Text.Fields
import Roster.Text.Numeral
import Roster.Yaml.Core
import Roster.Yaml.Load
import Roster.Yaml.Node
import Roster.Yaml.Place
import Roster.Yaml.Scalar
import Roster.Yaml.Token
import Roster.Yaml.Value
import Roster.Proofs.Except
import Roster.Proofs.First
import Roster.Proofs.FirstSeen
import Roster.Proofs.Tag.Grammar
import Roster.Proofs.Tag.Diagnosis
import Roster.Proofs.Tag.Parentheses
import Roster.Proofs.Tag.Compound
import Roster.Proofs.Tag.Name
import Roster.Proofs.Tag.Operands
import Roster.Proofs.Tag.Respelling
import Roster.Proofs.Tag.Written
import Roster.Proofs.Tag.Polarity
import Roster.Proofs.Filter.Admission
import Roster.Proofs.Filter.Scopes
import Roster.Proofs.Filter.Halves
import Roster.Proofs.Filter.Rows
import Roster.Proofs.Filter.Numbers
import Roster.Proofs.Filter.Faults
import Roster.Proofs.Selection.Pipeline
import Roster.Proofs.Selection.Groups
import Roster.Proofs.Selection.Faults
import Roster.Proofs.Selection.Warnings
import Roster.Proofs.Outcome.Summary
import Roster.Proofs.Command.Aggregate
import Roster.Proofs.Outcome.Batches
import Roster.Proofs.Outcome.Calls
import Roster.Proofs.Outcome.Streams
import Roster.Proofs.Configuration.Precedence
import Roster.Proofs.Filter.Split
import Roster.Proofs.Filter.Again
import Roster.Proofs.Filter.Renaming
import Roster.Proofs.Filter.Agreement
import Roster.Proofs.Filter.Negation
import Roster.Proofs.Stream.Rounds
import Roster.Proofs.Text.Distance
import Roster.Proofs.Text.Word
import Roster.Proofs.Fault.Suggestion
import Roster.Proofs.Configuration.Lists
import Roster.Proofs.Configuration.Overrides
import Roster.Proofs.Configuration.Resolution
import Roster.Proofs.Configuration.Leaves
import Roster.Proofs.Configuration.Flattening
import Roster.Proofs.Document.Lawful
import Roster.Proofs.Document.Outcome
import Roster.Proofs.Document.RoundTrip

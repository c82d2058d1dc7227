import Roster.Tag.Expression
import Roster.Text.Numeral

/-!
What can go wrong.

`Fault` has one constructor per kind of failure and `Fault.message` the wording of
each. A fault has a stable code, and the code decides the exit status of a command
and whether another try with mended input may succeed.
-/

namespace Roster

open Roster.Text

/-- The stable code of a failure. -/
inductive FaultCode where
  | invalidTagExpression
  | invalidStreamCount
  | validationFailed
  | configError
  | ioError
  | jsonError
  | yamlError
  deriving DecidableEq, Repr, Inhabited

namespace FaultCode

/-- Every code. -/
def all : List FaultCode :=
  [.invalidTagExpression, .invalidStreamCount, .validationFailed, .configError, .ioError,
    .jsonError, .yamlError]

/-- The code as commands print it. -/
def text : FaultCode → String
  | .invalidTagExpression => "INVALID_TAG_EXPRESSION"
  | .invalidStreamCount => "INVALID_STREAM_COUNT"
  | .validationFailed => "VALIDATION_FAILED"
  | .configError => "CONFIG_ERROR"
  | .ioError => "IO_ERROR"
  | .jsonError => "JSON_ERROR"
  | .yamlError => "YAML_ERROR"

/-- The code as a report document names it. -/
def name : FaultCode → String
  | .invalidTagExpression => "InvalidTagExpression"
  | .invalidStreamCount => "InvalidStreamCount"
  | .validationFailed => "ValidationFailed"
  | .configError => "ConfigError"
  | .ioError => "IoError"
  | .jsonError => "JsonError"
  | .yamlError => "YamlError"

/-- Mended input may help. -/
def isRetryable : FaultCode → Bool
  | .invalidTagExpression | .invalidStreamCount | .validationFailed => true
  | .configError | .ioError | .jsonError | .yamlError => false

/-- The exit status of a command that fails with this code. -/
def exitStatus : FaultCode → Nat
  | .invalidTagExpression | .invalidStreamCount => 3
  | .validationFailed => 4
  | .configError => 7
  | .ioError | .jsonError | .yamlError => 8

end FaultCode

/-- A failure of selection, distribution or aggregation. -/
inductive Fault where
  /-- A tag expression that is malformed for a reason, with its text as it was given. -/
  | tagExpression (expression reason : String)
  /-- A number of streams below one. -/
  | streamCount (count : Nat)
  /-- A configuration file or value that is of no use. -/
  | config (problem : String)
  /-- A file that cannot be read or written. -/
  | io (problem : String)
  /-- A text that is no JSON document of the kind asked for. -/
  | json
  /-- A text that is no YAML document. -/
  | yaml
  deriving DecidableEq, Repr

namespace Fault

/-- The code of a failure. -/
def code : Fault → FaultCode
  | .tagExpression .. => .invalidTagExpression
  | .streamCount _ => .invalidStreamCount
  | .config _ => .configError
  | .io _ => .ioError
  | .json => .jsonError
  | .yaml => .yamlError

/-- A failure in words. -/
def message : Fault → String
  | .tagExpression expression reason => s!"invalid expression: `{expression}`: {reason}"
  | .streamCount count =>
    let shown := numeral count
    s!"Invalid stream count: {shown} (must be at least 1)"
  | .config problem => s!"Configuration error: {problem}"
  | .io problem => s!"I/O error: {problem}"
  | .json => "JSON error: the text is not a document of this kind"
  | .yaml => "YAML error: the text is not a document"

/-- What the user may do about a failure. -/
def suggestion : Fault → Option String
  | .tagExpression .. =>
    some "Combine tag names with & (or ,), | and !, and balance every parenthesis"
  | .streamCount _ => some "Use --parallel-streams 1 or greater"
  | .config _ => some "Check ssel.yaml and SSEL_* environment variables"
  | .io _ | .json | .yaml => none

end Fault

/-- The expression that a text spells, or the fault of a text that spells none. -/
def Tag.Expression.read (raw : String) : Except Fault Tag.Expression :=
  (Tag.Expression.parse raw).mapError fun reason => .tagExpression raw reason.message

/-- The value of the expression `raw` on the tags with these names. -/
def Tag.evaluate (raw : String) (names : List String) : Except Fault Bool := do
  let expression ← Tag.Expression.read raw
  return expression.matchesTags (.ofList names)

end Roster

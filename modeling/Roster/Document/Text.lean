import Roster.Document.Format
import Roster.Fault.Basic
import Roster.Json.Reader
import Roster.Json.Writer

/-!
Documents as texts.
-/

namespace Roster.Document.Format

variable {α : Type}

/-- Reads the JSON text of a document. -/
def readText (f : Format α) (text : String) : Except Fault α :=
  match (Json.read? text).bind f.read with
  | some a => .ok a
  | none => .error .json

/-- The JSON text of a document, a line to every part. -/
def writeText (f : Format α) (a : α) : String :=
  (f.write a).toPretty

end Roster.Document.Format

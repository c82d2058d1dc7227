import Roster.Fault.Basic
import Roster.Json.Reader
import Roster.Json.Writer
import Roster.Text.Fields

/-!
Lists and numbers as they are written in a layer.

A list is a JSON array of texts, so that its items may have commas; a list that is
written by hand may also be plain fields with commas between them.
-/

namespace Roster

open Roster.Text

/-- A list as it is written in a layer. -/
def writeList (items : List String) : String :=
  (Json.strings items).toCompact

/-- The items of a JSON array of texts. -/
def arrayItems? (raw : String) : Option (List String) :=
  if raw.startsWith "[" then (Json.read? raw).bind Json.strings? else none

/-- The items of a written list, trimmed and without the empty ones. -/
def readList (raw : String) : List String :=
  match arrayItems? (trim raw) with
  | some items => (items.map trim).filter (· ≠ "")
  | none => filledFields raw

/-- The number that is written for `key`. -/
def readNumber (key raw : String) : Except Fault Nat :=
  let written := trim raw
  match word? written with
  | some n => .ok n
  | none => .error (.config s!"{key}: '{written}' is not a number")

end Roster

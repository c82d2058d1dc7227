import Roster.Text.Blank

/-!
Comma-separated fields, each trimmed.

The written form of a tag list in a table cell, and of a list in an environment
variable. Empty fields are fields: the text `a,,b` has three and the empty text
has one.
-/

namespace Roster.Text

/-- The trimmed fields of a comma-separated text. -/
def fields (s : String) : List String :=
  (s.toList.splitOn ',').map fun field => .ofList (trimChars field)

/-- The fields of `s` that are not empty. -/
def filledFields (s : String) : List String :=
  (fields s).filter (· ≠ "")

/-- `s` with its ASCII capitals made small. -/
def asciiLower (s : String) : String :=
  .ofList (s.toList.map Char.toLower)

end Roster.Text

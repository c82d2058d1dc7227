import Roster.Text.Blank

/-!
Tag names.

Two spellings name the same tag when they have the same normal form: blanks do not
count, and the words that stand for a truth value elsewhere (`true`, `0`, `F`, …)
are shielded by braces, so that a tag of that name stays a tag.
-/

namespace Roster.Tag

open Roster.Text

/-- The words that read as a truth value. -/
def truthWords : List String :=
  ["1", "t", "T", "TRUE", "true", "True", "0", "f", "F", "FALSE", "false", "False"]

/-- `name`, in braces if it reads as a truth value. -/
def shield (name : List Char) : List Char :=
  if truthWords.contains (.ofList name) then '{' :: name ++ ['}'] else name

/-- The normal form of a tag name. -/
def normalName (name : String) : String :=
  .ofList (shield (squeezeChars name.toList))

end Roster.Tag

import Roster.Json.Basic
import Roster.Text.Numeral

/-!
Writing JSON text.

`compact` leaves no blanks; `prettyAt` puts every item and member on a line of its
own, two spaces deeper than its bracket, and keeps `[]` and `{}` whole. In a
string only the quote, the backslash and the control characters below U+0020 are
escaped, in the one-letter form where there is one.
-/

namespace Roster.Json

open Roster.Text

/-- The hexadecimal digit with value `d`, for `d` below sixteen. -/
def hexChar (d : Nat) : Char :=
  if d < 10 then .ofNat (48 + d) else .ofNat (87 + d)

/-- `c` as it stands in a string literal. -/
def escape (c : Char) : List Char :=
  if c = '"' then ['\\', '"']
  else if c = '\\' then ['\\', '\\']
  else if c = '\x08' then ['\\', 'b']
  else if c = '\t' then ['\\', 't']
  else if c = '\n' then ['\\', 'n']
  else if c = '\x0c' then ['\\', 'f']
  else if c = '\r' then ['\\', 'r']
  else if c.toNat < 32 then
    ['\\', 'u', '0', '0', hexChar (c.toNat / 16), hexChar (c.toNat % 16)]
  else [c]

/-- The literal of a text. -/
def quote (s : List Char) : List Char :=
  '"' :: s.flatMap escape ++ ['"']

mutual

/-- The text of a value, without blanks. -/
def compact : Json → List Char
  | .null => ['n', 'u', 'l', 'l']
  | .bool true => ['t', 'r', 'u', 'e']
  | .bool false => ['f', 'a', 'l', 's', 'e']
  | .nat n => digits n
  | .number spelling => spelling.toList
  | .str s => quote s.toList
  | .arr vs => '[' :: compactItems vs ++ [']']
  | .obj ms => '{' :: compactMembers ms ++ ['}']
  | .unreadable => ['n', 'u', 'l', 'l']

/-- The texts of items, with commas between them. -/
def compactItems : List Json → List Char
  | [] => []
  | [v] => compact v
  | v :: w :: vs => compact v ++ ',' :: compactItems (w :: vs)

/-- The texts of members, with commas between them. -/
def compactMembers : List (String × Json) → List Char
  | [] => []
  | [(k, v)] => quote k.toList ++ ':' :: compact v
  | (k, v) :: m :: ms => quote k.toList ++ ':' :: compact v ++ ',' :: compactMembers (m :: ms)

end

/-- A new line, `depth` steps deep. -/
def newLine (depth : Nat) : List Char :=
  '\n' :: List.replicate (2 * depth) ' '

mutual

/-- The text of a value inside brackets `depth` deep, a line to every part. -/
def prettyAt (depth : Nat) : Json → List Char
  | .arr [] => ['[', ']']
  | .arr (v :: vs) => '[' :: prettyItems depth (v :: vs) ++ newLine depth ++ [']']
  | .obj [] => ['{', '}']
  | .obj (m :: ms) => '{' :: prettyMembers depth (m :: ms) ++ newLine depth ++ ['}']
  | .null => ['n', 'u', 'l', 'l']
  | .bool true => ['t', 'r', 'u', 'e']
  | .bool false => ['f', 'a', 'l', 's', 'e']
  | .nat n => digits n
  | .number spelling => spelling.toList
  | .str s => quote s.toList
  | .unreadable => ['n', 'u', 'l', 'l']

/-- Items, each on a new line. -/
def prettyItems (depth : Nat) : List Json → List Char
  | [] => []
  | [v] => newLine (depth + 1) ++ prettyAt (depth + 1) v
  | v :: w :: vs =>
    newLine (depth + 1) ++ prettyAt (depth + 1) v ++ ',' :: prettyItems depth (w :: vs)

/-- Members, each on a new line. -/
def prettyMembers (depth : Nat) : List (String × Json) → List Char
  | [] => []
  | [(k, v)] => newLine (depth + 1) ++ quote k.toList ++ ':' :: ' ' :: prettyAt (depth + 1) v
  | (k, v) :: m :: ms =>
    newLine (depth + 1) ++ quote k.toList ++ ':' :: ' ' :: prettyAt (depth + 1) v ++
      ',' :: prettyMembers depth (m :: ms)

end

/-- The text of a value on one line. -/
def toCompact (v : Json) : String :=
  .ofList (compact v)

/-- The text of a value, a line to every part. -/
def toPretty (v : Json) : String :=
  .ofList (prettyAt 0 v)

end Roster.Json

import Roster.Json.Basic
import Roster.Text.Numeral

/-!
Reading JSON text.

The grammar is that of RFC 8259 and nothing more: no trailing comma, no leading
zero, no raw control character in a string, and nothing but blanks after the
value. `Json.read?` is `none` exactly where the grammar is left.

A string literal is read in two steps. `pieces?` splits its body into characters
and the code units that `\u` escapes name; `joinUnits?` then puts surrogate pairs
together, and fails on a unit that pairs with nothing.
-/

namespace Roster.Json

open Roster.Text

/-! ### Strings -/

/-- A part of a string literal: a character, or the UTF-16 unit of an escape. -/
inductive Piece where
  | char (c : Char)
  | unit (u : Nat)

/-- The character that a one-letter escape stands for. -/
def escaped? : Char → Option Char
  | '"' => some '"'
  | '\\' => some '\\'
  | '/' => some '/'
  | 'b' => some '\x08'
  | 'f' => some '\x0c'
  | 'n' => some '\n'
  | 'r' => some '\r'
  | 't' => some '\t'
  | _ => none

/-- The pieces of a literal up to its closing quote, and the text after it. -/
def pieces? : List Char → Option (List Piece × List Char)
  | [] => none
  | '"' :: rest => some ([], rest)
  | '\\' :: 'u' :: a :: b :: c :: d :: rest => do
    let u ← natOfDigits? 16 [a, b, c, d]
    let (ps, after) ← pieces? rest
    some (.unit u :: ps, after)
  | '\\' :: e :: rest => do
    let c ← escaped? e
    let (ps, after) ← pieces? rest
    some (.char c :: ps, after)
  | c :: rest =>
    if c.toNat < 32 || c == '\\' then none
    else do
      let (ps, after) ← pieces? rest
      some (.char c :: ps, after)

/-- `u` is the first unit of a surrogate pair. -/
def isHighUnit (u : Nat) : Bool := 0xD800 ≤ u && u < 0xDC00

/-- `u` is the second unit of a surrogate pair. -/
def isLowUnit (u : Nat) : Bool := 0xDC00 ≤ u && u < 0xE000

/-- The characters that the pieces stand for. -/
def joinUnits? : List Piece → Option (List Char)
  | [] => some []
  | .char c :: ps => (joinUnits? ps).map (c :: ·)
  | .unit hi :: .unit lo :: ps =>
    if isHighUnit hi && isLowUnit lo then
      (joinUnits? ps).map (.ofNat (0x10000 + (hi - 0xD800) * 0x400 + (lo - 0xDC00)) :: ·)
    else if isHighUnit hi || isLowUnit hi then none
    else (joinUnits? (.unit lo :: ps)).map (.ofNat hi :: ·)
  | .unit u :: ps =>
    if isHighUnit u || isLowUnit u then none
    else (joinUnits? ps).map (.ofNat u :: ·)

/-- The text of a literal, where it has one, and what follows the closing quote. -/
def literal? (cs : List Char) : Option (Option String × List Char) := do
  let (ps, rest) ← pieces? cs
  some ((joinUnits? ps).map .ofList, rest)

/-! ### Numbers -/

/-- `cs` without one leading sign out of `signs`, and the sign. -/
def splitSign (signs : List Char) : List Char → List Char × List Char
  | c :: cs => if c ∈ signs then ([c], cs) else ([], c :: cs)
  | [] => ([], [])

/-- A run of digits that is not empty, and the rest. -/
def digitRun? (cs : List Char) : Option (List Char × List Char) :=
  let run := cs.takeWhile Char.isDigit
  if run.isEmpty then none else some (run, cs.dropWhile Char.isDigit)

/-- The fraction of a number, empty where no point stands. -/
def fraction? : List Char → Option (List Char × List Char)
  | '.' :: cs => do
    let (ds, rest) ← digitRun? cs
    some ('.' :: ds, rest)
  | cs => some ([], cs)

/-- The exponent of a number, empty where no `e` stands. -/
def exponent? : List Char → Option (List Char × List Char)
  | c :: cs =>
    if c == 'e' || c == 'E' then do
      let (sign, digits) := splitSign ['+', '-'] cs
      let (ds, rest) ← digitRun? digits
      some (c :: sign ++ ds, rest)
    else some ([], c :: cs)
  | [] => some ([], [])

/-- A number and the text after it. -/
def number? (cs : List Char) : Option (Json × List Char) := do
  let (sign, rest) := splitSign ['-'] cs
  let (whole, rest) ← digitRun? rest
  if whole.head? == some '0' && whole.length != 1 then none
  let (frac, rest) ← fraction? rest
  let (exp, rest) ← exponent? rest
  if sign.isEmpty && frac.isEmpty && exp.isEmpty then
    some (.nat (← natOfDigits? 10 whole), rest)
  else
    some (.number (.ofList (sign ++ whole ++ frac ++ exp)), rest)

/-! ### Values -/

/-- The text from its first character that is no JSON blank. -/
def skipBlanks (cs : List Char) : List Char :=
  cs.dropWhile fun c => c == ' ' || c == '\n' || c == '\r' || c == '\t'

/-- The object with these members; unreadable where a key is. -/
def ofMembers (ms : List (Option String × Json)) : Json :=
  match ms.mapM fun m => m.1.map (·, m.2) with
  | some ms => .obj ms
  | none => .unreadable

mutual

/-- A value, after blanks, and the text after it. -/
def readValue? : Nat → List Char → Option (Json × List Char)
  | 0, _ => none
  | fuel + 1, cs =>
    match skipBlanks cs with
    | '{' :: rest =>
      match skipBlanks rest with
      | '}' :: rest => some (.obj [], rest)
      | _ => do
        let (ms, rest) ← readMembers? fuel rest
        some (ofMembers ms, rest)
    | '[' :: rest =>
      match skipBlanks rest with
      | ']' :: rest => some (.arr [], rest)
      | _ => do
        let (vs, rest) ← readItems? fuel rest
        some (.arr vs, rest)
    | '"' :: rest => do
      let (s, rest) ← literal? rest
      some (match s with | some s => .str s | none => .unreadable, rest)
    | 'n' :: 'u' :: 'l' :: 'l' :: rest => some (.null, rest)
    | 't' :: 'r' :: 'u' :: 'e' :: rest => some (.bool true, rest)
    | 'f' :: 'a' :: 'l' :: 's' :: 'e' :: rest => some (.bool false, rest)
    | cs => number? cs

/-- The items of an array from its first one on, and the text after the bracket. -/
def readItems? : Nat → List Char → Option (List Json × List Char)
  | 0, _ => none
  | fuel + 1, cs => do
    let (v, rest) ← readValue? fuel cs
    match skipBlanks rest with
    | ',' :: rest =>
      let (vs, rest) ← readItems? fuel rest
      some (v :: vs, rest)
    | ']' :: rest => some ([v], rest)
    | _ => none

/-- The members of an object from its first one on, and the text after the brace. -/
def readMembers? : Nat → List Char → Option (List (Option String × Json) × List Char)
  | 0, _ => none
  | fuel + 1, cs =>
    match skipBlanks cs with
    | '"' :: rest => do
      let (key, rest) ← literal? rest
      match skipBlanks rest with
      | ':' :: rest =>
        let (v, rest) ← readValue? fuel rest
        match skipBlanks rest with
        | ',' :: rest =>
          let (ms, rest) ← readMembers? fuel rest
          some ((key, v) :: ms, rest)
        | '}' :: rest => some ([(key, v)], rest)
        | _ => none
      | _ => none
    | _ => none

end

/-- The value that `cs` spells, with blanks alone around it. Every two steps of
the reader use up a character, so the fuel is enough. -/
def ofChars? (cs : List Char) : Option Json := do
  let (v, rest) ← readValue? (2 * cs.length + 2) cs
  if (skipBlanks rest).isEmpty then some v else none

/-- The value that a JSON text spells. -/
def read? (text : String) : Option Json :=
  ofChars? text.toList

end Roster.Json

import Roster.Text.Case.Table

/-!
Lower case of texts, by the full mapping of Unicode.

Two characters do not map to one character alone. The lower case of a capital I with
a dot is an `i` and a combining dot. That of a capital sigma depends on where it
stands: at the end of a word it is the final form.
-/

namespace Roster.Text

open Case

/-- `c` is in one of some ranges. -/
def inRanges (ranges : List (Nat × Nat)) (c : Char) : Bool :=
  ranges.any fun range => range.1 ≤ c.toNat && c.toNat ≤ range.2

/-- The character is in a run. -/
def Case.LowerRun.covers (run : LowerRun) (c : Char) : Bool :=
  run.first ≤ c.toNat && c.toNat ≤ run.last && (c.toNat - run.first) % run.step == 0

/-- The lower case of a character by itself. -/
def lowerChar (c : Char) : List Char :=
  if c = 'İ' then ['i', '\u0307']
  else
    match lowerRuns.find? fun run => run.covers c with
    | some run => [Char.ofNat (c.toNat + run.shift).toNat]
    | none => [c]

/-- The first character of `cs` that is not ignorable for case is cased. -/
def meetsCased (cs : List Char) : Bool :=
  ((cs.dropWhile (inRanges ignorableRanges)).head?.map (inRanges casedRanges)).getD false

/-- The lower case of `cs`, where the characters in `before` come first, the nearest
one at the head. -/
def lowerAfter (before : List Char) : List Char → List Char
  | [] => []
  | c :: cs =>
    let low :=
      if c = 'Σ' then (if meetsCased before && !meetsCased cs then ['ς'] else ['σ'])
      else lowerChar c
    low ++ lowerAfter (c :: before) cs

/-- The lower case of a text. -/
def lowerChars (cs : List Char) : List Char :=
  lowerAfter [] cs

/-- The lower case of a text. -/
def lowercase (s : String) : String :=
  .ofList (lowerChars s.toList)

end Roster.Text

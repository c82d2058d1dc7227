import Roster.Tag.Name

/-!
The tokens of a tag expression.

An expression is first brought to its canonical text: blanks are dropped, a comma
is an `&`, and a run of `&` or of `|` is one of them. What is left between two
operators is one tag name, so names need no quotes. `Token.scan` splits a
canonical text; `Token.text` is how a token is written.
-/

namespace Roster.Tag

open Roster.Text

/-- A part of a tag expression. -/
inductive Token where
  | tag (name : String)
  | and
  | or
  | not
  | opening
  | closing
  deriving DecidableEq, Repr

namespace Token

/-- The operator or parenthesis that `c` is. -/
def ofChar? : Char → Option Token
  | '&' => some .and
  | '|' => some .or
  | '!' => some .not
  | '(' => some .opening
  | ')' => some .closing
  | _ => none

/-- A token as it is written. -/
def text : Token → String
  | .tag name => name
  | .and => "&"
  | .or => "|"
  | .not => "!"
  | .opening => "("
  | .closing => ")"

/-- The name of a tag token. -/
def name? : Token → Option String
  | .tag name => some name
  | _ => none

/-! ### Canonical text -/

/-- `c` is an operator of which a run counts once. -/
def isRepeatable (c : Char) : Bool :=
  c == '&' || c == '|'

/-- Each run of `&` and each run of `|` cut down to one. -/
def collapseRuns : List Char → List Char
  | c :: d :: cs =>
    if c == d && isRepeatable c then collapseRuns (d :: cs)
    else c :: collapseRuns (d :: cs)
  | cs => cs

/-- The canonical text of an expression. -/
def canonical (raw : List Char) : List Char :=
  collapseRuns ((squeezeChars raw).map fun c => if c == ',' then '&' else c)

/-! ### Splitting -/

/-- The tag token of a word, none for the empty word. -/
def ofWord (word : List Char) : List Token :=
  if word.isEmpty then [] else [.tag (.ofList (shield word))]

/-- The tokens of a text that follows the characters `word` of an unfinished name. -/
def scanFrom (word : List Char) : List Char → List Token
  | [] => ofWord word
  | c :: cs =>
    match ofChar? c with
    | some t => ofWord word ++ t :: scanFrom [] cs
    | none => scanFrom (word ++ [c]) cs

/-- The tokens of a canonical text. -/
def scan (cs : List Char) : List Token :=
  scanFrom [] cs

/-- The names in a token list, each once, in the order of their first occurrence. -/
def names (ts : List Token) : List String :=
  (ts.filterMap name?).eraseDups

end Token

end Roster.Tag

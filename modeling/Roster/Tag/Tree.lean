import Roster.Tag.Token

/-!
Syntax trees of tag expressions.

    or      := and ('|' and)*
    and     := unary ('&' unary)*
    unary   := '!' unary | primary
    primary := TAG | '(' or ')'

Both binary operators group to the left. `Tree.ofTokens` reads a whole token list
or says what is wrong with it (`Malformed`); `Tree.holds` is the value of a tree
where some tags are present.
-/

namespace Roster.Tag

/-- A parsed tag expression. -/
inductive Tree where
  | tag (name : String)
  | not (inner : Tree)
  | and (left right : Tree)
  | or (left right : Tree)
  deriving DecidableEq, Repr

/-- Why a text is no tag expression. -/
inductive Malformed where
  /-- The text has a caret, which is no operator. -/
  | caret
  /-- A parenthesis has no partner, or a group goes on where it should close. -/
  | parentheses
  /-- Two operands stand side by side. -/
  | missingOperator (before : Token)
  /-- A token stands where an operand should. -/
  | expectedTag (found : Token)
  /-- The text ends where an operand should stand. -/
  | expectedTagAtEnd
  deriving DecidableEq, Repr

/-- The reason in words. -/
def Malformed.message : Malformed → String
  | .caret => "unsupported operator '^'"
  | .parentheses => "missing parentheses"
  | .missingOperator before =>
    let token := before.text
    s!"missing logical operator before '{token}'"
  | .expectedTag found =>
    let token := found.text
    s!"expected a tag name, found '{token}'"
  | .expectedTagAtEnd => "expected a tag name at end of expression"

namespace Tree

/-- The value of a tree where the tags in `present` are. -/
def holds (present : String → Bool) : Tree → Bool
  | .tag name => present name
  | .not inner => !inner.holds present
  | .and left right => left.holds present && right.holds present
  | .or left right => left.holds present || right.holds present

/-! ### Reading

Every reader takes a token list and gives the tree of its longest beginning that
the rule derives, with the tokens after it. A call without fuel fails; `ofTokens`
gives enough for its list. -/

mutual

/-- Reads the rule `or`. -/
def readOr : Nat → List Token → Except Malformed (Tree × List Token)
  | 0, _ => .error .expectedTagAtEnd
  | fuel + 1, ts => do
    let (left, rest) ← readAnd fuel ts
    extendOr fuel left rest

/-- Reads the alternatives that follow `left`. -/
def extendOr : Nat → Tree → List Token → Except Malformed (Tree × List Token)
  | fuel + 1, left, .or :: ts => do
    let (right, rest) ← readAnd fuel ts
    extendOr fuel (.or left right) rest
  | _, left, ts => .ok (left, ts)

/-- Reads the rule `and`. -/
def readAnd : Nat → List Token → Except Malformed (Tree × List Token)
  | 0, _ => .error .expectedTagAtEnd
  | fuel + 1, ts => do
    let (left, rest) ← readUnary fuel ts
    extendAnd fuel left rest

/-- Reads the operands that follow `left`. -/
def extendAnd : Nat → Tree → List Token → Except Malformed (Tree × List Token)
  | fuel + 1, left, .and :: ts => do
    let (right, rest) ← readUnary fuel ts
    extendAnd fuel (.and left right) rest
  | _, left, ts => .ok (left, ts)

/-- Reads the rule `unary`. -/
def readUnary : Nat → List Token → Except Malformed (Tree × List Token)
  | 0, _ => .error .expectedTagAtEnd
  | fuel + 1, ts =>
    match ts with
    | .not :: ts => do
      let (inner, rest) ← readUnary fuel ts
      .ok (.not inner, rest)
    | .tag name :: ts => .ok (.tag name, ts)
    | .opening :: ts => do
      let (inner, rest) ← readOr fuel ts
      match rest with
      | .closing :: rest => .ok (inner, rest)
      | _ => .error .parentheses
    | found :: _ => .error (.expectedTag found)
    | [] => .error .expectedTagAtEnd

end

/-- The fuel with which a list of `n` tokens is read to its end: no more than three
rules nest before a token is used up. -/
def fuelFor (n : Nat) : Nat :=
  4 * n + 4

/-- The tree of a whole token list. -/
def ofTokens (ts : List Token) : Except Malformed Tree := do
  let (tree, rest) ← readOr (fuelFor ts.length) ts
  match rest with
  | [] => .ok tree
  | .closing :: _ => .error .parentheses
  | before :: _ => .error (.missingOperator before)

end Tree

end Roster.Tag

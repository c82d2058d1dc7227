import Roster.Tag.Set
import Roster.Tag.Tree

/-!
Tag expressions.

An expression without tokens has no tree and matches every set of tags. Any other
matches the sets in which its tree holds.
-/

namespace Roster.Tag

/-- A well-formed tag expression. -/
structure Expression where
  /-- The text as it was given. -/
  raw : String
  /-- The tree, none for a blank text. -/
  tree : Option Tree
  /-- The names that occur, each once, in the order of their first occurrence. -/
  operands : List String
  deriving DecidableEq, Repr

namespace Expression

/-- The expression that a text spells. -/
def parse (raw : String) : Except Malformed Expression :=
  let text := Token.canonical raw.toList
  if text.contains '^' then .error .caret
  else
    match Token.scan text with
    | [] => .ok ⟨raw, none, []⟩
    | t :: ts => do
      let tree ← Tree.ofTokens (t :: ts)
      .ok ⟨raw, some tree, Token.names (t :: ts)⟩

/-- The expression asks for nothing. -/
def isEmpty (e : Expression) : Bool :=
  e.tree.isNone

/-- The tags satisfy the expression. -/
def matchesTags (e : Expression) (tags : TagSet) : Bool :=
  match e.tree with
  | none => true
  | some tree => tree.holds tags.has

end Expression

end Roster.Tag

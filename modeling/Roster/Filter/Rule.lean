import Roster.Fault.Basic
import Roster.Suite.Specification

/-!
Rules that keep or exclude a scenario.

A rule by tags is composed. The universe of a scenario is every tag on it: the
suite's, its specification's, its own, and those of its table rows. The expression
of the run must hold on the universe, and so must the expressions that the
specification and the scenario carry. Carried expressions are read only when all
before them hold, so a malformed one is a fault only then.
-/

namespace Roster

open Roster.Tag

/-- A rule by tags: the expression of the run and the tags of the whole suite. -/
structure TagRule where
  expression : Expression
  suiteTags : List String
  deriving DecidableEq, Repr

namespace TagRule

/-- The rule for the expression that `raw` spells. -/
def make (raw : String) (suiteTags : List String) : Except Fault TagRule := do
  return ⟨← Expression.read raw, suiteTags⟩

/-- The names of every tag on a scenario, from the widest scope to the narrowest. -/
def tagNames (rule : TagRule) (spec : Specification) (s : Scenario) : List String :=
  rule.suiteTags ++ spec.tags.values ++ s.tags.values ++ s.rowTags

/-- Every tag on a scenario. -/
def tagUniverse (rule : TagRule) (spec : Specification) (s : Scenario) : TagSet :=
  .ofList (rule.tagNames spec s)

/-- Every carried expression is well formed and holds; the first that is malformed
or does not hold decides. -/
def carriedHold (tags : TagSet) : List String → Except Fault Bool
  | [] => .ok true
  | raw :: rest => do
    let expression ← Expression.read raw
    if expression.matchesTags tags then carriedHold tags rest else .ok false

/-- The scenario satisfies the rule. -/
def admits (rule : TagRule) (spec : Specification) (s : Scenario) : Except Fault Bool :=
  let tags := rule.tagUniverse spec s
  if rule.expression.matchesTags tags then
    carriedHold tags (spec.inherited.toList ++ s.inherited.toList)
  else .ok false

end TagRule

/-- A rule of selection. -/
inductive Rule where
  /-- Keep the scenarios on one of these lines. -/
  | lines (wanted : List Nat)
  /-- Keep the scenarios with one of these headings. -/
  | names (wanted : List String)
  /-- Keep the scenarios that a rule by tags admits. -/
  | tags (wanted : TagRule)
  deriving DecidableEq, Repr

/-- The rule excludes a scenario of a specification. -/
def Rule.excludes (rule : Rule) (spec : Specification) (s : Scenario) : Except Fault Bool :=
  match rule with
  | .lines wanted => .ok (!s.isOnLine wanted)
  | .names wanted => .ok (!s.isNamed wanted)
  | .tags wanted => (wanted.admits spec s).map fun admitted => !admitted

end Roster

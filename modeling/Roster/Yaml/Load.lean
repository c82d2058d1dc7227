import Roster.Yaml.Core
import Roster.Yaml.Node

/-!
The value of a YAML text.

Aliases are replaced by what they stand for. Collections may nest so deep only, also
through aliases, and aliases may be followed so often only; so an alias inside the
node that it stands for has no value. Nor has a mapping with two equal keys.
-/

namespace Roster.Yaml

/-- How deep collections may nest. -/
def deepest : Nat := 128

/-- How often aliases may be followed for every part of a document. -/
def followsPerPart : Nat := 100

mutual

/-- The parts of a node: an alias or a scalar is one, a collection has a start and an
end. -/
def Node.parts : Node → Nat
  | .alias _ => 1
  | .scalar .. => 1
  | .seq _ _ items => partsOfItems items + 2
  | .map _ _ entries => partsOfEntries entries + 2

/-- The parts of items. -/
def partsOfItems : List Node → Nat
  | [] => 0
  | n :: ns => n.parts + partsOfItems ns

/-- The parts of entries. -/
def partsOfEntries : List (Node × Node) → Nat
  | [] => 0
  | (k, v) :: es => k.parts + v.parts + partsOfEntries es

end

/-- A computation that may follow a limited number of aliases, and may fail. -/
abbrev Following := StateT Nat Option

/-- The node that `n` stands for under the root node `root`. -/
def follow (root : Node) : Node → Following Node
  | .alias number => do
    let left ← get
    if left = 0 then failure
    set (left - 1)
    root.anchored? number
  | n => pure n

/-- A collection with the tag of its node. Only a tag with an exclamation mark is kept. -/
def tagCollection (tag : Option (List Char)) (v : Value) : Value :=
  match tag with
  | some ('!' :: name) => .tagged (.ofList (if name.isEmpty then ['!'] else name)) v
  | _ => v

/-- The value of a node under the root node `root`, where collections may nest no deeper
than the number given. -/
def valueAt (root : Node) : Nat → Node → Following Value
  | 0, n => do
    match ← follow root n with
    | .scalar _ tag text plain => scalarValue? tag text plain
    | _ => failure
  | depth + 1, n => do
    match ← follow root n with
    | .scalar _ tag text plain => scalarValue? tag text plain
    | .seq _ tag items => do
      return tagCollection tag (.seq (← items.mapM (valueAt root depth)))
    | .map _ tag entries => do
      let entries ← entries.mapM fun e => do
        return (← valueAt root depth e.1, ← valueAt root depth e.2)
      if Value.keysDiffer (entries.map Prod.fst) then
        return tagCollection tag (.map entries)
      else failure
    | .alias _ => failure

/-- The value of a text. -/
def read? (text : String) : Option Value := do
  let root ← Node.ofTokens? (← Token.ofText? text.toList)
  let (v, _) ← (valueAt root deepest root).run (followsPerPart * root.parts)
  return v

end Roster.Yaml

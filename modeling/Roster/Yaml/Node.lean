import Roster.Yaml.Token

/-!
The nodes of a YAML document.

A node is a scalar, a collection, or an alias that stands for the node with an anchor.
Anchors have numbers: one takes the number of different names in use before it, and
an alias has the number that its name has last been given. Of two anchors with one
number the later stands for it.

`Node.ofTokens?` reads the one document of a token list. The readers below follow the
grammar: a block entry, a key or a value with nothing after it is an empty scalar.
-/

namespace Roster.Yaml

/-- A node of a document. Tags are written out in full. -/
inductive Node where
  | alias (number : Nat)
  | scalar (anchor : Option Nat) (tag : Option (List Char)) (text : List Char) (plain : Bool)
  | seq (anchor : Option Nat) (tag : Option (List Char)) (items : List Node)
  | map (anchor : Option Nat) (tag : Option (List Char)) (entries : List (Node × Node))
  deriving Inhabited

namespace Node

/-- The empty scalar. -/
def empty : Node :=
  .scalar none none [] true

/-- The number of the anchor of a node. -/
def anchor? : Node → Option Nat
  | .alias _ => none
  | .scalar anchor .. => anchor
  | .seq anchor .. => anchor
  | .map anchor .. => anchor

mutual

/-- The node and all nodes in it, an outer one before the nodes in it. -/
def nodes : Node → List Node
  | .alias n => [.alias n]
  | .scalar anchor tag text plain => [.scalar anchor tag text plain]
  | .seq anchor tag items => .seq anchor tag items :: nodesOfItems items
  | .map anchor tag entries => .map anchor tag entries :: nodesOfEntries entries

/-- All nodes in items. -/
def nodesOfItems : List Node → List Node
  | [] => []
  | n :: ns => n.nodes ++ nodesOfItems ns

/-- All nodes in entries. -/
def nodesOfEntries : List (Node × Node) → List Node
  | [] => []
  | (k, v) :: es => k.nodes ++ v.nodes ++ nodesOfEntries es

end

/-- The node that aliases with this number stand for. -/
def anchored? (root : Node) (number : Nat) : Option Node :=
  root.nodes.reverse.find? fun n => n.anchor? == some number

end Node

/-! ### Reading -/

/-- How far a token list is read. -/
structure Cursor where
  tokens : List Token
  /-- The numbers of anchors by their names, the last given first. -/
  anchors : List (List Char × Nat) := []
  /-- What the handles of tags stand for. -/
  handles : List (List Char × List Char) := []

namespace Cursor

/-- The cursor at another place. -/
def moveTo (c : Cursor) (ts : List Token) : Cursor :=
  { c with tokens := ts }

/-- Gives the next number to an anchor. -/
def addAnchor (c : Cursor) (name : List Char) : Nat × Cursor :=
  let number := (c.anchors.map Prod.fst).eraseDups.length
  (number, { c with anchors := (name, number) :: c.anchors })

/-- The tag with a handle written out. -/
def fullTag? (c : Cursor) (handle suffix : List Char) : Option (List Char) :=
  if handle.isEmpty then some suffix else (c.handles.lookup handle).map (· ++ suffix)

end Cursor

/-- What stands before the content of a node. -/
structure Properties where
  anchor : Option Nat := none
  tag : Option (List Char) := none

/-- Nothing stands before the content. -/
def Properties.isEmpty (p : Properties) : Bool :=
  p.anchor.isNone && p.tag.isNone

/-- Reads an anchor and a tag, in either order. -/
def readProperties (c : Cursor) : Option (Properties × Cursor) :=
  match c.tokens with
  | .anchor name :: .tag handle suffix :: ts
  | .tag handle suffix :: .anchor name :: ts => do
    let tag ← c.fullTag? handle suffix
    let (number, c) := c.addAnchor name
    return (⟨some number, some tag⟩, c.moveTo ts)
  | .anchor name :: ts =>
    let (number, c) := c.addAnchor name
    some (⟨some number, none⟩, c.moveTo ts)
  | .tag handle suffix :: ts => do
    return (⟨none, ← c.fullTag? handle suffix⟩, c.moveTo ts)
  | _ => some ({}, c)

/-- Where a node stands. -/
inductive Position where
  /-- Inside brackets. -/
  | flow
  | block
  /-- Inside a block mapping, where a sequence need not be indented. -/
  | blockEntry
  deriving DecidableEq

/-- `t` is one of the marks that end an empty node. -/
def isOneOf (marks : List Token) : List Token → Bool
  | t :: _ => marks.contains t
  | [] => false

mutual

/-- Reads a node. -/
def readNode (position : Position) : Nat → Cursor → Option (Node × Cursor)
  | 0, _ => none
  | fuel + 1, c =>
    match c.tokens with
    | .alias name :: ts => do return (.alias (← c.anchors.lookup name), c.moveTo ts)
    | _ => do
      let (p, c) ← readProperties c
      match c.tokens with
      | .scalar text plain :: ts =>
        let isBare := p.tag == some ['!']
        let tag := if isBare then none else p.tag
        return (.scalar p.anchor tag text plain, c.moveTo ts)
      | .flowSequenceStart :: ts => do
        let (items, c) ← readFlowItems true fuel (c.moveTo ts)
        return (.seq p.anchor p.tag items, c)
      | .flowMappingStart :: ts => do
        let (entries, c) ← readFlowEntries true fuel (c.moveTo ts)
        return (.map p.anchor p.tag entries, c)
      | t :: ts =>
        if position == .blockEntry && t == .blockEntry then do
          let (items, c) ← readLooseItems fuel c
          return (.seq p.anchor p.tag items, c)
        else if position != .flow && t == .blockSequenceStart then do
          let (items, c) ← readBlockItems fuel (c.moveTo ts)
          return (.seq p.anchor p.tag items, c)
        else if position != .flow && t == .blockMappingStart then do
          let (entries, c) ← readBlockEntries fuel (c.moveTo ts)
          return (.map p.anchor p.tag entries, c)
        else if p.isEmpty then none
        else return (.scalar p.anchor p.tag [] true, c)
      | [] => if p.isEmpty then none else return (.scalar p.anchor p.tag [] true, c)

/-- Reads a node, or the empty one where one of `marks` stands. -/
def readUnless (marks : List Token) (position : Position) :
    Nat → Cursor → Option (Node × Cursor)
  | 0, _ => none
  | fuel + 1, c =>
    if isOneOf marks c.tokens then some (.empty, c) else readNode position fuel c

/-- Reads the items of an indented sequence, and its end. -/
def readBlockItems : Nat → Cursor → Option (List Node × Cursor)
  | 0, _ => none
  | fuel + 1, c =>
    match c.tokens with
    | .blockEntry :: ts => do
      let (item, c) ← readUnless [.blockEntry, .blockEnd] .block fuel (c.moveTo ts)
      let (items, c) ← readBlockItems fuel c
      return (item :: items, c)
    | .blockEnd :: ts => some ([], c.moveTo ts)
    | _ => none

/-- Reads the items of a sequence that is not indented; it ends before what is no item. -/
def readLooseItems : Nat → Cursor → Option (List Node × Cursor)
  | 0, _ => none
  | fuel + 1, c =>
    match c.tokens with
    | .blockEntry :: ts => do
      let (item, c) ← readUnless [.blockEntry, .key, .value, .blockEnd] .block fuel (c.moveTo ts)
      let (items, c) ← readLooseItems fuel c
      return (item :: items, c)
    | _ => some ([], c)

/-- Reads the entries of a block mapping, and its end. -/
def readBlockEntries : Nat → Cursor → Option (List (Node × Node) × Cursor)
  | 0, _ => none
  | fuel + 1, c =>
    match c.tokens with
    | .key :: ts => do
      let (key, c) ← readUnless [.key, .value, .blockEnd] .blockEntry fuel (c.moveTo ts)
      let (value, c) ← readBlockValue fuel c
      let (entries, c) ← readBlockEntries fuel c
      return ((key, value) :: entries, c)
    | .blockEnd :: ts => some ([], c.moveTo ts)
    | _ => none

/-- Reads the value of an entry of a block mapping. -/
def readBlockValue : Nat → Cursor → Option (Node × Cursor)
  | 0, _ => none
  | fuel + 1, c =>
    match c.tokens with
    | .value :: ts => readUnless [.key, .value, .blockEnd] .blockEntry fuel (c.moveTo ts)
    | _ => some (.empty, c)

/-- Reads the items of a sequence in brackets, and its end. -/
def readFlowItems (isFirst : Bool) : Nat → Cursor → Option (List Node × Cursor)
  | 0, _ => none
  | fuel + 1, c =>
    match isFirst, c.tokens with
    | _, .flowSequenceEnd :: ts => some ([], c.moveTo ts)
    | false, .flowEntry :: .flowSequenceEnd :: ts => some ([], c.moveTo ts)
    | false, .flowEntry :: ts => readFlowItem fuel (c.moveTo ts)
    | false, _ => none
    | true, _ => readFlowItem fuel c

/-- Reads one item of a sequence in brackets and the items after it. An item with a key
is a mapping of one entry. -/
def readFlowItem : Nat → Cursor → Option (List Node × Cursor)
  | 0, _ => none
  | fuel + 1, c => do
    let (item, c) ← match c.tokens with
      | .key :: ts => readSingleEntry fuel (c.moveTo ts)
      | _ => readNode .flow fuel c
    let (items, c) ← readFlowItems false fuel c
    return (item :: items, c)

/-- Reads the one entry of a mapping without braces. A mark right after the key mark is
used up with it. -/
def readSingleEntry : Nat → Cursor → Option (Node × Cursor)
  | 0, _ => none
  | fuel + 1, c => do
    let (key, c) ←
      if isOneOf [.value, .flowEntry, .flowSequenceEnd] c.tokens then
        pure (.empty, c.moveTo (c.tokens.drop 1))
      else readNode .flow fuel c
    let (value, c) ← readFlowValue [.flowEntry, .flowSequenceEnd] fuel c
    return (.map none none [(key, value)], c)

/-- Reads the value of an entry inside brackets, empty where one of `marks` stands. -/
def readFlowValue (marks : List Token) : Nat → Cursor → Option (Node × Cursor)
  | 0, _ => none
  | fuel + 1, c =>
    match c.tokens with
    | .value :: ts => readUnless marks .flow fuel (c.moveTo ts)
    | _ => some (.empty, c)

/-- Reads the entries of a mapping in braces, and its end. -/
def readFlowEntries (isFirst : Bool) : Nat → Cursor → Option (List (Node × Node) × Cursor)
  | 0, _ => none
  | fuel + 1, c =>
    match isFirst, c.tokens with
    | _, .flowMappingEnd :: ts => some ([], c.moveTo ts)
    | false, .flowEntry :: .flowMappingEnd :: ts => some ([], c.moveTo ts)
    | false, .flowEntry :: ts => readFlowEntry fuel (c.moveTo ts)
    | false, _ => none
    | true, _ => readFlowEntry fuel c

/-- Reads one entry of a mapping in braces and the entries after it. A node without a
key mark is a key with an empty value. -/
def readFlowEntry : Nat → Cursor → Option (List (Node × Node) × Cursor)
  | 0, _ => none
  | fuel + 1, c => do
    let marks := [.flowEntry, .flowMappingEnd]
    let (entry, c) ← match c.tokens with
      | .key :: ts => do
        let (key, c) ← readUnless (.value :: marks) .flow fuel (c.moveTo ts)
        let (value, c) ← readFlowValue marks fuel c
        pure ((key, value), c)
      | _ => do
        let (key, c) ← readNode .flow fuel c
        pure ((key, .empty), c)
    let (entries, c) ← readFlowEntries false fuel c
    return (entry :: entries, c)

end

/-! ### Documents -/

/-- The handles of tags that need no directive. -/
def standardHandles : List (List Char × List Char) :=
  [(['!'], ['!']), (['!', '!'], "tag:yaml.org,2002:".toList)]

/-- The handles that directives give a meaning, and the tokens after the directives.
`versioned` says that a version was given before. -/
def readDirectives (versioned : Bool) (handles : List (List Char × List Char)) :
    List Token → Option (List (List Char × List Char) × List Token)
  | .versionDirective major minor :: ts =>
    if versioned || major != 1 || (minor != 1 && minor != 2) then none
    else readDirectives true handles ts
  | .tagDirective handle start :: ts =>
    if (handles.lookup handle).isSome then none
    else readDirectives versioned (handles ++ [(handle, start)]) ts
  | ts => some (handles, ts)

/-- The token ends a document or starts one. -/
def isDocumentMark : Token → Bool
  | .versionDirective .. | .tagDirective .. | .documentStart | .documentEnd => true
  | _ => false

/-- Reads the node of a document. -/
def readRoot (c : Cursor) : Option (Node × Cursor) :=
  readNode .block (8 * c.tokens.length + 8) c

/-- The root node of the one document in a token list. A list without a document is the
empty scalar. -/
def Node.ofTokens? (ts : List Token) : Option Node := do
  let (handles, rest) ← readDirectives false [] ts
  let c : Cursor := { tokens := rest, handles := handles ++ standardHandles }
  let (root, c) ←
    if ts.isEmpty then pure (.empty, c)
    else match rest with
      | .documentStart :: rest =>
        if (rest.head?.map isDocumentMark).getD true then pure (.empty, c.moveTo rest)
        else readRoot (c.moveTo rest)
      | _ => if rest.length == ts.length then readRoot c else none
  if (c.tokens.dropWhile (· == .documentEnd)).isEmpty then some root else none

end Roster.Yaml

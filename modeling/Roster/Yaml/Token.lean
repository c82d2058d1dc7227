import Roster.Yaml.Scalar

/-!
The tokens of a YAML text.

Most tokens stand for a mark in the text. The tokens that open and close block
collections stand for indentation, and the token before the key of a mapping for the
colon after it: the colon is met last, so the token is put in later, at the place
where the key began (`Scanner.openKey`). A place where a key may begin is remembered
until the line ends.
-/

namespace Roster.Yaml

open Roster.Text

/-- A part of a YAML text. -/
inductive Token where
  | versionDirective (major minor : Nat)
  | tagDirective (handle start : List Char)
  | documentStart
  | documentEnd
  | blockSequenceStart
  | blockMappingStart
  | blockEnd
  | flowSequenceStart
  | flowSequenceEnd
  | flowMappingStart
  | flowMappingEnd
  | blockEntry
  | flowEntry
  | key
  | value
  | alias (name : List Char)
  | anchor (name : List Char)
  | tag (handle suffix : List Char)
  | scalar (text : List Char) (plain : Bool)
  deriving DecidableEq, Repr

/-- A place where a key may have begun. -/
structure PossibleKey where
  /-- How many tokens stand before the key. -/
  number : Nat
  /-- The key must turn out to be one: it stands at the indentation of its block. -/
  required : Bool
  place : Place

/-- How far a text is scanned. -/
structure Scanner where
  place : Place
  /-- The tokens so far, the last one first. -/
  tokens : List Token := []
  /-- The indentation of the innermost block, negative outside every block. -/
  indent : Int := -1
  /-- The indentations of the blocks around it, the inner first. -/
  outer : List Int := []
  /-- The possible key of every open bracket, the innermost first. -/
  flowKeys : List (Option PossibleKey) := []
  /-- The possible key outside every bracket. -/
  blockKey : Option PossibleKey := none
  /-- A key may begin here. -/
  keyAllowed : Bool := true

namespace Scanner

/-- The scanner is inside a bracket. -/
def inFlow (s : Scanner) : Bool :=
  !s.flowKeys.isEmpty

/-- The scanner with one more token. -/
def push (s : Scanner) (t : Token) : Scanner :=
  { s with tokens := t :: s.tokens }

/-- The scanner with a token put in after the first `number` ones. -/
def insertAt (s : Scanner) (number : Nat) (t : Token) : Scanner :=
  { s with tokens := s.tokens.insertIdx (s.tokens.length - number) t }

/-- The scanner `n` characters further. -/
def skip (s : Scanner) (n : Nat) : Scanner :=
  { s with place := s.place.skip n }

/-! ### Indentation -/

/-- Opens a block at `column`, if that is deeper than the block here. Its token is put in
after the first `number` ones. -/
def openBlock (s : Scanner) (column : Nat) (number : Nat) (t : Token) : Scanner :=
  if !s.inFlow && s.indent < column then
    { s.insertAt number t with indent := column, outer := s.indent :: s.outer }
  else s

/-- Closes the blocks deeper than `column`; `indents` are those around the innermost. -/
def closeBlocks (column : Int) : List Int → Scanner → Scanner
  | [], s => s
  | outer :: indents, s =>
    if s.indent > column then
      closeBlocks column indents { s.push .blockEnd with indent := outer, outer := indents }
    else s

/-- Closes the blocks deeper than `column`, outside brackets. -/
def unroll (s : Scanner) (column : Int) : Scanner :=
  if s.inFlow then s else closeBlocks column s.outer s

/-! ### Possible keys -/

/-- The possible key of the innermost bracket, or outside all. -/
def possibleKey (s : Scanner) : Option PossibleKey :=
  match s.flowKeys with
  | key :: _ => key
  | [] => s.blockKey

/-- The scanner with another possible key. -/
def setPossibleKey (s : Scanner) (key : Option PossibleKey) : Scanner :=
  match s.flowKeys with
  | _ :: keys => { s with flowKeys := key :: keys }
  | [] => { s with blockKey := key }

/-- The scanner without the possible key here, which must not have been required. -/
def dropKey? (s : Scanner) : Option Scanner :=
  match s.possibleKey with
  | some key => if key.required then none else some (s.setPossibleKey none)
  | none => some s

/-- Remembers that a key may begin here. -/
def markKey? (s : Scanner) : Option Scanner :=
  if s.keyAllowed then do
    let key : PossibleKey :=
      ⟨s.tokens.length, !s.inFlow && s.indent == s.place.column, s.place⟩
    return (← s.dropKey?).setPossibleKey (some key)
  else some s

/-- A possible key is out of reach: a key ends on its line, within 1024 characters. -/
def isStale (p : Place) (key : PossibleKey) : Bool :=
  key.place.line < p.line || key.place.index + 1024 < p.index

/-- The possible key, if it is not out of reach. It must not be so if it is required. -/
def freshKey? (p : Place) : Option PossibleKey → Option (Option PossibleKey)
  | some key =>
    if isStale p key then if key.required then none else some none else some (some key)
  | none => some none

/-- Forgets the possible keys that are out of reach. -/
def dropStale? (s : Scanner) : Option Scanner := do
  let blockKey ← freshKey? s.place s.blockKey
  let flowKeys ← s.flowKeys.mapM (freshKey? s.place)
  return { s with blockKey := blockKey, flowKeys := flowKeys }

/-- Takes what began at a possible key for the key of a mapping. -/
def openKey (s : Scanner) (key : PossibleKey) : Scanner :=
  let s := (s.insertAt key.number .key).openBlock key.place.column key.number .blockMappingStart
  { s.setPossibleKey none with keyAllowed := false }

/-! ### Blanks between tokens -/

/-- Skips blanks, comments and line breaks. A tab is not skipped where a key may begin
outside brackets. -/
def skipToToken : Nat → Scanner → Scanner
  | 0, s => s
  | fuel + 1, s =>
    let p := s.place.skipWhile fun c => c == ' ' || (c == '\t' && (s.inFlow || !s.keyAllowed))
    let p := if p.head? == some '#' then p.skipWhile fun c => !isBreak c else p
    if p.atBreak then
      skipToToken fuel
        { s with place := p.takeBreak.2, keyAllowed := s.keyAllowed || !s.inFlow }
    else { s with place := p }

/-! ### Directives and node properties -/

/-- A number of at most nine digits. -/
def scanVersionNumber (p : Place) : Option (Nat × Place) := do
  let (ds, p) := p.takeWhile Char.isDigit
  if ds.length > 9 then none
  return (← natOfDigits? 10 ds, p)

/-- The value of a version directive. -/
def scanVersion (p : Place) : Option (Token × Place) := do
  let (major, p) ← scanVersionNumber (p.skipWhile isSpace)
  if p.head? != some '.' then none
  let (minor, p) ← scanVersionNumber (p.skip 1)
  return (.versionDirective major minor, p)

/-- A tag handle: an exclamation mark, word characters, and a second mark if it is there. -/
def scanHandle (p : Place) : Option (List Char × Place) :=
  if p.head? == some '!' then
    let (word, p) := (p.skip 1).takeWhile isWordChar
    if p.head? == some '!' then some ('!' :: word ++ ['!'], p.skip 1) else some ('!' :: word, p)
  else none

/-- `c` may stand in a tag. In a tag between angle brackets a few more characters may. -/
def isTagChar (verbatim : Bool) (c : Char) : Bool :=
  isWordChar c || [';', '/', '?', ':', '@', '&', '=', '+', '$', '.', '!', '~', '*', '\'', '(',
    ')'].contains c || (verbatim && [',', '[', ']'].contains c)

/-- The byte of an escape in a tag, at the head of a text. -/
def tagByte? : List Char → Option (Nat × List Char)
  | '%' :: a :: b :: cs => (natOfDigits? 16 [a, b]).map (·, cs)
  | _ => none

/-- How many bytes follow the first byte of a character. -/
def trailingBytes? (b : Nat) : Option Nat :=
  if b < 0x80 then some 0
  else if 0xC0 ≤ b && b < 0xE0 then some 1
  else if 0xE0 ≤ b && b < 0xF0 then some 2
  else if 0xF0 ≤ b && b < 0xF8 then some 3
  else none

/-- The bytes that continue a character, folded into its code so far. -/
def tagTrail? : Nat → Nat → List Char → Option (Nat × List Char)
  | 0, code, cs => some (code, cs)
  | n + 1, code, cs => do
    let (b, cs) ← tagByte? cs
    if 0x80 ≤ b && b < 0xC0 then tagTrail? n (code * 64 + (b - 0x80)) cs else none

/-- The character that the escapes at the head of a text spell. -/
def tagEscape? (cs : List Char) : Option (Char × List Char) := do
  let (b, cs) ← tagByte? cs
  let n ← trailingBytes? b
  let lead := match n with | 0 => b | 1 => b - 0xC0 | 2 => b - 0xE0 | _ => b - 0xF0
  let (code, cs) ← tagTrail? n lead cs
  if (0xD800 ≤ code && code < 0xE000) || code > 0x10FFFF then none
  return (.ofNat code, cs)

/-- The characters of a tag from here on, and the place after them. -/
def scanTagChars (verbatim : Bool) : Nat → List Char → Place → Option (List Char × Place)
  | 0, _, _ => none
  | fuel + 1, text, p =>
    match p.rest with
    | '%' :: _ => do
      let (c, rest) ← tagEscape? p.rest
      scanTagChars verbatim fuel (text ++ [c]) (p.skip (p.rest.length - rest.length))
    | c :: _ =>
      if isTagChar verbatim c then scanTagChars verbatim fuel (text ++ [c]) (p.skip 1)
      else some (text, p)
    | [] => some (text, p)

/-- The characters of a tag from here on, of which there must be one. -/
def scanTagRest (verbatim : Bool) (p : Place) : Option (List Char × Place) := do
  let (text, p) ← scanTagChars verbatim (p.rest.length + 1) [] p
  if text.isEmpty then none else return (text, p)

/-- The value of a tag directive. -/
def scanTagDirective (p : Place) : Option (Token × Place) := do
  let (handle, p) ← scanHandle (p.skipWhile isSpace)
  if handle != ['!'] && (handle.length < 2 || handle.getLast? != some '!') then none
  if !p.atSpace then none
  let (start, p) ← scanTagRest true (p.skipWhile isSpace)
  if endsWord p.rest then return (.tagDirective handle start, p) else none

/-- A directive, from its percent sign to the end of its line. -/
def scanDirective (p : Place) : Option (Token × Place) := do
  let (name, p) := (p.skip 1).takeWhile isWordChar
  if name.isEmpty || !endsWord p.rest then none
  let (t, p) ←
    if name == ['Y', 'A', 'M', 'L'] then scanVersion p
    else if name == ['T', 'A', 'G'] then scanTagDirective p
    else none
  let p ← skipToBreak p
  return (t, p.takeBreak.2)

/-- The name of an anchor or an alias, from its mark on. -/
def scanName (p : Place) : Option (List Char × Place) := do
  let (name, p) := (p.skip 1).takeWhile isWordChar
  let ends := endsWord p.rest ||
    (p.head?.map fun c => ['?', ':', ',', ']', '}', '%', '@', '`'].contains c).getD false
  if name.isEmpty || !ends then none else return (name, p)

/-- A tag, from its exclamation mark on. -/
def scanTag (inFlow : Bool) (p : Place) : Option (Token × Place) := do
  let (handle, suffix, p) ←
    if p.startsWith ['!', '<'] then do
      let (suffix, p) ← scanTagRest true (p.skip 2)
      if p.head? != some '>' then none
      pure ([], suffix, p.skip 1)
    else do
      let (handle, p) ← scanHandle p
      if handle.length > 1 && handle.getLast? == some '!' then do
        let (suffix, p) ← scanTagRest false p
        pure (handle, suffix, p)
      else do
        let (more, p) ← scanTagChars false (p.rest.length + 1) [] p
        let suffix := handle.drop 1 ++ more
        pure (if suffix.isEmpty then ([], ['!'], p) else (['!'], suffix, p))
  if endsWord p.rest || (inFlow && p.head? == some ',') then return (.tag handle suffix, p)
  else none

/-! ### Tokens -/

/-- A mark of one character that opens a bracket. -/
def openBracket (s : Scanner) (t : Token) : Option Scanner := do
  let s ← s.markKey?
  return { s.push t |>.skip 1 with flowKeys := none :: s.flowKeys, keyAllowed := true }

/-- A mark of one character that closes a bracket. -/
def closeBracket (s : Scanner) (t : Token) : Option Scanner := do
  let s ← s.dropKey?
  return { s.push t |>.skip 1 with flowKeys := s.flowKeys.drop 1, keyAllowed := false }

/-- A mark that opens an entry, a key or a value in a block, where one may stand. -/
def blockMark (s : Scanner) (block t : Token) : Option Scanner := do
  if !s.inFlow && !s.keyAllowed then none
  let s ← (s.openBlock s.place.column s.tokens.length block).dropKey?
  return s.push t |>.skip 1

/-- The colon of a value. -/
def valueMark (s : Scanner) : Option Scanner :=
  match s.possibleKey with
  | some key => some ((s.openKey key).push .value |>.skip 1)
  | none => do
    let s ← s.blockMark .blockMappingStart .value
    return { s with keyAllowed := !s.inFlow }

/-- A token that may begin a key, as `scan` reads it. -/
def nodePart (s : Scanner) (scan : Place → Option (Token × Place)) : Option Scanner := do
  let s ← s.markKey?
  let (t, p) ← scan s.place
  return { s.push t with place := p, keyAllowed := false }

/-- A plain scalar. -/
def plainScalar (s : Scanner) : Option Scanner := do
  let s ← s.markKey?
  let (text, hasBreak, p) ←
    scanPlain s.inFlow (s.indent + 1) (s.place.rest.length + 1) [] {} s.place
  return { s.push (.scalar text true) with place := p, keyAllowed := hasBreak }

/-- A block scalar. -/
def blockScalar (s : Scanner) (folded : Bool) : Option Scanner := do
  let s ← s.dropKey?
  let (text, p) ← scanBlock folded s.indent s.place
  return { s.push (.scalar text false) with place := p, keyAllowed := true }

/-- A mark between documents. -/
def documentMark (s : Scanner) (t : Token) : Option Scanner := do
  let s ← (s.unroll (-1)).dropKey?
  return { s.push t |>.skip 3 with keyAllowed := false }

/-- A directive. -/
def directive (s : Scanner) : Option Scanner := do
  let s ← (s.unroll (-1)).dropKey?
  let (t, p) ← scanDirective s.place
  return { s.push t with place := p, keyAllowed := false }

/-- The next token, whose first character is `c` and stands before `cs`. -/
def next (s : Scanner) (c : Char) (cs : List Char) : Option Scanner :=
  if s.place.column == 0 && c == '%' then s.directive
  else if s.place.atDocumentMark then
    s.documentMark (if c == '-' then .documentStart else .documentEnd)
  else if c == '[' then s.openBracket .flowSequenceStart
  else if c == '{' then s.openBracket .flowMappingStart
  else if c == ']' then s.closeBracket .flowSequenceEnd
  else if c == '}' then s.closeBracket .flowMappingEnd
  else if c == ',' then do
    let s ← s.dropKey?
    return { s.push .flowEntry |>.skip 1 with keyAllowed := true }
  else if c == '-' && endsWord cs then do
    let s ← s.blockMark .blockSequenceStart .blockEntry
    return { s with keyAllowed := true }
  else if c == '?' && (s.inFlow || endsWord cs) then do
    let s ← s.blockMark .blockMappingStart .key
    return { s with keyAllowed := !s.inFlow }
  else if c == ':' && (s.inFlow || endsWord cs) then s.valueMark
  else if c == '*' then s.nodePart fun p => (scanName p).map fun (name, p) => (.alias name, p)
  else if c == '&' then s.nodePart fun p => (scanName p).map fun (name, p) => (.anchor name, p)
  else if c == '!' then s.nodePart (scanTag s.inFlow)
  else if c == '|' && !s.inFlow then s.blockScalar false
  else if c == '>' && !s.inFlow then s.blockScalar true
  else if c == '\'' || c == '"' then
    s.nodePart fun p => (scanQuoted (c == '\'') p).map fun (text, p) => (.scalar text false, p)
  else if ['?', ':', ',', ']', '}', '#', '|', '>', '%', '@', '`', '\t'].contains c then
    if !s.inFlow && (c == '?' || c == ':') then s.plainScalar else none
  else if c == '-' && (cs.head?.map isSpace).getD false then none
  else s.plainScalar

/-- Scans to the end of the text. -/
def run : Nat → Scanner → Option Scanner
  | 0, _ => none
  | fuel + 1, s => do
    let s ← (s.skipToToken (s.place.rest.length + 1)).dropStale?
    let s := s.unroll s.place.column
    match s.place.rest with
    | [] => (s.unroll (-1)).dropKey?
    | c :: cs => run fuel (← s.next c cs)

end Scanner

/-- `c` may stand in a YAML text. -/
def isPrintable (c : Char) : Bool :=
  let n := c.toNat
  n == 9 || n == 10 || n == 13 || (0x20 ≤ n && n ≤ 0x7E) || n == 0x85 ||
    (0xA0 ≤ n && n ≤ 0xFFFD) || 0x10000 ≤ n

/-- The tokens of a text, a byte order mark at its head aside. Every token uses up a
character, so the fuel is enough. -/
def Token.ofText? (text : List Char) : Option (List Token) := do
  if !text.all isPrintable then none
  let text := match text with | '\uFEFF' :: cs => cs | cs => cs
  let s ← Scanner.run (text.length + 1) { place := { rest := text } }
  return s.tokens.reverse

end Roster.Yaml

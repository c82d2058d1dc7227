import Roster.Text.Numeral
import Roster.Yaml.Place

/-!
The scalars of a YAML text: plain, quoted and block scalars.

Each scanner starts at the first character of the scalar and gives its text with
the place after it. A scanner fails where the text is ill-formed.
-/

namespace Roster.Yaml

open Roster.Text

/-! ### Plain scalars -/

/-- `c` ends a plain scalar inside brackets. -/
def isFlowMark (c : Char) : Bool :=
  c == ',' || c == '[' || c == ']' || c == '{' || c == '}'

/-- The characters of a plain scalar up to a blank or to a mark that ends the scalar. A
colon that a flow mark follows is ill-formed inside brackets. -/
def plainRun? (inFlow : Bool) : List Char → Option (List Char)
  | [] => some []
  | c :: cs =>
    if isSpace c || isBreak c then some []
    else if c == ':' && endsWord cs then some []
    else if inFlow && c == ':' && (cs.head?.map fun d => isFlowMark d || d == '?').getD false then
      none
    else if inFlow && isFlowMark c then some []
    else (plainRun? inFlow cs).map (c :: ·)

/-- A plain scalar, scanned on from its text so far and the gap after that. Lines that
continue it are indented to the column `indent` at least. The flag tells whether the
place after the scalar is on a later line. -/
def scanPlain (inFlow : Bool) (indent : Int) :
    Nat → List Char → Gap → Place → Option (List Char × Bool × Place)
  | 0, _, _, _ => none
  | fuel + 1, text, gap, p =>
    if p.atDocumentMark || p.head? == some '#' then some (text, gap.hasBreak, p)
    else do
      let run ← plainRun? inFlow p.rest
      let text := if run.isEmpty then text else text ++ gap.text ++ run
      let gap := if run.isEmpty then gap else {}
      let p := p.skip run.length
      if p.atSpace || p.atBreak then
        let (gap, p) ← scanGap indent (p.rest.length + 1) gap p
        if !inFlow && (p.column : Int) < indent then some (text, gap.hasBreak, p)
        else scanPlain inFlow indent fuel text gap p
      else some (text, gap.hasBreak, p)

/-! ### Quoted scalars -/

/-- The character that a one-letter escape stands for. -/
def escaped? : Char → Option Char
  | '0' => some '\x00'
  | 'a' => some '\x07'
  | 'b' => some '\x08'
  | 't' => some '\t'
  | '\t' => some '\t'
  | 'n' => some '\n'
  | 'v' => some '\x0b'
  | 'f' => some '\x0c'
  | 'r' => some '\r'
  | 'e' => some '\x1b'
  | ' ' => some ' '
  | '"' => some '"'
  | '/' => some '/'
  | '\\' => some '\\'
  | 'N' => some '\x85'
  | '_' => some '\xa0'
  | 'L' => some '\u2028'
  | 'P' => some '\u2029'
  | _ => none

/-- How many hexadecimal digits follow the letter of an escape. -/
def escapeDigits? : Char → Option Nat
  | 'x' => some 2
  | 'u' => some 4
  | 'U' => some 8
  | _ => none

/-- The character of an escape whose letter stands at the head of `cs`, and how many
characters the escape has from there. -/
def scanEscape? : List Char → Option (Char × Nat)
  | [] => none
  | c :: cs =>
    match escapeDigits? c with
    | none => (escaped? c).map (·, 1)
    | some n => do
      if cs.length < n then none
      let code ← natOfDigits? 16 (cs.take n)
      if (0xD800 ≤ code && code < 0xE000) || code > 0x10FFFF then none
      some (.ofNat code, n + 1)

/-- Why a run of characters in a quoted scalar ends. -/
inductive RunEnd where
  | quote
  | blank
  /-- A backslash stands before a line break. -/
  | escapedBreak
  deriving DecidableEq

/-- The characters of a quoted scalar up to a blank or the closing quote, and the place
there. -/
def scanQuotedRun (single : Bool) :
    Nat → List Char → Place → Option (List Char × RunEnd × Place)
  | 0, _, _ => none
  | fuel + 1, text, p =>
    match p.rest with
    | [] => some (text, .blank, p)
    | c :: cs =>
      if isSpace c || isBreak c then some (text, .blank, p)
      else if single && c == '\'' && cs.head? == some '\'' then
        scanQuotedRun single fuel (text ++ ['\'']) (p.skip 2)
      else if c == (if single then '\'' else '"') then some (text, .quote, p)
      else if !single && c == '\\' then
        if (cs.head?.map isBreak).getD false then
          some (text, .escapedBreak, (p.skip 1).takeBreak.2)
        else do
          let (e, n) ← scanEscape? cs
          scanQuotedRun single fuel (text ++ [e]) (p.skip (n + 1))
      else scanQuotedRun single fuel (text ++ [c]) (p.skip 1)

/-- A quoted scalar, scanned on from its text so far. -/
def scanQuotedFrom (single : Bool) : Nat → List Char → Place → Option (List Char × Place)
  | 0, _, _ => none
  | fuel + 1, text, p =>
    if p.atDocumentMark || p.rest.isEmpty then none
    else do
      let (text, stop, p) ← scanQuotedRun single (p.rest.length + 1) text p
      if stop == .quote then some (text, p.skip 1)
      else
        let (gap, p) ← scanGap 0 (p.rest.length + 1) { hasBreak := stop == .escapedBreak } p
        scanQuotedFrom single fuel (text ++ gap.text) p

/-- A quoted scalar, from its opening quote. -/
def scanQuoted (single : Bool) (p : Place) : Option (List Char × Place) :=
  scanQuotedFrom single (p.rest.length + 1) [] (p.skip 1)

/-! ### Block scalars -/

/-- What becomes of the line breaks at the end of a block scalar. -/
inductive Chomping where
  | strip
  | clip
  | keep
  deriving DecidableEq

/-- The chomping that a mark asks for. -/
def chomping? : Char → Option Chomping
  | '+' => some .keep
  | '-' => some .strip
  | _ => none

/-- The indentation that a digit asks for, none for any other character. A zero is
ill-formed. -/
def increment? (c : Char) : Option (Option Nat) :=
  if c.isDigit then if c == '0' then none else some (some (c.toNat - 48)) else some none

/-- The chomping and the indentation in the head of a block scalar, in either order, and
the place after them. -/
def scanBlockHead (p : Place) : Option (Chomping × Option Nat × Place) :=
  match p.head?.bind chomping? with
  | some chomping => do
    let p := p.skip 1
    match ← (p.head?.map increment?).getD (some none) with
    | some n => some (chomping, some n, p.skip 1)
    | none => some (chomping, none, p)
  | none => do
    match ← (p.head?.map increment?).getD (some none) with
    | some n =>
      let p := p.skip 1
      match p.head?.bind chomping? with
      | some chomping => some (chomping, some n, p.skip 1)
      | none => some (.clip, some n, p)
    | none => some (.clip, none, p)

/-- The rest of a line with nothing on it but blanks and a comment, up to its break. -/
def skipToBreak (p : Place) : Option Place :=
  let p := p.skipWhile isSpace
  let p := if p.head? == some '#' then p.skipWhile fun c => !isBreak c else p
  if p.rest.isEmpty || p.atBreak then some p else none

/-- The blank lines here, as line breaks, the widest indentation on them, and the place
after them. `indent` is the indentation of the scalar where it is known. -/
def scanBlankLines (indent : Option Nat) :
    Nat → List Char → Nat → Place → Option (List Char × Nat × Place)
  | 0, _, _, _ => none
  | fuel + 1, breaks, widest, p =>
    let spaces := (p.rest.takeWhile (· == ' ')).length
    let p := p.skip (match indent with | some n => min spaces (n - p.column) | none => spaces)
    let widest := max widest p.column
    let isLeft := match indent with | some n => p.column < n | none => true
    if isLeft && p.head? == some '\t' then none
    else if p.atBreak then
      let (text, p) := p.takeBreak
      scanBlankLines indent fuel (breaks ++ text) widest p
    else some (breaks, widest, p)

/-- The lines of a block scalar with the indentation `indent`, scanned on from the text
so far, the last line break of it and the blank lines after that. `folded` says that
single line breaks become spaces, and `afterBlank` that the line before started with a
blank. -/
def scanBlockLines (folded : Bool) (indent : Nat) :
    Nat → List Char → List Char → List Char → Bool → Place →
      Option (List Char × List Char × List Char × Place)
  | 0, _, _, _, _, _ => none
  | fuel + 1, text, lastBreak, blanks, afterBlank, p =>
    if p.column != indent || p.rest.isEmpty then some (text, lastBreak, blanks, p)
    else do
      let joined :=
        if folded && lastBreak == ['\n'] && !afterBlank && !p.atSpace then
          if blanks.isEmpty then [' '] else []
        else lastBreak
      let startsBlank := p.atSpace
      let (line, p) := p.takeWhile fun c => !isBreak c
      let (lastBreak, p) := p.takeBreak
      let (newBlanks, _, p) ← scanBlankLines (some indent) (p.rest.length + 1) [] 0 p
      scanBlockLines folded indent fuel (text ++ joined ++ blanks ++ line) lastBreak newBlanks
        startsBlank p

/-- A block scalar from its mark on. `parent` is the indentation of the block that it
stands in, which is negative at the top. -/
def scanBlock (folded : Bool) (parent : Int) (p : Place) : Option (List Char × Place) := do
  let (chomping, increment, p) ← scanBlockHead (p.skip 1)
  let p ← skipToBreak p
  let p := p.takeBreak.2
  let known := increment.map fun n => if parent ≥ 0 then parent.toNat + n else n
  let (blanks, widest, p) ← scanBlankLines known (p.rest.length + 1) [] 0 p
  let indent := known.getD (max (max widest (parent + 1).toNat) 1)
  let (text, lastBreak, blanks, p) ←
    scanBlockLines folded indent (p.rest.length + 1) [] [] blanks false p
  match chomping with
  | .strip => some (text, p)
  | .clip => some (text ++ lastBreak, p)
  | .keep => some (text ++ lastBreak ++ blanks, p)

end Roster.Yaml

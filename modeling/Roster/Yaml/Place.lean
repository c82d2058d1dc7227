/-!
Places in a YAML text.

A place is what is left of the text, with the count of characters before it, the line
and the column. A line ends at a line feed, a carriage return, the two together, a
next-line character, or a Unicode line or paragraph separator.
-/

namespace Roster.Yaml

/-- What is left of a text, and where that is. -/
structure Place where
  rest : List Char
  index : Nat := 0
  line : Nat := 0
  column : Nat := 0

/-- `c` ends a line. -/
def isBreak (c : Char) : Bool :=
  c == '\n' || c == '\r' || c == '\x85' || c == '\u2028' || c == '\u2029'

/-- `c` is a space or a tab. -/
def isSpace (c : Char) : Bool :=
  c == ' ' || c == '\t'

/-- `cs` is at its end, or starts with a space, a tab or a line break. -/
def endsWord : List Char → Bool
  | [] => true
  | c :: _ => isSpace c || isBreak c

/-- `c` may stand in an anchor or in the handle of a tag. -/
def isWordChar (c : Char) : Bool :=
  c.isAlphanum || c == '_' || c == '-'

namespace Place

/-- The place `n` characters further on the same line. -/
def skip (p : Place) (n : Nat) : Place :=
  { p with rest := p.rest.drop n, index := p.index + n, column := p.column + n }

/-- The characters that `f` holds of from here on, and the place after them. -/
def takeWhile (p : Place) (f : Char → Bool) : List Char × Place :=
  let taken := p.rest.takeWhile f
  (taken, p.skip taken.length)

/-- The place after the characters that `f` holds of. -/
def skipWhile (p : Place) (f : Char → Bool) : Place :=
  (p.takeWhile f).2

/-- The first character. -/
def head? (p : Place) : Option Char :=
  p.rest.head?

/-- The place starts with the text `s`. -/
def startsWith (p : Place) (s : List Char) : Bool :=
  s.isPrefixOf p.rest

/-- The start of the next line, `n` characters from here. -/
def nextLine (p : Place) (n : Nat) : Place :=
  { rest := p.rest.drop n, index := p.index + n, line := p.line + 1, column := 0 }

/-- The line break here as it counts in a scalar, and the place after it. At no break
there is nothing to take. -/
def takeBreak (p : Place) : List Char × Place :=
  match p.rest with
  | '\r' :: '\n' :: _ => (['\n'], p.nextLine 2)
  | c :: _ =>
    if c == '\n' || c == '\r' || c == '\x85' then (['\n'], p.nextLine 1)
    else if c == '\u2028' || c == '\u2029' then ([c], p.nextLine 1)
    else ([], p)
  | [] => ([], p)

/-- The first character ends a line. -/
def atBreak (p : Place) : Bool :=
  (p.head?.map isBreak).getD false

/-- The first character is a space or a tab. -/
def atSpace (p : Place) : Bool :=
  (p.head?.map isSpace).getD false

/-- A line starts here with the mark of a document's start or end. -/
def atDocumentMark (p : Place) : Bool :=
  p.column == 0 && (p.startsWith ['-', '-', '-'] || p.startsWith ['.', '.', '.']) &&
    endsWord (p.rest.drop 3)

end Place

/-! ### Folding

Between two parts of a flow scalar stands a gap of spaces and line breaks. Spaces
alone are kept. A single line break is folded to a space; of several the first is
dropped. -/

/-- The blank part of a scalar between two parts of its text. -/
structure Gap where
  /-- The spaces before the first line break. -/
  spaces : List Char := []
  /-- The first line break, empty where it is escaped or where there is none. -/
  firstBreak : List Char := []
  /-- The line breaks after the first. -/
  moreBreaks : List Char := []
  /-- The gap has a line break. -/
  hasBreak : Bool := false

/-- What a gap stands for. -/
def Gap.text (g : Gap) : List Char :=
  if g.hasBreak then
    if g.firstBreak == ['\n'] then
      if g.moreBreaks.isEmpty then [' '] else g.moreBreaks
    else g.firstBreak ++ g.moreBreaks
  else g.spaces

/-- Extends a gap by all spaces and line breaks from here on. After a line break a tab
left of the column `indent` is refused. -/
def scanGap (indent : Int) : Nat → Gap → Place → Option (Gap × Place)
  | 0, _, _ => none
  | fuel + 1, g, p =>
    match p.head? with
    | some c =>
      if isSpace c then
        if g.hasBreak then
          if c == '\t' && (p.column : Int) < indent then none
          else scanGap indent fuel g (p.skip 1)
        else scanGap indent fuel { g with spaces := g.spaces ++ [c] } (p.skip 1)
      else if isBreak c then
        let (text, next) := p.takeBreak
        if g.hasBreak then scanGap indent fuel { g with moreBreaks := g.moreBreaks ++ text } next
        else
          scanGap indent fuel { g with spaces := [], firstBreak := text, hasBreak := true } next
      else some (g, p)
    | none => some (g, p)

end Roster.Yaml

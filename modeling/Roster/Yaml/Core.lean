import Roster.Decimal.Layout
import Roster.Yaml.Value

/-!
The core schema: which plain scalars stand for something other than their text.

A plain scalar is null, a truth value, a whole number, a double, or else a text.
Whole numbers have 64 bits, as words or with a sign; a number that only 128 bits
hold is refused, and one beyond that is read as a double. Digits with a needless
zero before them are a text.
-/

namespace Roster.Yaml

open Roster.Decimal Roster.Text

/-! ### Null and truth values -/

/-- The scalar spells null. -/
def isNullWord (cs : List Char) : Bool :=
  ["", "~", "null", "Null", "NULL"].contains (.ofList cs)

/-- The truth value that a scalar spells. -/
def truth? (cs : List Char) : Option Bool :=
  let word := String.ofList cs
  if ["true", "True", "TRUE"].contains word then some true
  else if ["false", "False", "FALSE"].contains word then some false
  else none

/-! ### Whole numbers -/

/-- The scalar without one sign, and whether that is a minus. -/
def splitSign : List Char → Bool × List Char
  | '+' :: cs => (false, cs)
  | '-' :: cs => (true, cs)
  | cs => (false, cs)

/-- The digits have a needless zero before them. -/
def isZeroPadded (cs : List Char) : Bool :=
  cs.length > 1 && cs.head? == some '0' && cs.all Char.isDigit

/-- The number that digits stand for after a mark of their radix, or in decimal. -/
def magnitude? : List Char → Option Nat
  | '0' :: 'x' :: cs => natOfDigits? 16 cs
  | '0' :: 'o' :: cs => natOfDigits? 8 cs
  | '0' :: 'b' :: cs => natOfDigits? 2 cs
  | cs => if isZeroPadded cs then none else natOfDigits? 10 cs

/-- The whole number that a scalar spells. -/
def whole? (cs : List Char) : Option Int :=
  let (negative, rest) := splitSign cs
  (magnitude? rest).map fun n => if negative then -(n : Int) else n

/-- How much room a whole number takes. -/
inductive Room where
  | word
  | doubleWord
  | more
  deriving DecidableEq

/-- The room that a number takes. -/
def roomOf (i : Int) : Room :=
  if -2 * i ≤ wordLimit ∧ i < wordLimit then .word
  else if -2 * i ≤ wordLimit * wordLimit ∧ i < wordLimit * wordLimit then .doubleWord
  else .more

/-! ### Doubles -/

/-- The exponent of a number in decimal notation, zero where none stands. -/
def exponent? : List Char → Option Int
  | [] => some 0
  | c :: cs =>
    if c == 'e' || c == 'E' then
      let (negative, rest) := splitSign cs
      (natOfDigits? 10 rest).map fun n => if negative then -(n : Int) else n
    else none

/-- The finite double that a number in decimal notation is nearest to. Digits may be
missing on one side of the point. -/
def decimal? (cs : List Char) : Option Double := do
  let (negative, rest) := match cs with | '-' :: rest => (true, rest) | rest => (false, rest)
  let whole := rest.takeWhile Char.isDigit
  let rest := rest.dropWhile Char.isDigit
  let (fraction, rest) := match rest with
    | '.' :: rest => (rest.takeWhile Char.isDigit, rest.dropWhile Char.isDigit)
    | rest => ([], rest)
  let all := whole ++ fraction
  let value ← natOfDigits? 10 all
  let e ← exponent? rest
  let d := Double.nearest negative value all.length (e - fraction.length)
  if d.isFinite then some d else none

/-- The double that a scalar spells. -/
def double? (cs : List Char) : Option Double :=
  let word := String.ofList cs
  let rest := match cs with | '+' :: rest => rest | rest => rest
  if [".inf", ".Inf", ".INF"].contains (.ofList rest) then some (.infinite false)
  else if ["-.inf", "-.Inf", "-.INF"].contains word then some (.infinite true)
  else if [".nan", ".NaN", ".NAN"].contains word then some .nan
  else if cs.head? == some '+' && rest.head? == some '-' then none
  else decimal? rest

/-! ### Values of scalars -/

/-- The value of a plain scalar. -/
def plainValue? (cs : List Char) : Option Value :=
  if isNullWord cs then some .null
  else match truth? cs with
    | some b => some (.bool b)
    | none =>
      let asNoWhole : Value :=
        if isZeroPadded (splitSign cs).2 then .text (.ofList cs)
        else match double? cs with
          | some d => .float d
          | none => .text (.ofList cs)
      match whole? cs with
      | none => some asNoWhole
      | some i =>
        match roomOf i with
        | .word => some (.int i)
        | .doubleWord => none
        | .more => some asNoWhole

/-- The value of a scalar that a tag of the core schema says to be of a type, by the
name of the type. -/
def typedValue? (type : String) (cs : List Char) : Option Value :=
  match type with
  | "bool" => (truth? cs).map .bool
  | "int" => do
    let i ← whole? cs
    if roomOf i == .word then some (.int i) else none
  | "float" => (double? cs).map .float
  | "null" => if isNullWord cs && !cs.isEmpty then some .null else none
  | _ => some (.text (.ofList cs))

/-- The namespace of the tags of the core schema. -/
def coreNamespace : List Char :=
  "tag:yaml.org,2002:".toList

/-- The value of a scalar with a tag or without. A tag with an exclamation mark is the
application's own and is kept; any other one that is not of the core schema says that
the scalar is a text. -/
def scalarValue? (tag : Option (List Char)) (text : List Char) (plain : Bool) : Option Value :=
  let untagged := if plain then plainValue? text else some (.text (.ofList text))
  match tag with
  | none => untagged
  | some ('!' :: name) =>
    untagged.map fun v => .tagged (.ofList (if name.isEmpty then ['!'] else name)) v
  | some other =>
    if coreNamespace.isPrefixOf other then
      typedValue? (.ofList (other.drop coreNamespace.length)) text
    else some (.text (.ofList text))

/-! ### Texts of scalars -/

/-- Doubles below `10 ^ 16` and from `10 ^ -5` on are written without an exponent. -/
def doubleLayout : Layout :=
  ⟨16, 4⟩

/-- The text of a double. -/
def doubleText : Double → List Char
  | .nan => ['.', 'n', 'a', 'n']
  | .infinite negative => (if negative then ['-'] else []) ++ ['.', 'i', 'n', 'f']
  | .finite negative m q =>
    (if negative then ['-'] else []) ++
      (if m = 0 then ['0', '.', '0'] else doubleLayout.text (shortest m q))

/-- The text of a scalar, tags aside. Null and collections have none. -/
def Value.scalarText? (v : Value) : Option String :=
  match v.untagged with
  | .bool b => some (if b then "true" else "false")
  | .int i => some (.ofList (signed i))
  | .float d => some (.ofList (doubleText d))
  | .text s => some s
  | _ => none

end Roster.Yaml

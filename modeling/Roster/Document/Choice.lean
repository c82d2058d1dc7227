import Roster.Document.Record

/-!
Choices and kinds: documents that are one of several.

A choice is one of some names, written as a string; an object with the name as its
only key and `null` as its value is read too. A kind is a choice that comes with a
value, as the members `kind` and `value`.
-/

namespace Roster.Document

/-- The name that a value spells as a choice. -/
def choiceName? : Json → Option String
  | .str name => some name
  | .obj [(name, .null)] => some name
  | _ => none

/-- A type whose values are named. -/
structure Choice (α : Type) where
  name : String
  note : Option String
  all : List α
  label : α → String
  labelNote : α → Option String := fun _ => none

namespace Choice

variable {α : Type}

/-- The value with this label. -/
def find? (c : Choice α) (label : String) : Option α :=
  c.all.find? fun a => c.label a == label

/-- The format of a choice. -/
def format (c : Choice α) : Format α where
  write := fun a => .str (c.label a)
  read := fun v => (choiceName? v).bind c.find?
  shape := .named c.name
  definitions :=
    [⟨c.name, c.note, .choice (c.all.map fun a => (c.label a, c.labelNote a))⟩]

end Choice

/-- A kind of value of `α`. -/
structure Kind (α : Type) where
  label : String
  shape : Shape
  definitions : List Definition
  /-- The value to write, none for a value of another kind. -/
  write : α → Option Json
  read : Json → Option α

/-- The kind of values that `wrapped` makes of values in a format. -/
def Kind.of {α β : Type} (label : String) (format : Format β) (wrapped : β → α)
    (unwrapped : α → Option β) : Kind α where
  label := label
  shape := format.shape
  definitions := format.definitions
  write := fun a => (unwrapped a).map format.write
  read := fun v => (format.read v).map wrapped

/-- A type whose values are of several kinds. -/
structure Kinds (α : Type) where
  name : String
  note : Option String
  kinds : List (Kind α)

namespace Kinds

variable {α : Type}

/-- The label and the value of `a`, by the first kind that it is of. -/
def labelled? (ks : Kinds α) (a : α) : Option (String × Json) :=
  ks.kinds.findSome? fun k => (k.write a).map fun v => (k.label, v)

/-- The object of a kind and a value. -/
def write (ks : Kinds α) (a : α) : Json :=
  match ks.labelled? a with
  | some (label, v) => .obj [("kind", .str label), ("value", v)]
  | none => .null

/-- Reads a kind and a value of it. -/
def read (ks : Kinds α) (v : Json) : Option α := do
  let found ← membersOf? ["kind", "value"] v
  let label ← choiceName? (← found.lookup "kind")
  let kind ← ks.kinds.find? fun k => k.label == label
  kind.read (← found.lookup "value")

/-- The format of a type of several kinds. -/
def format (ks : Kinds α) : Format α where
  write := ks.write
  read := ks.read
  shape := .named ks.name
  definitions :=
    ⟨ks.name, ks.note, .kinds (ks.kinds.map fun k => (k.label, k.shape))⟩ ::
      ks.kinds.flatMap Kind.definitions

end Kinds

end Roster.Document

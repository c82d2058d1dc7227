import Roster.Document.Shape
import Roster.Text.Numeral

/-!
Formats: how values of a type are written as JSON and read back.

A format is total in writing and partial in reading. Numbers are read from digits
alone and must fit a 64-bit word. `Format.list` and `Format.optional` build formats
from formats; records, choices and kinds are in modules of their own.
-/

namespace Roster.Document

/-- How values of `α` are written and read, and the shape of what is written. -/
structure Format (α : Type) where
  write : α → Json
  read : Json → Option α
  shape : Shape
  /-- The named types that the shape refers to. -/
  definitions : List Definition := []

namespace Format

/-- Texts. -/
def text : Format String where
  write := .str
  read := Json.text?
  shape := .text

/-- Truth values. -/
def flag : Format Bool where
  write := .bool
  read := fun
    | .bool b => some b
    | _ => none
  shape := .flag

/-- Reads a number that fits a word. -/
def readWord : Json → Option Nat
  | .nat n => if n < Text.wordLimit then some n else none
  | _ => none

/-- Numbers of things. -/
def count : Format Nat where
  write := .nat
  read := readWord
  shape := .count

/-- Times in milliseconds. -/
def duration : Format Nat where
  write := .nat
  read := readWord
  shape := .duration

/-- Lists of values. -/
def list {α : Type} (item : Format α) : Format (List α) where
  write := fun vs => .arr (vs.map item.write)
  read := fun v => v.items?.bind fun vs => vs.mapM item.read
  shape := .list item.shape
  definitions := item.definitions

/-- Values that may be absent; `null` stands for absence. -/
def optional {α : Type} (inner : Format α) : Format (Option α) where
  write := fun v => .orNull (v.map inner.write)
  read := fun
    | .null => some none
    | v => (inner.read v).map some
  shape := .optional inner.shape
  definitions := inner.definitions

/-- The format of a type that wraps another one. -/
def wrap {α β : Type} (inner : Format α) (unwrapped : β → α) (wrapped : α → β) : Format β where
  write := fun v => inner.write (unwrapped v)
  read := fun v => (inner.read v).map wrapped
  shape := inner.shape
  definitions := inner.definitions

/-- The schema of documents in this format. -/
def schema {α : Type} (f : Format α) (title : String) : Json :=
  rootSchema title f.shape f.definitions

end Format

end Roster.Document

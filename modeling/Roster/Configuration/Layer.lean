import Roster.Text.Blank
import Roster.Text.Case.Lower

/-!
Layers of configuration.

A layer gives texts to keys. Keys are told apart by their normal forms, so a key may
be spelled with capitals or underscores. Of two settings of one key the later hides the
earlier, and a layer laid over another one hides what both set.
-/

namespace Roster

open Roster.Text

/-- The normal form of a key: without blanks at its ends, in small letters, and with
hyphens for underscores. -/
def normalKey (key : String) : String :=
  (lowercase (trim key)).map fun c => if c == '_' then '-' else c

/-- A layer of configuration: keys in normal form with their texts, the last set first. -/
structure Layer where
  entries : List (String × String) := []
  deriving DecidableEq, Repr

namespace Layer

/-- The layer with a key set. -/
def set (l : Layer) (key text : String) : Layer :=
  ⟨(normalKey key, text) :: l.entries⟩

/-- The text of a key. -/
def get? (l : Layer) (key : String) : Option String :=
  l.entries.lookup (normalKey key)

/-- The layer with keys set in order. -/
def setAll (l : Layer) (settings : List (String × String)) : Layer :=
  settings.foldl (fun l entry => l.set entry.1 entry.2) l

/-- The layer that sets keys in order. -/
def ofList (settings : List (String × String)) : Layer :=
  ({} : Layer).setAll settings

/-- Every key with its text, each once. -/
def toList (l : Layer) : List (String × String) :=
  l.entries.eraseDupsBy fun a b => a.1 == b.1

/-- `high` laid over `low`. -/
def above (high low : Layer) : Layer :=
  ⟨high.entries ++ low.entries⟩

/-- The layers laid over one another, the lowest first. -/
def merge (layers : List Layer) : Layer :=
  layers.foldl (fun low high => high.above low) {}

/-- The key that was set has its text, under every spelling of it. -/
theorem get?_set {l : Layer} {key other text : String} :
    (l.set key text).get? other =
      if normalKey other = normalKey key then some text else l.get? other := by
  unfold get? set
  by_cases h : normalKey other = normalKey key
  · simp [h]
  · simp [List.lookup_cons, beq_eq_false_iff_ne.mpr h, h]

/-- A key has its text from the layer on top, if that sets it. -/
theorem get?_above {high low : Layer} {key : String} :
    (high.above low).get? key = (high.get? key).or (low.get? key) := by
  simp [get?, above, List.lookup_append]

end Layer

end Roster

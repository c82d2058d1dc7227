import Roster.Decimal.Double

/-!
The values of YAML documents.

Keys of a mapping may be values of any kind, so `Value.same` decides which keys are
equal: the order of a mapping does not count, a whole number is never a double, and
doubles are compared as numbers.
-/

namespace Roster.Yaml

open Roster.Decimal

/-- A value of a YAML document. -/
inductive Value where
  | null
  | bool (b : Bool)
  | int (n : Int)
  | float (d : Double)
  | text (s : String)
  | seq (items : List Value)
  | map (entries : List (Value × Value))
  /-- A value with a tag of the application's own. -/
  | tagged (tag : String) (inner : Value)
  deriving Inhabited

namespace Value

mutual

/-- The values are equal. -/
def same : Value → Value → Bool
  | .null, .null => true
  | .bool a, .bool b => a == b
  | .int a, .int b => a == b
  | .float a, .float b => a.same b
  | .text a, .text b => a == b
  | .seq vs, .seq ws => sameItems vs ws
  | .map es, .map fs => es.length == fs.length && entriesIn fs es
  | .tagged t v, .tagged u w => t == u && same v w
  | _, _ => false

/-- The items are equal, one by one. -/
def sameItems : List Value → List Value → Bool
  | [], [] => true
  | v :: vs, w :: ws => same v w && sameItems vs ws
  | _, _ => false

/-- Every entry has an equal one in `fs`. -/
def entriesIn (fs : List (Value × Value)) : List (Value × Value) → Bool
  | [] => true
  | (k, v) :: es => (fs.any fun f => same k f.1 && same v f.2) && entriesIn fs es

end

/-- No two of the keys are equal. -/
def keysDiffer : List Value → Bool
  | [] => true
  | k :: ks => !ks.any k.same && keysDiffer ks

/-- The value without its tags. -/
def untagged : Value → Value
  | .tagged _ inner => inner.untagged
  | v => v

/-- The text that a value is, tags aside. -/
def text? (v : Value) : Option String :=
  match v.untagged with
  | .text s => some s
  | _ => none

end Value

end Roster.Yaml

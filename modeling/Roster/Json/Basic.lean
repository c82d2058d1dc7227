/-!
JSON values.

A value keeps what a reader can observe of the text it came from: the members of
an object in their order, repeated keys included, and the spelling of every number
that is not a plain run of digits. A string literal with a surrogate escape that
pairs with nothing stands for no text, but it is well formed and may be skipped;
`Json.unreadable` is such a literal, or an object with such a key.
-/

namespace Roster

/-- A JSON value. -/
inductive Json where
  | null
  | bool (b : Bool)
  /-- A number written as digits alone. -/
  | nat (n : Nat)
  /-- Any other number, as it is spelled. -/
  | number (spelling : String)
  | str (s : String)
  | arr (items : List Json)
  | obj (members : List (String × Json))
  /-- Well formed, but with no value. -/
  | unreadable
  deriving Inhabited

namespace Json

/-- The array of the texts `ss`. -/
def strings (ss : List String) : Json :=
  .arr (ss.map .str)

/-- The value itself, or `null` where there is none. -/
def orNull : Option Json → Json
  | some v => v
  | none => .null

/-- The text of a string. -/
def text? : Json → Option String
  | .str s => some s
  | _ => none

/-- The items of an array. -/
def items? : Json → Option (List Json)
  | .arr vs => some vs
  | _ => none

/-- The value of the first member with key `key`, if `v` is an object that has one. -/
def get? (v : Json) (key : String) : Option Json :=
  match v with
  | .obj ms => ms.lookup key
  | _ => none

/-- The texts of an array of strings. -/
def strings? (v : Json) : Option (List String) := do
  (← v.items?).mapM text?

end Json

end Roster

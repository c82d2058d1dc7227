import Roster.Json.Basic

/-!
Shapes of documents, and the schemas that publish them.

A `Shape` says what JSON values a format writes. Named types are defined once, in
the `definitions` of the schema that refers to them. The schemas are those of JSON
Schema draft 7; the order of keys in them is fixed.
-/

namespace Roster.Document

/-- The JSON values of a format. -/
inductive Shape where
  | text
  | flag
  /-- A number of things. -/
  | count
  /-- A time in milliseconds. -/
  | duration
  | list (item : Shape)
  | optional (inner : Shape)
  /-- The named type `name`. -/
  | named (name : String)
  deriving DecidableEq, Repr

/-- A member of a record type. -/
structure MemberShape where
  name : String
  note : Option String
  shape : Shape
  /-- The member may not be left out. -/
  needed : Bool
  /-- The value that is published for a member left out. -/
  default : Option Json

/-- What a named type is. -/
inductive Body where
  | record (members : List MemberShape)
  /-- One of some names, each with its note. -/
  | choice (names : List (String × Option String))
  /-- A pair of a kind and a value of the kind's shape. -/
  | kinds (entries : List (String × Shape))

/-- A named type. -/
structure Definition where
  name : String
  note : Option String
  body : Body

/-! ### Schemas -/

/-- `a` comes no later than `b` in the order of keys. -/
def keyBefore (a b : String × Json) : Bool :=
  !(b.1 < a.1)

/-- Members in the order of their keys. -/
def byKey (ms : List (String × Json)) : List (String × Json) :=
  ms.mergeSort keyBefore

/-- The schema member that holds a note. -/
def notePart (note : Option String) : List (String × Json) :=
  (note.map fun text => ("description", Json.str text)).toList

/-- The schema of the named type `name`. -/
def refPart (name : String) : String × Json :=
  ("$ref", .str ("#/definitions/" ++ name))

/-- `type` of a schema with `null` allowed beside it. -/
def allowNull (part : String × Json) : String × Json :=
  if part.1 == "type" then ("type", .arr [part.2, .str "null"]) else part

/-- The schema of a whole number from zero on. -/
def wholeParts (format : String) : List (String × Json) :=
  [("type", .str "integer"), ("format", .str format), ("minimum", .number "0.0")]

/-- The schema of a shape. -/
def Shape.parts : Shape → List (String × Json)
  | .text => [("type", .str "string")]
  | .flag => [("type", .str "boolean")]
  | .count => wholeParts "uint"
  | .duration => wholeParts "uint64"
  | .list item => [("type", .str "array"), ("items", .obj item.parts)]
  | .optional (.named name) =>
    [("anyOf", .arr [.obj [refPart name], .obj [("type", .str "null")]])]
  | .optional inner => inner.parts.map allowNull
  | .named name => [refPart name]

/-- The schema of a member. A reference with anything beside it is wrapped. -/
def MemberShape.parts (m : MemberShape) : List (String × Json) :=
  let beside := notePart m.note ++ (m.default.map fun v => ("default", v)).toList
  match m.shape, beside with
  | .named name, _ :: _ => beside ++ [("allOf", .arr [.obj [refPart name]])]
  | shape, beside => beside ++ shape.parts

/-- The schema of the one name `name`. -/
def namePart (name : String) : List (String × Json) :=
  [("type", .str "string"), ("enum", .strings [name])]

/-- The schema of what a named type is. -/
def Body.parts : Body → List (String × Json)
  | .record members =>
    let needed := (members.filter MemberShape.needed).map MemberShape.name
    [("type", .str "object")] ++
      (if needed.isEmpty then []
        else [("required", .strings (needed.mergeSort fun a b => !(b < a)))]) ++
      [("properties", .obj (byKey (members.map fun m => (m.name, .obj m.parts))))]
  | .choice names =>
    if names.any fun entry => entry.2.isSome then
      [("oneOf", .arr (names.map fun entry => .obj (notePart entry.2 ++ namePart entry.1)))]
    else
      [("type", .str "string"), ("enum", .strings (names.map Prod.fst))]
  | .kinds entries =>
    [("oneOf", .arr (entries.map fun entry => .obj [
      ("type", .str "object"),
      ("required", .strings ["kind", "value"]),
      ("properties", .obj [
        ("kind", .obj (namePart entry.1)),
        ("value", .obj entry.2.parts)])]))]

/-- The schema of a named type. -/
def Definition.parts (d : Definition) : List (String × Json) :=
  notePart d.note ++ d.body.parts

/-- The first definition of each name. -/
def firstOfEachName : List Definition → List Definition
  | [] => []
  | d :: ds => d :: (firstOfEachName ds).filter fun other => other.name != d.name

/-- The schema of a document titled `title`. A named type at the root is written
out there; every other one is defined at the end. -/
def rootSchema (title : String) (shape : Shape) (definitions : List Definition) : Json :=
  let all := firstOfEachName definitions
  let isRoot := fun d : Definition => shape == .named d.name
  let root := match all.find? isRoot with
    | some d => d.parts
    | none => shape.parts
  let others := all.filter fun d => !isRoot d
  .obj <|
    [("$schema", .str "http://json-schema.org/draft-07/schema#"), ("title", .str title)] ++
    root ++
    (if others.isEmpty then []
      else [("definitions", .obj (byKey (others.map fun d => (d.name, .obj d.parts))))])

mutual

/-- The value with the members of every object in the order of their keys. -/
def sortKeys : Json → Json
  | .arr vs => .arr (sortItems vs)
  | .obj ms => .obj (byKey (sortMembers ms))
  | v => v

/-- The items, each with its keys in order. -/
def sortItems : List Json → List Json
  | [] => []
  | v :: vs => sortKeys v :: sortItems vs

/-- The members, each value with its keys in order. -/
def sortMembers : List (String × Json) → List (String × Json)
  | [] => []
  | (k, v) :: ms => (k, sortKeys v) :: sortMembers ms

end

end Roster.Document

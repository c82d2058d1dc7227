import Roster.Document.Format

/-!
Records: documents with named members.

A record type is described once, member by member, and the description is read in
three ways: as a writer, as a reader and as a schema. In writing, a member may be
left out where its value is the one that a reader puts in its place. In reading,
unknown members are skipped and a known one that is repeated is refused. A record
may also be an array of its members in their order, cut short where only members
that may be left out would follow.
-/

namespace Roster.Document

/-- A member of records of type `σ`. -/
structure Member (σ : Type) where
  shape : MemberShape
  definitions : List Definition
  /-- The value to write, none where the member is left out. -/
  write : σ → Option Json
  /-- Puts the value read, or none where there is none, into a record. -/
  read : Option Json → σ → Option σ

namespace Member

variable {σ β : Type}

/-- A member that is always there. -/
def needed (name : String) (note : Option String) (format : Format β)
    (get : σ → β) (put : β → σ → σ) : Member σ where
  shape := ⟨name, note, format.shape, true, none⟩
  definitions := format.definitions
  write := fun s => some (format.write (get s))
  read := fun v s => do return put (← format.read (← v)) s

/-- A member that is written always, and is `standard` where it is left out. -/
def withDefault (name : String) (note : Option String) (format : Format β) (standard : β)
    (get : σ → β) (put : β → σ → σ) : Member σ where
  shape := ⟨name, note, format.shape, false, some (format.write standard)⟩
  definitions := format.definitions
  write := fun s => some (format.write (get s))
  read := fun v s =>
    match v with
    | some v => (format.read v).map fun b => put b s
    | none => some (put standard s)

/-- A member that is left out in writing where `isStandard` holds of its value, and is
`standard` where it is left out. -/
def unlessStandard (name : String) (note : Option String) (format : Format β) (standard : β)
    (isStandard : β → Bool) (get : σ → β) (put : β → σ → σ) : Member σ where
  shape := ⟨name, note, format.shape, false, none⟩
  definitions := format.definitions
  write := fun s => if isStandard (get s) then none else some (format.write (get s))
  read := fun v s =>
    match v with
    | some v => (format.read v).map fun b => put b s
    | none => some (put standard s)

/-- A member that may be absent, and then is left out. -/
def optional (name : String) (note : Option String) (format : Format β)
    (get : σ → Option β) (put : Option β → σ → σ) : Member σ :=
  unlessStandard name note format.optional none Option.isNone get put

/-- A list that is left out where it is empty. -/
def unlessEmpty (name : String) (note : Option String) (item : Format β)
    (get : σ → List β) (put : List β → σ → σ) : Member σ :=
  unlessStandard name note item.list [] List.isEmpty get put

end Member

/-- The members of a value with known names, by name. A known name may not be
repeated; in an array the names go by position. -/
def membersOf? (names : List String) : Json → Option (List (String × Json))
  | .obj ms =>
    let known := ms.filter fun m => names.contains m.1
    if (known.map Prod.fst).Nodup then some known else none
  | .arr vs => if vs.length ≤ names.length then some (names.zip vs) else none
  | _ => none

/-- A record type: its name and its members. -/
structure Record (σ : Type) where
  name : String
  note : Option String
  members : List (Member σ)

namespace Record

variable {σ : Type}

/-- The names of the members. -/
def memberNames (r : Record σ) : List String :=
  r.members.map fun m => m.shape.name

/-- The object of the members that are not left out. -/
def write (r : Record σ) (s : σ) : Json :=
  .obj (r.members.filterMap fun m => (m.write s).map fun v => (m.shape.name, v))

/-- Puts every member of `found` into `blank`. -/
def readMembers (found : List (String × Json)) : List (Member σ) → σ → Option σ
  | [], s => some s
  | m :: ms, s => (m.read (found.lookup m.shape.name) s).bind (readMembers found ms)

/-- Reads a record, over the blank one. -/
def read (r : Record σ) (blank : σ) (v : Json) : Option σ := do
  let found ← membersOf? r.memberNames v
  readMembers found r.members blank

/-- The named type that the record is. -/
def definition (r : Record σ) : Definition :=
  ⟨r.name, r.note, .record (r.members.map Member.shape)⟩

/-- The format of a record type. -/
def format [Inhabited σ] (r : Record σ) : Format σ where
  write := r.write
  read := r.read default
  shape := .named r.name
  definitions := r.definition :: r.members.flatMap Member.definitions

end Record

end Roster.Document

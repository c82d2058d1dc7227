import Roster.Tag.Name

/-!
Sets of tags.

A set holds normal forms, so that membership does not depend on how a name was
spelled. `TagSet.has` asks for a normal form, `TagSet.contains` for any spelling.
-/

namespace Roster.Tag

/-- A set of tags, as the normal forms of their names without repetition. -/
structure TagSet where
  names : List String := []
  deriving DecidableEq, Repr

namespace TagSet

/-- The set with one more tag. -/
def insert (s : TagSet) (name : String) : TagSet :=
  if s.names.contains (normalName name) then s else ⟨s.names ++ [normalName name]⟩

/-- The set with the tags of a list. -/
def insertAll (s : TagSet) (names : List String) : TagSet :=
  names.foldl insert s

/-- The tags of a list. -/
def ofList (names : List String) : TagSet :=
  ({} : TagSet).insertAll names

/-- A tag with this normal form is in the set. -/
def has (s : TagSet) (normal : String) : Bool :=
  s.names.contains normal

/-- The tag of this name is in the set. -/
def contains (s : TagSet) (name : String) : Bool :=
  s.has (normalName name)

/-- How many tags the set has. -/
def size (s : TagSet) : Nat :=
  s.names.length

/-- The set has no tag. -/
def isEmpty (s : TagSet) : Bool :=
  s.names.isEmpty

theorem has_iff {s : TagSet} {x : String} : s.has x = true ↔ x ∈ s.names :=
  List.contains_iff_mem

theorem mem_names_insert {s : TagSet} {name x : String} :
    x ∈ (s.insert name).names ↔ x ∈ s.names ∨ x = normalName name := by
  unfold insert
  split
  · rename_i h
    simp only [List.contains_iff_mem] at h
    exact ⟨Or.inl, fun hx => hx.elim id fun e => e ▸ h⟩
  · simp

theorem mem_names_insertAll {s : TagSet} {names : List String} {x : String} :
    x ∈ (s.insertAll names).names ↔ x ∈ s.names ∨ ∃ n ∈ names, x = normalName n := by
  induction names generalizing s with
  | nil => simp [insertAll]
  | cons n ns ih =>
    have step : s.insertAll (n :: ns) = (s.insert n).insertAll ns := rfl
    rw [step, ih, mem_names_insert]
    simp [or_assoc]

/-- The tags of a list are the normal forms of its names. -/
theorem has_ofList {names : List String} {x : String} :
    (ofList names).has x = true ↔ ∃ n ∈ names, x = normalName n := by
  simp [ofList, has, mem_names_insertAll]

end TagSet

end Roster.Tag

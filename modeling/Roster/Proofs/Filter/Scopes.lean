import Roster.Proofs.Filter.Admission
import Roster.Proofs.Text.Fields

/-!
The scopes of a tag.

A scenario has a tag from one of four scopes (`InScope`): the suite, its specification, the
scenario itself, and the rows of the tables that drive it. A row has the tags that it lists in the
first column called `tags` (`Table.Lists`). The universe of a scenario is made of these names and
has no other (`has_tagUniverse_iff`).

* `admits_iff_scopes` : a rule by tags admits a scenario exactly when the expression of the run
  and those that the scenario and its specification carry are well formed and match the set of
  these names.
-/

namespace Roster

open Roster.Tag Roster.Text

/-! ### Tags in a table -/

namespace Table

/-- The column is the first one that is called `tags`, once its header is trimmed and its
capitals are made small. -/
structure IsTagsColumn (t : Table) (column : Nat) : Prop where
  named : ∃ header, t.headers[column]? = some header ∧ asciiLower (trim header) = "tags"
  first : ∀ earlier < column, ∀ header, t.headers[earlier]? = some header →
    asciiLower (trim header) ≠ "tags"

/-- A row of the table lists the tag: it is long enough for the column of tags, and the tag is one
of the comma-separated fields of its cell there, trimmed and not empty. -/
def Lists (t : Table) (tag : String) : Prop :=
  ∃ column, t.IsTagsColumn column ∧ ∃ row ∈ t.rows, ∃ cell, row[column]? = some cell ∧
    tag ≠ "" ∧ ∃ field, IsField cell.value.toList field ∧ tag = trim (.ofList field)

theorem columnIndex?_tagsColumn_iff {t : Table} {column : Nat} :
    t.columnIndex? tagsColumn = some column ↔ t.IsTagsColumn column := by
  have hsmall : asciiLower tagsColumn = "tags" := by decide
  rw [columnIndex?, List.findIdx?_eq_some_iff_getElem, hsmall]
  simp only [beq_iff_eq]
  constructor
  · rintro ⟨hlt, hnamed, hfirst⟩
    refine ⟨⟨_, List.getElem?_eq_getElem hlt, hnamed⟩, ?_⟩
    intro earlier hearlier header hheader
    obtain ⟨_, rfl⟩ := List.getElem?_eq_some_iff.mp hheader
    exact hfirst earlier hearlier
  · rintro ⟨⟨header, hheader, hnamed⟩, hfirst⟩
    obtain ⟨hlt, rfl⟩ := List.getElem?_eq_some_iff.mp hheader
    refine ⟨hlt, hnamed, ?_⟩
    intro earlier hearlier
    exact hfirst earlier hearlier _ (List.getElem?_eq_getElem (Nat.lt_trans hearlier hlt))

theorem mem_tagsAt_iff {column : Nat} {row : List Cell} {tag : String} :
    tag ∈ tagsAt column row ↔ ∃ cell, row[column]? = some cell ∧
      tag ≠ "" ∧ ∃ field, IsField cell.value.toList field ∧ tag = trim (.ofList field) := by
  rw [tagsAt]
  cases row[column]? with
  | none => simp
  | some cell => simp [mem_filledFields_iff]

theorem mem_allTags_iff {t : Table} {tag : String} : tag ∈ t.allTags ↔ t.Lists tag := by
  simp only [Lists, ← columnIndex?_tagsColumn_iff, ← mem_tagsAt_iff, allTags]
  cases t.columnIndex? tagsColumn with
  | none => simp
  | some column => simp [List.mem_flatMap]

-- A row that is too short lists nothing, and a second column called `tags` is not read.
example : allTags
    { headers := ["id", " Tags ", "tags"]
      rows := [[⟨"1", .static⟩, ⟨"smoke, ,ui", .static⟩, ⟨"slow", .static⟩], [⟨"2", .static⟩]] } =
        ["smoke", "ui"] := by
  decide +kernel

end Table

/-! ### Tags on a scenario -/

/-- A scenario of a specification has the tag, in a suite with the tags `suiteTags`. -/
inductive InScope (suiteTags : List String) (spec : Specification) (s : Scenario) :
    String → Prop where
  /-- The whole suite has it. -/
  | suite {tag : String} : tag ∈ suiteTags → InScope suiteTags spec s tag
  /-- A group of the specification's names it. -/
  | specification {tag : String} {group : List String} :
      group ∈ spec.tags.groups → tag ∈ group → InScope suiteTags spec s tag
  /-- A group of the scenario's names it. -/
  | scenario {tag : String} {group : List String} :
      group ∈ s.tags.groups → tag ∈ group → InScope suiteTags spec s tag
  /-- A table that drives the instance lists it. -/
  | row {tag : String} {table : Table} :
      s.specRow = some table ∨ s.ownRow = some table → table.Lists tag →
        InScope suiteTags spec s tag

theorem Tags.mem_values_iff {t : Tags} {tag : String} :
    tag ∈ t.values ↔ ∃ group ∈ t.groups, tag ∈ group :=
  List.mem_flatten

theorem Scenario.mem_rowTags_iff {s : Scenario} {tag : String} :
    tag ∈ s.rowTags ↔ ∃ table, (s.specRow = some table ∨ s.ownRow = some table) ∧
      table.Lists tag := by
  simp only [rowTags, List.mem_append, List.mem_flatMap, Option.mem_toList, Table.mem_allTags_iff,
    or_and_right, exists_or]

namespace TagRule

variable {rule : TagRule} {spec : Specification} {s : Scenario}

/-- The tags on a scenario are those of the four scopes. -/
theorem mem_tagNames_iff {tag : String} :
    tag ∈ rule.tagNames spec s ↔ InScope rule.suiteTags spec s tag := by
  simp only [tagNames, List.mem_append, Tags.mem_values_iff, Scenario.mem_rowTags_iff]
  constructor
  · rintro (((hsuite | ⟨group, hgroup, htag⟩) | ⟨group, hgroup, htag⟩) | ⟨table, htable, hlists⟩)
    · exact .suite hsuite
    · exact .specification hgroup htag
    · exact .scenario hgroup htag
    · exact .row htable hlists
  · intro h
    cases h with
    | suite hsuite => exact .inl (.inl (.inl hsuite))
    | specification hgroup htag => exact .inl (.inl (.inr ⟨_, hgroup, htag⟩))
    | scenario hgroup htag => exact .inl (.inr ⟨_, hgroup, htag⟩)
    | row htable hlists => exact .inr ⟨_, htable, hlists⟩

/-- The universe of a scenario has the normal forms of the tags in scope, and no other name. -/
theorem has_tagUniverse_iff {name : String} :
    (rule.tagUniverse spec s).has name = true ↔
      ∃ tag, InScope rule.suiteTags spec s tag ∧ name = normalName tag := by
  simp only [tagUniverse, TagSet.has_ofList, mem_tagNames_iff]

end TagRule

/-- **The rule by tags reads all four scopes.** There is one set of the names on a scenario: the
normal forms of the tags of the suite, of the specification, of the scenario itself and of the
table rows that drive it, and no others. It is what every rule for the suite reads, and a rule
admits the scenario exactly when the expression of the run is well formed and matches the set,
and so do those that the specification and the scenario carry. -/
theorem admits_iff_scopes (raw : String) (suiteTags : List String) (spec : Specification)
    (s : Scenario) :
    ∃ tags : TagSet,
      (∀ name, tags.has name = true ↔
        ∃ tag, InScope suiteTags spec s tag ∧ name = normalName tag) ∧
      (∀ rule : TagRule, rule.suiteTags = suiteTags → rule.tagUniverse spec s = tags) ∧
      ((TagRule.make raw suiteTags >>= fun rule => rule.admits spec s) = .ok true ↔
        ∀ text ∈ raw :: (spec.inherited.toList ++ s.inherited.toList),
          ∃ e, Expression.parse text = .ok e ∧ e.matchesTags tags = true) := by
  -- Which tags are on the scenario depends on the suite, not on the expression of the run.
  let bare : TagRule := ⟨⟨raw, none, []⟩, suiteTags⟩
  have huniverse : ∀ rule : TagRule, rule.suiteTags = suiteTags →
      rule.tagUniverse spec s = bare.tagUniverse spec s := by
    rintro rule rfl
    rfl
  refine ⟨bare.tagUniverse spec s, fun name => TagRule.has_tagUniverse_iff, huniverse, ?_⟩
  simp only [bind_eq_ok_iff, TagRule.make_eq_ok_iff, TagRule.admits_eq_ok_true_iff,
    evaluate_eq_ok_iff, read_eq_ok_iff, List.forall_mem_cons]
  constructor
  · rintro ⟨rule, ⟨hparse, hsuite⟩, hmatches, hcarried⟩
    rw [← huniverse rule hsuite]
    exact ⟨⟨_, hparse, hmatches⟩, hcarried⟩
  · rintro ⟨⟨e, hparse, hmatches⟩, hcarried⟩
    exact ⟨⟨e, suiteTags⟩, ⟨hparse, rfl⟩, hmatches, hcarried⟩

end Roster

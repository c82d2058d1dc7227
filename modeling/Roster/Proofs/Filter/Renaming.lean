import Mathlib.Data.List.Forall2
import Roster.Proofs.Filter.Again
import Roster.Proofs.Filter.Faults

/-!
Row numbers as names.

The numbers with which rows come into a filter are names: they say which scenarios have one
row and nothing more. Two suites that differ in them alone are related by a renaming for
each specification (`SameButRows`), and every step of the filter keeps them so.

* `partitionAll_of_sameButRows` : a rule by tags splits both in the same way, or fails on both
  with the same fault.
* `renumberRows_of_sameButRows` : numbered anew they are the same suite.
* `filterByTags_of_sameButRows` : so the half that a filter keeps does not tell the two apart.
-/

namespace Roster

/-! ### Renamed rows -/

/-- The item `item'` is `item` but for its row numbers: the row of the specification's table
has the number that `rename` gives it, and the own row has any. -/
def Item.Renamed (rename : Nat → Nat) (item item' : Item) : Prop :=
  ∃ own, item' = item.mapScenario fun s =>
    { s with specRowIndex := rename s.specRowIndex, ownRowIndex := own }

/-- The specification `spec'` is `spec` but for its row numbers. The rows are renamed, so that
different ones stay different. -/
structure Specification.Renamed (rename : Nat → Nat) (spec spec' : Specification) : Prop where
  tells : ∀ row ∈ spec.scenarios.map Scenario.specRowIndex,
    ∀ row' ∈ spec.scenarios.map Scenario.specRowIndex, rename row = rename row' → row = row'
  items : List.Forall₂ (Item.Renamed rename) spec.items spec'.items
  around : spec'.withoutItems = spec.withoutItems

/-- Two suites differ in row numbers alone. Each specification has its own renaming. -/
def SameButRows (specs specs' : List Specification) : Prop :=
  List.Forall₂ (fun spec spec' => ∃ rename, Specification.Renamed rename spec spec') specs specs'

section Items

variable {rename : Nat → Nat} {items items' : List Item}

theorem map_specRowIndex_of_renamed (h : List.Forall₂ (Item.Renamed rename) items items') :
    (items'.filterMap Item.scenario?).map Scenario.specRowIndex =
      ((items.filterMap Item.scenario?).map Scenario.specRowIndex).map rename := by
  induction h with
  | nil => rfl
  | @cons item _ _ _ hitem _ ih =>
    obtain ⟨own, rfl⟩ := hitem
    cases item with
    | scenario s => exact congrArg (rename s.specRowIndex :: ·) ih
    | _ => exact ih

/-- What is made of the scenarios does not depend on the renaming if it is the same for the
scenarios that are related. -/
theorem map_mapScenario_of_renamed {f f' : Scenario → Scenario}
    (h : List.Forall₂ (Item.Renamed rename) items items')
    (hf : ∀ s ∈ items.filterMap Item.scenario?, ∀ own,
      f' { s with specRowIndex := rename s.specRowIndex, ownRowIndex := own } = f s) :
    items'.map (Item.mapScenario f') = items.map (Item.mapScenario f) := by
  induction h with
  | nil => rfl
  | @cons item _ items items' hitem _ ih =>
    obtain ⟨own, rfl⟩ := hitem
    rw [List.map_cons, List.map_cons]
    cases item with
    | scenario s =>
      obtain ⟨hs, hitems⟩ := List.forall_mem_cons.mp hf
      rw [ih hitems]
      exact congrArg (Item.scenario · :: _) (hs own)
    | _ =>
      rw [ih hf]
      rfl

end Items

namespace Specification

namespace Renamed

variable {rename : Nat → Nat} {spec spec' : Specification}

theorem fileName_eq (h : Renamed rename spec spec') : spec'.fileName = spec.fileName :=
  (mk.inj h.around).2.1

/-- What makes the same of scenarios that are related makes the same of the specifications. -/
theorem mapScenarios_eq (h : Renamed rename spec spec') {f f' : Scenario → Scenario}
    (hf : ∀ s ∈ spec.scenarios, ∀ own,
      f' { s with specRowIndex := rename s.specRowIndex, ownRowIndex := own } = f s) :
    spec'.mapScenarios f' = spec.mapScenarios f := by
  obtain ⟨hheading, hfile, -, htags, hinherited, htable⟩ := mk.inj h.around
  unfold mapScenarios
  rw [map_mapScenario_of_renamed h.items hf, mk.injEq]
  exact ⟨hheading, hfile, rfl, htags, hinherited, htable⟩

theorem forgetRows_eq (h : Renamed rename spec spec') : spec'.forgetRows = spec.forgetRows :=
  h.mapScenarios_eq fun _ _ _ => rfl

theorem hasScenarios_eq (h : Renamed rename spec spec') :
    spec'.hasScenarios = spec.hasScenarios := by
  rw [← hasScenarios_forgetRows, h.forgetRows_eq, hasScenarios_forgetRows]

/-- The rows are first seen in the same order. -/
theorem rowsSeen_eq (h : Renamed rename spec spec') :
    spec'.rowsSeen = spec.rowsSeen.map rename := by
  unfold rowsSeen
  rw [scenarios, map_specRowIndex_of_renamed h.items]
  exact eraseDups_map h.tells

/-- Numbered anew the two specifications are the same: a row has its place among the rows
seen, which the renaming does not change. -/
theorem renumber_eq (h : Renamed rename spec spec') (base : Nat) :
    (spec'.renumberSpecRows base).renumberOwnRows =
      (spec.renumberSpecRows base).renumberOwnRows := by
  have hplace : ∀ s ∈ spec.scenarios,
      spec'.rowsSeen.idxOf (rename s.specRowIndex) = spec.rowsSeen.idxOf s.specRowIndex := by
    intro s hs
    rw [h.rowsSeen_eq]
    refine idxOf_map ?_ (List.mem_eraseDups.mpr (List.mem_map_of_mem hs))
    intro row hrow row' hrow'
    exact h.tells row (List.mem_eraseDups.mp hrow) row' (List.mem_eraseDups.mp hrow')
  rw [← renumberOwnRows_ownRowIndex, ← renumberOwnRows_ownRowIndex (spec.renumberSpecRows base)]
  unfold renumberSpecRows
  rw [mapScenarios_mapScenarios, mapScenarios_mapScenarios, h.mapScenarios_eq]
  intro s hs own
  simp only [Function.comp_apply, hplace s hs]

/-- Scenarios that are related are kept together. -/
theorem keep {p p' : Scenario → Bool} (h : Renamed rename spec spec')
    (hp : ∀ s own,
      p' { s with specRowIndex := rename s.specRowIndex, ownRowIndex := own } = p s) :
    Renamed rename (spec.keep p) (spec'.keep p') where
  tells := by
    intro row hrow row' hrow'
    have hsublist : ((spec.keep p).scenarios.map Scenario.specRowIndex).Sublist
        (spec.scenarios.map Scenario.specRowIndex) := by
      rw [scenarios_keep]
      exact List.filter_sublist.map _
    exact h.tells row (hsublist.subset hrow) row' (hsublist.subset hrow')
  items := by
    refine List.rel_filter ?_ h.items
    rintro item _ ⟨own, rfl⟩
    cases item with
    | scenario s => exact (Bool.eq_iff_iff.mp (hp s own)).symm
    | _ => exact Iff.rfl
  around := h.around

end Renamed

end Specification

/-! ### Filters -/

namespace SameButRows

variable {specs specs' : List Specification}

theorem map_forgetRows_eq (h : SameButRows specs specs') :
    specs'.map Specification.forgetRows = specs.map Specification.forgetRows := by
  induction h with
  | nil => rfl
  | cons hspec _ ih =>
    obtain ⟨rename, hspec⟩ := hspec
    rw [List.map_cons, List.map_cons, hspec.forgetRows_eq, ih]

/-- A filter that does not look at row numbers leaves what differs in them alone. -/
theorem retainIn {keeps : Specification → Scenario → Bool} (h : SameButRows specs specs')
    (hkeeps : ∀ spec s, keeps spec.forgetRows s.forgetRows = keeps spec s) :
    SameButRows (retainIn specs keeps) (retainIn specs' keeps) := by
  have hmap : SameButRows (specs.map fun spec => spec.keep (keeps spec))
      (specs'.map fun spec => spec.keep (keeps spec)) := by
    refine List.rel_map ?_ h
    rintro spec spec' ⟨rename, hspec⟩
    refine ⟨rename, hspec.keep ?_⟩
    intro s own
    rw [← hkeeps spec', ← hkeeps spec, hspec.forgetRows_eq]
    rfl
  refine List.rel_filter ?_ hmap
  rintro spec spec' ⟨rename, hspec⟩
  exact (Bool.eq_iff_iff.mp hspec.hasScenarios_eq).symm

end SameButRows

/-! ### Numbering anew -/

theorem renumberAfter_of_sameButRows {before before' specs specs' : List Specification}
    (h : SameButRows specs specs')
    (hbefore : ∀ fileName, nextRow fileName before' = nextRow fileName before) :
    renumberAfter before' specs' = renumberAfter before specs := by
  induction h generalizing before before' with
  | nil => rfl
  | @cons spec spec' _ _ hspec _ ih =>
    obtain ⟨rename, hspec⟩ := hspec
    rw [renumberAfter, renumberAfter, hspec.renumber_eq, hspec.fileName_eq, hbefore]
    congr 1
    refine ih ?_
    intro fileName
    rw [nextRow_concat, nextRow_concat, hbefore, hspec.fileName_eq, hspec.rowsSeen_eq,
      List.length_map]

/-- Suites that differ in row numbers alone are the same suite once they are numbered anew. -/
theorem renumberRows_of_sameButRows {specs specs' : List Specification}
    (h : SameButRows specs specs') : renumberRows specs' = renumberRows specs :=
  renumberAfter_of_sameButRows h fun _ => rfl

/-! ### Faults -/

theorem suiteScenarios_forgetRows (specs : List Specification) :
    suiteScenarios (specs.map Specification.forgetRows) =
      (suiteScenarios specs).map fun entry => (entry.1.forgetRows, entry.2.forgetRows) := by
  induction specs with
  | nil => rfl
  | cons spec specs ih =>
    rw [List.map_cons, suiteScenarios_cons, suiteScenarios_cons, List.map_append, ih,
      Specification.forgetRows, Specification.scenarios_mapScenarios, List.map_map, List.map_map]
    rfl

/-- A rule by tags has the same faults whatever the row numbers. -/
theorem partitionAll_forgetRows_eq_error_iff {rule : TagRule} {specs : List Specification}
    {fault : Fault} :
    partitionAll (.tags rule) (specs.map Specification.forgetRows) = .error fault ↔
      partitionAll (.tags rule) specs = .error fault := by
  rw [partitionAll_eq_error_iff, partitionAll_eq_error_iff, suiteScenarios_forgetRows, first_map]
  rfl

/-- A rule by tags splits suites that differ in row numbers alone in the same way, or fails
on both with the same fault. -/
theorem partitionAll_of_sameButRows {specs specs' : List Specification}
    (h : SameButRows specs specs') (rule : TagRule) :
    (∃ fault, partitionAll (.tags rule) specs = .error fault ∧
        partitionAll (.tags rule) specs' = .error fault) ∨
      ∃ halves halves', partitionAll (.tags rule) specs = .ok halves ∧
        partitionAll (.tags rule) specs' = .ok halves' ∧
        SameButRows halves.kept halves'.kept ∧ SameButRows halves.excluded halves'.excluded := by
  have hfault : ∀ fault, partitionAll (.tags rule) specs' = .error fault ↔
      partitionAll (.tags rule) specs = .error fault := by
    intro fault
    rw [← partitionAll_forgetRows_eq_error_iff, h.map_forgetRows_eq,
      partitionAll_forgetRows_eq_error_iff]
  cases hsplit : partitionAll (.tags rule) specs with
  | error fault => exact .inl ⟨fault, rfl, (hfault fault).mpr hsplit⟩
  | ok halves =>
    cases hsplit' : partitionAll (.tags rule) specs' with
    | error fault =>
      have hboth := (hfault fault).mp hsplit'
      rw [hsplit] at hboth
      cases hboth
    | ok halves' =>
      obtain ⟨-, rfl⟩ := partitionAll_eq_ok_iff.mp hsplit
      obtain ⟨-, rfl⟩ := partitionAll_eq_ok_iff.mp hsplit'
      exact .inr ⟨_, _, rfl, rfl, h.retainIn fun _ _ => rfl, h.retainIn fun _ _ => rfl⟩

/-- **Row numbers come in as names.** A filter by tags fails on two suites that differ in row
numbers alone with the same fault, or it keeps the same half of both, row numbers included;
what it excludes differs in row numbers alone. -/
theorem filterByTags_of_sameButRows {specs specs' : List Specification}
    (h : SameButRows specs specs') (expression : String) (suiteTags : List String) :
    (∃ fault, filterByTags specs expression suiteTags = .error fault ∧
        filterByTags specs' expression suiteTags = .error fault) ∨
      ∃ halves halves', filterByTags specs expression suiteTags = .ok halves ∧
        filterByTags specs' expression suiteTags = .ok halves' ∧
        halves'.kept = halves.kept ∧ SameButRows halves.excluded halves'.excluded := by
  unfold filterByTags
  cases hrule : TagRule.make expression suiteTags with
  | error fault => exact .inl ⟨fault, rfl, rfl⟩
  | ok rule =>
    rcases partitionAll_of_sameButRows h rule with
      ⟨fault, hsplit, hsplit'⟩ | ⟨halves, halves', hsplit, hsplit', hkept, hexcluded⟩
    · refine .inl ⟨fault, ?_, ?_⟩
      · rw [ok_bind, hsplit, error_bind]
      · rw [ok_bind, hsplit', error_bind]
    · refine .inr ⟨{ halves with kept := renumberRows halves.kept },
        { halves' with kept := renumberRows halves'.kept }, ?_, ?_, ?_, hexcluded⟩
      · rw [ok_bind, hsplit, ok_bind]
      · rw [ok_bind, hsplit', ok_bind]
      · exact renumberRows_of_sameButRows hkept

namespace Sample

/-- A specification with its table rows renamed and one number for all own rows. -/
def withRows (rename : Nat → Nat) (own : Nat) (spec : Specification) : Specification :=
  spec.mapScenarios fun s =>
    { s with specRowIndex := rename s.specRowIndex, ownRowIndex := own }

/-- The rows 1 and 4 of the first specification change places, those of the second are counted
from 2 on. -/
def renamedShops : List Specification :=
  [withRows (5 - ·) 7 (shops[0]), withRows (· + 2) 0 (shops[1]), withRows id 3 (shops[2])]

end Sample

theorem Specification.renamed_withRows {rename : Nat → Nat} {spec : Specification}
    (h : ∀ row ∈ spec.scenarios.map Scenario.specRowIndex,
      ∀ row' ∈ spec.scenarios.map Scenario.specRowIndex, rename row = rename row' → row = row')
    (own : Nat) : Renamed rename spec (Sample.withRows rename own spec) where
  tells := h
  items := by
    refine List.forall₂_map_right_iff.mpr (List.forall₂_same.mpr ?_)
    intro item _
    exact ⟨own, rfl⟩
  around := rfl

theorem filterByTags_of_sameButRows_sample :
    SameButRows Sample.shops Sample.renamedShops ∧ Sample.renamedShops ≠ Sample.shops ∧
      ∃ halves halves', filterByTags Sample.shops "!slow" [] = .ok halves ∧
        filterByTags Sample.renamedShops "!slow" [] = .ok halves' ∧
        halves'.kept = halves.kept ∧ halves.kept.length = 3 := by
  have hsame : SameButRows Sample.shops Sample.renamedShops := by
    refine .cons ⟨_, Specification.renamed_withRows ?_ 7⟩
      (.cons ⟨_, Specification.renamed_withRows ?_ 0⟩
        (.cons ⟨_, Specification.renamed_withRows ?_ 3⟩ .nil))
    · decide +kernel
    · decide +kernel
    · decide +kernel
  have hran : (filterByTags Sample.shops "!slow" []).map (fun halves => halves.kept.length) =
      .ok 3 := by
    decide +kernel
  obtain ⟨halves, hhalves, hlength⟩ := map_eq_ok_iff.mp hran
  refine ⟨hsame, by decide +kernel, ?_⟩
  rcases filterByTags_of_sameButRows hsame "!slow" [] with
    ⟨fault, hfault, -⟩ | ⟨found, found', hfound, hfound', hkept, -⟩
  · rw [hhalves] at hfault
    cases hfault
  · rw [hhalves] at hfound
    cases hfound
    exact ⟨halves, found', hhalves, hfound', hkept, hlength⟩

end Roster

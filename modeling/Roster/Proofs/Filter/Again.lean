import Roster.Proofs.Filter.Numbers

/-!
Filtering again.

A half of a filter by tags is what the same filter makes of it. What the halves hold of a
specification has the tags and the expressions that the rule reads, so every verdict stays;
and rows that are numbered in the order first seen keep their numbers.

* `renumberRows_renumberRows` : numbering rows anew twice is numbering them once.
* `filterByTags_again` : a filter leaves its halves alone.
-/

namespace Roster

/-! ### Numbering rows anew -/

namespace Specification

/-- After renumbering, the rows of a specification are first seen in the order of their
numbers. -/
theorem rowsSeen_renumber (base : Nat) (spec : Specification) :
    (spec.renumberSpecRows base).renumberOwnRows.rowsSeen =
      (List.range spec.rowsSeen.length).map (base + ·) := by
  have hrows : (spec.renumberSpecRows base).renumberOwnRows.scenarios.map Scenario.specRowIndex =
      (spec.scenarios.map Scenario.specRowIndex).map fun row =>
        base + spec.rowsSeen.idxOf row := by
    have hkeys := map_instanceKey_numberScenarios [] (spec.renumberSpecRows base).scenarios
    rw [← scenarios_renumberOwnRows] at hkeys
    have hfst := congrArg (List.map Prod.fst) hkeys
    rw [List.map_map, List.map_map, renumberSpecRows, scenarios_mapScenarios, List.map_map] at hfst
    rw [List.map_map]
    exact hfst
  have hplaces : spec.rowsSeen.map (fun row => base + spec.rowsSeen.idxOf row) =
      (List.range spec.rowsSeen.length).map (base + ·) := by
    refine List.ext_getElem (by simp) fun i hi _ => ?_
    have hnodup : spec.rowsSeen.Nodup := nodup_eraseDups _
    simp [hnodup.idxOf_getElem]
  rw [rowsSeen, hrows, eraseDups_map, ← hplaces, rowsSeen]
  intro row hrow row' _ heq
  exact (List.idxOf_inj (List.mem_eraseDups.mpr hrow)).mp (Nat.add_left_cancel heq)

theorem mapScenarios_eq_self {spec : Specification} {f : Scenario → Scenario}
    (h : ∀ s ∈ spec.scenarios, f s = s) : spec.mapScenarios f = spec := by
  have hitem : ∀ item ∈ spec.items, item.mapScenario f = item := by
    intro item hitem
    cases item with
    | scenario s => exact congrArg Item.scenario (h s (mem_scenarios.mpr hitem))
    | _ => rfl
  rw [mapScenarios, List.map_congr_left hitem, List.map_id']

/-- Rows that are first seen in the order of their numbers keep their numbers. -/
theorem renumberSpecRows_of_rowsSeen {base count : Nat} {spec : Specification}
    (h : spec.rowsSeen = (List.range count).map (base + ·)) :
    spec.renumberSpecRows base = spec := by
  refine mapScenarios_eq_self fun s hs => ?_
  have hseen : s.specRowIndex ∈ spec.rowsSeen :=
    List.mem_eraseDups.mpr (List.mem_map_of_mem hs)
  have hget := List.getElem_idxOf (List.idxOf_lt_length_of_mem hseen)
  simp only [h, List.getElem_map, List.getElem_range] at hget ⊢
  rw [hget]

/-- Own rows are numbered anew whatever their numbers were. -/
theorem numberInstances_ownRowIndex (before : List (Nat × Nat)) (items : List Item) :
    numberInstances before (items.map (Item.mapScenario fun s => { s with ownRowIndex := 0 })) =
      numberInstances before items := by
  induction items generalizing before with
  | nil => rfl
  | cons item items ih =>
    cases item with
    | scenario s => exact congrArg (_ :: ·) (ih (instanceKey s :: before))
    | _ => exact congrArg (_ :: ·) (ih before)

theorem renumberOwnRows_ownRowIndex (spec : Specification) :
    (spec.mapScenarios fun s => { s with ownRowIndex := 0 }).renumberOwnRows =
      spec.renumberOwnRows := by
  simp only [renumberOwnRows, mapScenarios, numberInstances_ownRowIndex]

theorem renumberOwnRows_renumberOwnRows (spec : Specification) :
    spec.renumberOwnRows.renumberOwnRows = spec.renumberOwnRows := by
  rw [← renumberOwnRows_ownRowIndex spec.renumberOwnRows,
    mapScenarios_renumberOwnRows (fun _ _ => rfl), renumberOwnRows_ownRowIndex]

/-- A renumbered specification keeps its numbers. -/
theorem renumber_renumber (base : Nat) (spec : Specification) :
    ((spec.renumberSpecRows base).renumberOwnRows.renumberSpecRows base).renumberOwnRows =
      (spec.renumberSpecRows base).renumberOwnRows := by
  rw [renumberSpecRows_of_rowsSeen (rowsSeen_renumber base spec), renumberOwnRows_renumberOwnRows]

end Specification

/-- Renumbering depends on the specifications before only in how many rows each file has. -/
theorem renumberAfter_renumberAfter {before before' specs : List Specification}
    (h : ∀ fileName, nextRow fileName before' = nextRow fileName before) :
    renumberAfter before' (renumberAfter before specs) = renumberAfter before specs := by
  induction specs generalizing before before' with
  | nil => rfl
  | cons spec specs ih =>
    simp only [renumberAfter]
    have hfile : ∀ base, (spec.renumberSpecRows base).renumberOwnRows.fileName = spec.fileName :=
      fun _ => rfl
    rw [hfile, h, Specification.renumber_renumber, ih]
    intro fileName
    simp only [nextRow_concat, h, hfile, Specification.rowsSeen_renumber,
      List.length_map, List.length_range]

/-- Numbering the rows anew twice is numbering them once. -/
theorem renumberRows_renumberRows (specs : List Specification) :
    renumberRows (renumberRows specs) = renumberRows specs :=
  renumberAfter_renumberAfter fun _ => rfl

/-! ### Verdicts -/

/-- What a rule by tags says of a scenario does not depend on row numbers, nor on the other
items. -/
theorem excludes_forgetRows (rule : TagRule) (spec : Specification) (s : Scenario) :
    (Rule.tags rule).excludes spec.forgetRows s.forgetRows = (Rule.tags rule).excludes spec s :=
  rfl

/-- The rule gives every scenario of the suite the verdict `out`, and every specification has
a scenario. -/
structure Uniform (rule : TagRule) (out : Bool) (specs : List Specification) : Prop where
  verdicts : ∀ spec ∈ specs, ∀ s ∈ spec.scenarios,
    (Rule.tags rule).excludes spec s = .ok out
  nonempty : ∀ spec ∈ specs, spec.hasScenarios = true

namespace Uniform

variable {rule : TagRule} {out : Bool} {specs : List Specification}

/-- Row numbers do not count in it. -/
theorem map_forgetRows_iff :
    Uniform rule out (specs.map Specification.forgetRows) ↔ Uniform rule out specs := by
  have hscenarios : ∀ spec : Specification,
      spec.forgetRows.scenarios = spec.scenarios.map Scenario.forgetRows :=
    fun spec => spec.scenarios_mapScenarios Scenario.forgetRows
  constructor
  · rintro ⟨hverdicts, hnonempty⟩
    simp only [List.forall_mem_map, hscenarios, excludes_forgetRows] at hverdicts
    simp only [List.forall_mem_map, Specification.hasScenarios_forgetRows] at hnonempty
    exact ⟨hverdicts, hnonempty⟩
  · rintro ⟨hverdicts, hnonempty⟩
    constructor
    · simpa only [List.forall_mem_map, hscenarios, excludes_forgetRows] using hverdicts
    · simpa only [List.forall_mem_map, Specification.hasScenarios_forgetRows] using hnonempty

/-- A suite of one verdict has it after renumbering. -/
theorem renumberRows (h : Uniform rule out specs) : Uniform rule out (renumberRows specs) := by
  rw [← map_forgetRows_iff, map_forgetRows_renumberRows, map_forgetRows_iff]
  exact h

/-- What a filter retains of one verdict is of this verdict. -/
theorem retainIn_decided (rule : TagRule) (out : Bool) (specs : List Specification) :
    Uniform rule out (retainIn specs fun spec => decided ((Rule.tags rule).excludes spec) out) := by
  constructor
  · intro spec hspec s hs
    obtain ⟨hmap, -⟩ := List.mem_filter.mp hspec
    obtain ⟨source, -, rfl⟩ := List.mem_map.mp hmap
    rw [Specification.scenarios_keep] at hs
    exact decided_iff.mp (List.mem_filter.mp hs).2
  · intro spec hspec
    exact (List.mem_filter.mp hspec).2

/-- A suite of one verdict splits in itself and nothing. -/
theorem retainIn_eq (h : Uniform rule out specs) (verdict : Bool) :
    (retainIn specs fun spec => decided ((Rule.tags rule).excludes spec) verdict) =
      if verdict = out then specs else [] := by
  by_cases hverdict : verdict = out
  · rw [if_pos hverdict]
    refine retainIn_eq_self h.nonempty fun spec hspec s hs => decided_iff.mpr ?_
    rw [h.verdicts spec hspec s hs, hverdict]
  · rw [if_neg hverdict]
    refine retainIn_eq_nil fun spec hspec s hs => ?_
    rw [decided, h.verdicts spec hspec s hs]
    simpa using Ne.symm hverdict

/-- The filter by tags leaves a suite of one verdict whole. -/
theorem filterByTags_eq (h : Uniform rule out specs) {expression : String}
    {suiteTags : List String} (hrule : TagRule.make expression suiteTags = .ok rule) :
    filterByTags specs expression suiteTags =
      .ok (if out then ⟨[], specs⟩ else ⟨Roster.renumberRows specs, []⟩) := by
  refine filterByTags_eq_ok_iff.mpr ⟨rule, hrule, _, partitionAll_eq_ok_iff.mpr ⟨?_, rfl⟩, ?_⟩
  · intro spec hspec s hs
    exact ⟨out, h.verdicts spec hspec s hs⟩
  · rw [h.retainIn_eq, h.retainIn_eq]
    cases out <;> rfl

end Uniform

/-! ### The halves of a filter -/

/-- **Filtering again changes nothing.** The half that a filter by tags keeps is kept whole by
the same filter, row numbers included, and the half that it excludes is excluded whole. -/
theorem filterByTags_again {specs : List Specification} {expression : String}
    {suiteTags : List String} {halves : Halves (List Specification)}
    (h : filterByTags specs expression suiteTags = .ok halves) :
    filterByTags halves.kept expression suiteTags = .ok ⟨halves.kept, []⟩ ∧
      filterByTags halves.excluded expression suiteTags = .ok ⟨[], halves.excluded⟩ := by
  obtain ⟨rule, hrule, split, hsplit, rfl⟩ := filterByTags_eq_ok_iff.mp h
  obtain ⟨-, rfl⟩ := partitionAll_eq_ok_iff.mp hsplit
  have hkept := (Uniform.retainIn_decided rule false specs).renumberRows
  have hexcluded := Uniform.retainIn_decided rule true specs
  constructor
  · have hagain := hkept.filterByTags_eq hrule
    rwa [renumberRows_renumberRows] at hagain
  · exact hexcluded.filterByTags_eq hrule

theorem filterByTags_again_sample :
    ∃ halves, filterByTags (Sample.orders :: Sample.shops) "!slow" [] = .ok halves ∧
      halves.kept.length = 4 ∧ halves.excluded.length = 3 ∧
      filterByTags halves.kept "!slow" [] = .ok ⟨halves.kept, []⟩ ∧
      filterByTags halves.excluded "!slow" [] = .ok ⟨[], halves.excluded⟩ := by
  have hran : (filterByTags (Sample.orders :: Sample.shops) "!slow" []).map (fun halves =>
      (halves.kept.length, halves.excluded.length)) = .ok (4, 3) := by
    decide +kernel
  obtain ⟨halves, hhalves, hlengths⟩ := map_eq_ok_iff.mp hran
  obtain ⟨hkept, hexcluded⟩ := Prod.mk.inj hlengths
  exact ⟨halves, hhalves, hkept, hexcluded, filterByTags_again hhalves⟩

end Roster

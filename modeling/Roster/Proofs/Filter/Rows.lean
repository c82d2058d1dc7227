import Mathlib.Data.List.Nodup
import Roster.Filter.Rows
import Roster.Proofs.Filter.Halves

/-!
Row numbers after a selection.

Renumbering writes the two row numbers of a scenario and nothing else
(`map_forgetRows_renumberRows`). The numbers that it writes tell the scenarios of a
suite apart (`nodup_identities_renumberRows`): in one specification the instances of a
scenario have different numbers for one table row, and the table rows of two
specifications of one file come from intervals that do not meet.
-/

namespace Roster

/-! ### What renumbering leaves alone -/

/-- The scenario without its row numbers. -/
def Scenario.forgetRows (s : Scenario) : Scenario :=
  { s with specRowIndex := 0, ownRowIndex := 0 }

namespace Specification

/-- The specification without the row numbers of its scenarios. -/
def forgetRows (spec : Specification) : Specification :=
  spec.mapScenarios Scenario.forgetRows

theorem scenarios_mapScenarios (spec : Specification) (f : Scenario → Scenario) :
    (spec.mapScenarios f).scenarios = spec.scenarios.map f := by
  simp only [scenarios, mapScenarios, List.filterMap_map, List.map_filterMap]
  congr 1
  funext item
  cases item <;> rfl

theorem mapScenarios_mapScenarios (spec : Specification) (f g : Scenario → Scenario) :
    (spec.mapScenarios f).mapScenarios g = spec.mapScenarios (g ∘ f) := by
  simp only [mapScenarios, List.map_map, mk.injEq, true_and, and_true]
  congr 1
  funext item
  cases item <;> rfl

theorem hasScenarios_forgetRows (spec : Specification) :
    spec.forgetRows.hasScenarios = spec.hasScenarios := by
  rw [Bool.eq_iff_iff, hasScenarios_iff, hasScenarios_iff, forgetRows, scenarios_mapScenarios,
    ne_eq, List.map_eq_nil_iff]

theorem forgetRows_renumberSpecRows (base : Nat) (spec : Specification) :
    (spec.renumberSpecRows base).forgetRows = spec.forgetRows := by
  rw [renumberSpecRows, forgetRows, mapScenarios_mapScenarios]
  rfl

theorem map_numberInstances {f : Scenario → Scenario}
    (hf : ∀ s own, f { s with ownRowIndex := own } = f s) (before : List (Nat × Nat))
    (items : List Item) :
    (numberInstances before items).map (Item.mapScenario f) = items.map (Item.mapScenario f) := by
  induction items generalizing before with
  | nil => rfl
  | cons item items ih =>
    cases item with
    | scenario s => simp [numberInstances, ih, Item.mapScenario, hf]
    | _ => simp [numberInstances, ih]

/-- What does not look at own rows does not see that they are numbered anew. -/
theorem mapScenarios_renumberOwnRows {f : Scenario → Scenario}
    (hf : ∀ s own, f { s with ownRowIndex := own } = f s) (spec : Specification) :
    spec.renumberOwnRows.mapScenarios f = spec.mapScenarios f := by
  simp only [renumberOwnRows, mapScenarios, map_numberInstances hf]

theorem forgetRows_renumberOwnRows (spec : Specification) :
    spec.renumberOwnRows.forgetRows = spec.forgetRows :=
  mapScenarios_renumberOwnRows (fun _ _ => rfl) spec

end Specification

theorem map_forgetRows_renumberAfter (before specs : List Specification) :
    (renumberAfter before specs).map Specification.forgetRows =
      specs.map Specification.forgetRows := by
  induction specs generalizing before with
  | nil => rfl
  | cons spec specs ih =>
    rw [renumberAfter, List.map_cons, List.map_cons, ih,
      Specification.forgetRows_renumberOwnRows, Specification.forgetRows_renumberSpecRows]

/-- Renumbering changes nothing but the row numbers. -/
theorem map_forgetRows_renumberRows (specs : List Specification) :
    (renumberRows specs).map Specification.forgetRows = specs.map Specification.forgetRows :=
  map_forgetRows_renumberAfter [] specs

/-- Row numbers do not count in a filter that does not look at them. -/
theorem map_forgetRows_retainIn {keeps : Specification → Scenario → Bool}
    (h : ∀ spec s, keeps spec.forgetRows s.forgetRows = keeps spec s)
    (specs : List Specification) :
    (retainIn specs keeps).map Specification.forgetRows =
      retainIn (specs.map Specification.forgetRows) keeps := by
  have hkeep : ∀ spec : Specification, (spec.keep (keeps spec)).forgetRows =
      spec.forgetRows.keep (keeps spec.forgetRows) := by
    intro spec
    simp only [Specification.keep, Specification.forgetRows, Specification.mapScenarios,
      Specification.mk.injEq, true_and, and_true, List.filter_map]
    congr 1
    apply List.filter_congr
    intro item _
    cases item with
    | scenario s => exact (h spec s).symm
    | _ => rfl
  induction specs with
  | nil => rfl
  | cons spec specs ih =>
    rw [retainIn_cons, List.map_cons, retainIn_cons, ← hkeep,
      Specification.hasScenarios_forgetRows, ← ih]
    split <;> rfl

/-! ### Own rows of one specification -/

namespace Specification

/-- `numberInstances` on the scenarios alone. -/
def numberScenarios (before : List (Nat × Nat)) : List Scenario → List Scenario
  | [] => []
  | s :: ss =>
    { s with ownRowIndex := before.count (instanceKey s) } ::
      numberScenarios (instanceKey s :: before) ss

theorem scenarios_numberInstances (before : List (Nat × Nat)) (items : List Item) :
    (numberInstances before items).filterMap Item.scenario? =
      numberScenarios before (items.filterMap Item.scenario?) := by
  induction items generalizing before with
  | nil => rfl
  | cons item items ih =>
    cases item with
    | scenario s => exact congrArg (_ :: ·) (ih _)
    | _ => exact ih before

theorem scenarios_renumberOwnRows (spec : Specification) :
    spec.renumberOwnRows.scenarios = numberScenarios [] spec.scenarios :=
  scenarios_numberInstances [] spec.items

/-- Numbering the instances of scenarios does not change what they are instances of. -/
theorem map_instanceKey_numberScenarios (before : List (Nat × Nat)) (ss : List Scenario) :
    (numberScenarios before ss).map instanceKey = ss.map instanceKey := by
  induction ss generalizing before with
  | nil => rfl
  | cons s ss ih =>
    rw [numberScenarios, List.map_cons, ih]
    rfl

/-- The instances in `before` have used up the first numbers. -/
theorem count_le_ownRowIndex {before : List (Nat × Nat)} {ss : List Scenario} {s : Scenario}
    (h : s ∈ numberScenarios before ss) : before.count (instanceKey s) ≤ s.ownRowIndex := by
  induction ss generalizing before with
  | nil => exact absurd h List.not_mem_nil
  | cons t ss ih =>
    rcases List.mem_cons.mp h with rfl | htail
    · exact Nat.le_refl _
    · exact Nat.le_trans List.count_le_count_cons (ih htail)

/-- The instances of one scenario for one table row have ascending numbers. -/
theorem pairwise_numberScenarios (before : List (Nat × Nat)) (ss : List Scenario) :
    (numberScenarios before ss).Pairwise fun s t =>
      instanceKey s = instanceKey t → s.ownRowIndex < t.ownRowIndex := by
  induction ss generalizing before with
  | nil => exact .nil
  | cons s ss ih =>
    refine .cons (fun t ht hkey => ?_) (ih _)
    -- `s` is itself one of the instances that come before `t`.
    have hcount := count_le_ownRowIndex ht
    rw [← hkey] at hcount
    have hnext : before.count (instanceKey s) + 1 ≤ t.ownRowIndex := by
      simpa [instanceKey] using hcount
    exact hnext

end Specification

/-! ### Table rows of one file -/

namespace Specification

/-- The rows of a specification take the numbers from `base` on, one for each row. -/
theorem row_mem_interval {base : Nat} {spec : Specification} {s : Scenario}
    (h : s ∈ (spec.renumberSpecRows base).renumberOwnRows.scenarios) :
    base ≤ s.specRowIndex ∧ s.specRowIndex < base + spec.rowsSeen.length := by
  rw [scenarios_renumberOwnRows] at h
  have hkey : instanceKey s ∈ (spec.renumberSpecRows base).scenarios.map instanceKey := by
    rw [← map_instanceKey_numberScenarios []]
    exact List.mem_map_of_mem h
  rw [renumberSpecRows, scenarios_mapScenarios, List.map_map] at hkey
  obtain ⟨t, ht, hst⟩ := List.mem_map.mp hkey
  have hrow : base + spec.rowsSeen.idxOf t.specRowIndex = s.specRowIndex :=
    congrArg Prod.fst hst
  have hseen : t.specRowIndex ∈ spec.rowsSeen :=
    List.mem_eraseDups.mpr (List.mem_map_of_mem ht)
  have hlt := List.idxOf_lt_length_of_mem hseen
  omega

end Specification

theorem nextRow_append (fileName : String) (xs ys : List Specification) :
    nextRow fileName (xs ++ ys) = nextRow fileName xs + nextRow fileName ys := by
  induction xs with
  | nil => simp [nextRow]
  | cons spec xs ih => rw [List.cons_append, nextRow, nextRow, ih, Nat.add_assoc]

theorem nextRow_concat (fileName : String) (before : List Specification) (spec : Specification) :
    nextRow fileName (before ++ [spec]) = nextRow fileName before +
      if spec.fileName = fileName then spec.rowsSeen.length else 0 := by
  rw [nextRow_append, nextRow, nextRow, Nat.add_zero]

/-- The specifications in `before` have used up the first numbers of their files. -/
theorem nextRow_le_row {before specs : List Specification} {spec : Specification}
    (hspec : spec ∈ renumberAfter before specs) {s : Scenario} (hs : s ∈ spec.scenarios) :
    nextRow spec.fileName before ≤ s.specRowIndex := by
  induction specs generalizing before with
  | nil => exact absurd hspec List.not_mem_nil
  | cons head specs ih =>
    rcases List.mem_cons.mp hspec with rfl | htail
    · exact (Specification.row_mem_interval hs).1
    · have := ih htail
      rw [nextRow_concat] at this
      omega

/-- Of two specifications of one file, the first has the lower rows. -/
theorem pairwise_renumberAfter (before specs : List Specification) :
    (renumberAfter before specs).Pairwise fun a b => a.fileName = b.fileName →
      ∀ s ∈ a.scenarios, ∀ t ∈ b.scenarios, s.specRowIndex < t.specRowIndex := by
  induction specs generalizing before with
  | nil => exact .nil
  | cons spec specs ih =>
    refine .cons (fun b hb hfile s hs t ht => ?_) (ih _)
    have hfile : spec.fileName = b.fileName := hfile
    -- The interval of `spec` ends where that of `b` begins, or before.
    have hlow := (Specification.row_mem_interval hs).2
    have hhigh := nextRow_le_row hb ht
    rw [nextRow_concat, if_pos hfile, ← hfile] at hhigh
    omega

/-! ### Identities -/

/-- What tells an instance of a scenario apart in a suite: its file, its table row, its
first line, and its number among the instances for these. -/
def Scenario.identity (fileName : String) (s : Scenario) : String × Nat × Nat × Nat :=
  (fileName, s.specRowIndex, s.span.start, s.ownRowIndex)

/-- The identities of the scenarios of a suite, in order. -/
def identities (specs : List Specification) : List (String × Nat × Nat × Nat) :=
  specs.flatMap fun spec => spec.scenarios.map (Scenario.identity spec.fileName)

theorem exists_of_mem_renumberAfter {before specs : List Specification} {spec : Specification}
    (h : spec ∈ renumberAfter before specs) :
    ∃ (source : Specification) (base : Nat), spec = (source.renumberSpecRows base).renumberOwnRows := by
  induction specs generalizing before with
  | nil => exact absurd h List.not_mem_nil
  | cons source specs ih =>
    rcases List.mem_cons.mp h with rfl | htail
    · exact ⟨source, _, rfl⟩
    · exact ih htail

/-- A suite with its rows numbered anew has no identity twice, whatever the numbers
before. -/
theorem nodup_identities_renumberRows (specs : List Specification) :
    (identities (renumberRows specs)).Nodup := by
  rw [identities, List.nodup_flatMap]
  constructor
  · intro spec hspec
    obtain ⟨source, base, rfl⟩ := exists_of_mem_renumberAfter hspec
    rw [Specification.scenarios_renumberOwnRows, List.Nodup, List.pairwise_map]
    refine (Specification.pairwise_numberScenarios _ _).imp fun {s t} hlt heq => ?_
    simp only [Scenario.identity, Prod.mk.injEq] at heq
    obtain ⟨-, hrow, hstart, hown⟩ := heq
    have hkey : Specification.instanceKey s = Specification.instanceKey t :=
      Prod.ext hrow hstart
    exact absurd hown (Nat.ne_of_lt (hlt hkey))
  · refine (pairwise_renumberAfter [] specs).imp fun {a b} hlt x hx hx' => ?_
    obtain ⟨s, hs, rfl⟩ := List.mem_map.mp hx
    obtain ⟨t, ht, hst⟩ := List.mem_map.mp hx'
    simp only [Scenario.identity, Prod.mk.injEq] at hst
    obtain ⟨hfile, hrow, -⟩ := hst
    exact absurd hrow.symm (Nat.ne_of_lt (hlt hfile.symm s hs t ht))

/-- A filter takes identities away and adds none. -/
theorem identities_retainIn_sublist (specs : List Specification)
    (keeps : Specification → Scenario → Bool) :
    (identities (retainIn specs keeps)).Sublist (identities specs) := by
  induction specs with
  | nil => exact .slnil
  | cons spec specs ih =>
    rw [retainIn_cons]
    split
    · simp only [identities, List.flatMap_cons, Specification.scenarios_keep]
      exact .append (List.filter_sublist.map _) ih
    · exact ih.trans (List.sublist_append_right ..)

end Roster

import Roster.Proofs.Filter.Halves

/-!
The filters by lines and by names against the split by a rule.

Neither filter splits anything. Each retains the scenarios that satisfy a condition, and the
filter by names first gives up the names that no scenario of the suite has. A split puts its rule
to one specification after the other, knows nothing of the rest of the suite, and may fail.

* `map_kept_partitionAll` : a suite is split specification by specification, faults included.
* `keptHalves_of_excludes` : a rule that decides every scenario keeps what the condition retains.
* `filters_agree_with_partition` : both filters give what the split by their rule keeps, with or
  without the names that no scenario has.
-/

namespace Roster

/-- What a rule keeps of the specifications, each of them split on its own, less the halves
without scenarios. -/
def keptHalves (rule : Rule) (specs : List Specification) : Except Fault (List Specification) := do
  let halves ← specs.mapM fun spec => partition spec rule
  return (halves.map Halves.kept).filter Specification.hasScenarios

variable {rule : Rule} {specs : List Specification} {spec : Specification}

theorem keptHalves_cons (rule : Rule) (spec : Specification) (specs : List Specification) :
    keptHalves rule (spec :: specs) = do
      let halves ← partition spec rule
      let rest ← keptHalves rule specs
      return if halves.kept.hasScenarios then halves.kept :: rest else rest := by
  simp only [keptHalves, List.mapM_cons, bind_assoc, pure_bind, List.map_cons, List.filter_cons]

/-- Splitting a suite keeps the halves of its specifications, and has the fault of the first one
that does not split. -/
theorem map_kept_partitionAll (rule : Rule) (specs : List Specification) :
    (partitionAll rule specs).map Halves.kept = keptHalves rule specs := by
  induction specs with
  | nil => rfl
  | cons spec specs ih =>
    rw [partitionAll, keptHalves_cons, ← ih]
    cases partition spec rule with
    | error fault => rfl
    | ok halves =>
      cases partitionAll rule specs with
      | error fault => rfl
      | ok rest => rfl

/-! ### Rules that decide -/

section Decide

variable {keeps : Scenario → Bool}

/-- A rule that decides every scenario of a specification splits it. -/
theorem partition_of_excludes
    (h : ∀ s ∈ spec.scenarios, rule.excludes spec s = .ok (!keeps s)) :
    partition spec rule = .ok ⟨spec.keep keeps, spec.keep fun s => !keeps s⟩ := by
  rw [partition_eq_ok_iff]
  refine ⟨fun s hs => ⟨_, h s hs⟩, ?_⟩
  rw [Halves.mk.injEq]
  constructor
  · apply Specification.keep_congr
    intro s hs
    simp [decided, h s hs]
  · apply Specification.keep_congr
    intro s hs
    simp [decided, h s hs]

/-- A rule that decides every scenario of a suite keeps what the condition retains. -/
theorem keptHalves_of_excludes
    (h : ∀ spec ∈ specs, ∀ s ∈ spec.scenarios, rule.excludes spec s = .ok (!keeps s)) :
    keptHalves rule specs = .ok (retain specs keeps) := by
  rw [← map_kept_partitionAll, partitionAll_of_excludes h, retain_eq_retainIn]
  rfl

end Decide

/-! ### Names -/

/-- The names that a scenario of the suite has, as often as they are given. -/
def knownNames (specs : List Specification) (names : List String) : List String :=
  names.filter fun name => name ∈ scenarioHeadings specs

/-- To the scenarios of a suite, the names that none of them has make no difference. -/
theorem isNamed_knownNames {s : Scenario} (hspec : spec ∈ specs) (hs : s ∈ spec.scenarios)
    (names : List String) : s.isNamed (knownNames specs names) = s.isNamed names := by
  have hknown := heading_mem_scenarioHeadings hspec hs
  rw [Bool.eq_iff_iff]
  simp [Scenario.isNamed, knownNames, hknown]

theorem partition_knownNames (hspec : spec ∈ specs) (names : List String) :
    partition spec (.names (knownNames specs names)) = partition spec (.names names) := by
  have hnames : partition spec (.names names) =
      .ok ⟨spec.keep fun s => s.isNamed names, spec.keep fun s => !s.isNamed names⟩ :=
    partition_of_excludes fun _ _ => rfl
  rw [hnames]
  apply partition_of_excludes
  intro s hs
  rw [Rule.excludes, isNamed_knownNames hspec hs]

/-- **The filters by lines and by names agree with the split by their rule.** The halves that the
split of each specification keeps, in order and less those without scenarios, are what the filter
gives. The names that no scenario of the suite has can be given up beforehand: neither the split
of a specification nor the filter keeps other scenarios then. -/
theorem filters_agree_with_partition (specs : List Specification) (lines : List Nat)
    (names : List String) :
    keptHalves (.lines lines) specs = .ok (filterByLines specs lines) ∧
      keptHalves (.names names) specs = .ok (filterByNames specs names).value ∧
      (∀ spec ∈ specs,
        partition spec (.names (knownNames specs names)) = partition spec (.names names)) ∧
      (filterByNames specs (knownNames specs names)).value = (filterByNames specs names).value := by
  refine ⟨keptHalves_of_excludes fun _ _ _ _ => rfl, ?_, ?_, ?_⟩
  · rw [filterByNames_value, ← retain_eq_retainIn]
    exact keptHalves_of_excludes fun _ _ _ _ => rfl
  · intro spec hspec
    exact partition_knownNames hspec names
  · rw [filterByNames_value, filterByNames_value]
    apply retainIn_congr
    intro spec hspec s hs
    exact isNamed_knownNames hspec hs names

end Roster

import Roster.Filter.Partition
import Roster.Proofs.Except

/-!
The halves of a filter.

A filter is described by what it keeps: `retainIn specs keeps` is the suite in which
every specification has the scenarios that `keeps` holds of, and its other items, less
the specifications without scenarios.

* `splitItems_eq_ok_iff`, `partition_eq_ok_iff`, `partitionAll_eq_ok_iff` : splitting
  succeeds when the rule decides every scenario, and the halves are what is retained
  for either verdict.
* `partitionAll_of_excludes` : a rule that decides every scenario splits a suite by its verdicts.
* `filterByTags_eq_ok_iff` : the filter by tags renumbers what it keeps, and only that.
* `retainIn_retainIn` : a filter after a filter is a filter by both conditions.
* `filterByNames_value` : unknown names do not count.
-/

namespace Roster

namespace Specification

variable {spec : Specification} {p q : Scenario → Bool}

/-! ### Keeping scenarios of a specification -/

theorem mem_scenarios {s : Scenario} : s ∈ spec.scenarios ↔ Item.scenario s ∈ spec.items := by
  rw [scenarios, List.mem_filterMap]
  constructor
  · rintro ⟨item, hitem, hs⟩
    cases item with
    | scenario t =>
      obtain rfl : t = s := by simpa [Item.scenario?] using hs
      exact hitem
    | _ => simp [Item.scenario?] at hs
  · intro h
    exact ⟨_, h, rfl⟩

/-- There is a scenario item exactly when there is a scenario. -/
theorem hasScenarios_iff : spec.hasScenarios = true ↔ spec.scenarios ≠ [] := by
  constructor
  · intro h
    obtain ⟨item, hitem, hsome⟩ := List.any_eq_true.mp h
    obtain ⟨s, hs⟩ := Option.isSome_iff_exists.mp hsome
    exact List.ne_nil_of_mem (List.mem_filterMap.mpr ⟨item, hitem, hs⟩)
  · intro h
    obtain ⟨s, hs⟩ := List.exists_mem_of_ne_nil _ h
    exact List.any_eq_true.mpr ⟨_, mem_scenarios.mp hs, rfl⟩

theorem scenarios_keep : (spec.keep p).scenarios = spec.scenarios.filter p := by
  simp only [scenarios, keep, List.filter_filterMap, List.filterMap_filter]
  congr 1
  funext item
  cases h : item.scenario? with
  | none => simp
  | some s => cases hp : p s <;> simp [hp, Option.filter]

/-- Keeping scenarios depends on the scenarios of the specification only. -/
theorem keep_congr (h : ∀ s ∈ spec.scenarios, p s = q s) : spec.keep p = spec.keep q := by
  simp only [keep, mk.injEq, true_and, and_true]
  apply List.filter_congr
  intro item hitem
  cases item with
  | scenario s => exact h s (mem_scenarios.mpr hitem)
  | _ => rfl

/-- Keeping every scenario changes nothing. -/
theorem keep_eq_self (h : ∀ s ∈ spec.scenarios, p s = true) : spec.keep p = spec := by
  have hitems : spec.items.filter (fun item => item.scenario?.all p) = spec.items := by
    refine List.filter_eq_self.mpr fun item hitem => ?_
    cases item with
    | scenario s => exact h s (mem_scenarios.mpr hitem)
    | _ => rfl
  rw [keep, hitems]

theorem keep_keep : (spec.keep p).keep q = spec.keep fun s => p s && q s := by
  simp only [keep, List.filter_filter, mk.injEq, true_and, and_true]
  apply List.filter_congr
  intro item _
  cases item with
  | scenario s => exact Bool.and_comm ..
  | _ => rfl

end Specification

/-! ### Retaining scenarios of a suite -/

/-- The suite in which every specification has the scenarios that `keeps` holds of. -/
def retainIn (specs : List Specification) (keeps : Specification → Scenario → Bool) :
    List Specification :=
  (specs.map fun spec => spec.keep (keeps spec)).filter Specification.hasScenarios

theorem retainIn_nil (keeps : Specification → Scenario → Bool) : retainIn [] keeps = [] :=
  rfl

theorem retainIn_cons (spec : Specification) (specs : List Specification)
    (keeps : Specification → Scenario → Bool) :
    retainIn (spec :: specs) keeps =
      if (spec.keep (keeps spec)).hasScenarios then
        spec.keep (keeps spec) :: retainIn specs keeps
      else retainIn specs keeps :=
  List.filter_cons

theorem retain_eq_retainIn (specs : List Specification) (keeps : Scenario → Bool) :
    retain specs keeps = retainIn specs fun _ => keeps :=
  rfl

theorem retainIn_congr {specs : List Specification} {p q : Specification → Scenario → Bool}
    (h : ∀ spec ∈ specs, ∀ s ∈ spec.scenarios, p spec s = q spec s) :
    retainIn specs p = retainIn specs q := by
  rw [retainIn, retainIn, List.map_congr_left]
  exact fun spec hspec => Specification.keep_congr (h spec hspec)

/-- A condition that holds of every scenario retains a suite without empty specifications. -/
theorem retainIn_eq_self {specs : List Specification} {p : Specification → Scenario → Bool}
    (hhas : ∀ spec ∈ specs, spec.hasScenarios = true)
    (h : ∀ spec ∈ specs, ∀ s ∈ spec.scenarios, p spec s = true) : retainIn specs p = specs := by
  have hkeep : ∀ spec ∈ specs, spec.keep (p spec) = spec :=
    fun spec hspec => Specification.keep_eq_self (h spec hspec)
  rw [retainIn, List.map_congr_left hkeep, List.map_id', List.filter_eq_self.mpr hhas]

/-- A condition that holds of no scenario retains nothing. -/
theorem retainIn_eq_nil {specs : List Specification} {p : Specification → Scenario → Bool}
    (h : ∀ spec ∈ specs, ∀ s ∈ spec.scenarios, p spec s = false) : retainIn specs p = [] := by
  refine List.filter_eq_nil_iff.mpr fun left hleft => ?_
  obtain ⟨spec, hspec, rfl⟩ := List.mem_map.mp hleft
  rw [Specification.hasScenarios_iff, Specification.scenarios_keep, not_not,
    List.filter_eq_nil_iff]
  intro s hs
  rw [h spec hspec s hs]
  exact Bool.false_ne_true

/-- What is retained, in terms of the items: all that are no scenarios, and the scenarios
that the condition holds of. -/
theorem retainIn_eq_filter_items (specs : List Specification)
    (p : Specification → Scenario → Prop) [∀ spec s, Decidable (p spec s)] :
    (retainIn specs fun spec s => p spec s) =
      (specs.map fun spec => { spec with
        items := spec.items.filter fun item => ∀ s ∈ item.scenario?, p spec s }).filter
          fun spec => spec.scenarios ≠ [] := by
  have hkeep : ∀ spec : Specification, (spec.keep fun s => p spec s) =
      { spec with items := spec.items.filter fun item => ∀ s ∈ item.scenario?, p spec s } := by
    intro spec
    simp only [Specification.keep, Specification.mk.injEq, true_and, and_true]
    apply List.filter_congr
    intro item _
    cases item.scenario? <;> simp
  rw [retainIn, List.map_congr_left fun spec _ => hkeep spec]
  apply List.filter_congr
  intro spec _
  rw [Bool.eq_iff_iff, Specification.hasScenarios_iff, decide_eq_true_iff]

/-- A condition that is put to scenarios, and to what stands around the items of a
specification, but not to the items. -/
def IgnoresItems (keeps : Specification → Scenario → Bool) : Prop :=
  ∀ spec items s, keeps { spec with items := items } s = keeps spec s

/-- A filter after a filter keeps what satisfies both conditions. A specification that the
first one drops has nothing for the second one to keep. -/
theorem retainIn_retainIn {p q : Specification → Scenario → Bool} (hq : IgnoresItems q)
    (specs : List Specification) :
    retainIn (retainIn specs p) q = retainIn specs fun spec s => p spec s && q spec s := by
  induction specs with
  | nil => rfl
  | cons spec specs ih =>
    have hkeep : (spec.keep (p spec)).keep (q (spec.keep (p spec))) =
        spec.keep fun s => p spec s && q spec s := by
      rw [show q (spec.keep (p spec)) = q spec from funext fun s => hq spec _ s,
        Specification.keep_keep]
    rw [retainIn_cons, retainIn_cons]
    by_cases hfirst : (spec.keep (p spec)).hasScenarios = true
    · rw [if_pos hfirst, retainIn_cons, hkeep, ih]
    · -- The first filter drops `spec`, so both conditions together leave it nothing.
      have hboth : ¬ (spec.keep fun s => p spec s && q spec s).hasScenarios = true := by
        rw [Specification.hasScenarios_iff, Specification.scenarios_keep] at hfirst ⊢
        intro hne
        obtain ⟨s, hs⟩ := List.exists_mem_of_ne_nil _ hne
        rw [List.mem_filter, Bool.and_eq_true] at hs
        exact hfirst (List.ne_nil_of_mem (List.mem_filter.mpr ⟨hs.1, hs.2.1⟩))
      rw [if_neg hfirst, if_neg hboth, ih]

/-! ### Splitting by a rule -/

/-- `excludes` decides the scenario as `out`. -/
def decided (excludes : Scenario → Except Fault Bool) (out : Bool) (s : Scenario) : Bool :=
  excludes s = .ok out

theorem decided_iff {excludes : Scenario → Except Fault Bool} {out : Bool} {s : Scenario} :
    decided excludes out s = true ↔ excludes s = .ok out :=
  decide_eq_true_iff

theorem splitItems_of_decided {excludes : Scenario → Except Fault Bool} {items : List Item}
    (h : ∀ s, Item.scenario s ∈ items → ∃ out, excludes s = .ok out) :
    splitItems excludes items =
      .ok ⟨items.filter fun item => item.scenario?.all (decided excludes false),
        items.filter fun item => item.scenario?.all (decided excludes true)⟩ := by
  induction items with
  | nil => rfl
  | cons item items ih =>
    have ih := ih fun s hs => h s (List.mem_cons_of_mem _ hs)
    cases item with
    | scenario s =>
      obtain ⟨out, hout⟩ := h s List.mem_cons_self
      simp only [splitItems, Item.scenario?, hout, ih, ok_bind]
      cases out <;> simp [decided, hout]
    | _ => simp [splitItems, Item.scenario?, ih]

theorem decided_of_splitItems {excludes : Scenario → Except Fault Bool} {items : List Item}
    {halves : Halves (List Item)} (h : splitItems excludes items = .ok halves) :
    ∀ s, Item.scenario s ∈ items → ∃ out, excludes s = .ok out := by
  induction items generalizing halves with
  | nil => simp
  | cons item items ih =>
    intro s hs
    cases item with
    | scenario t =>
      simp only [splitItems, Item.scenario?, bind_eq_ok_iff] at h
      obtain ⟨out, hout, rest, hrest, -⟩ := h
      rcases List.mem_cons.mp hs with heq | hs
      · cases heq
        exact ⟨out, hout⟩
      · exact ih hrest s hs
    | _ =>
      simp only [splitItems, Item.scenario?, bind_eq_ok_iff] at h
      obtain ⟨rest, hrest, -⟩ := h
      exact ih hrest s (by simpa using hs)

/-- Items split when every scenario among them is decided. Either half has the scenarios
of one verdict, and all other items. -/
theorem splitItems_eq_ok_iff {excludes : Scenario → Except Fault Bool} {items : List Item}
    {halves : Halves (List Item)} :
    splitItems excludes items = .ok halves ↔
      (∀ s, Item.scenario s ∈ items → ∃ out, excludes s = .ok out) ∧
        halves = ⟨items.filter fun item => item.scenario?.all (decided excludes false),
          items.filter fun item => item.scenario?.all (decided excludes true)⟩ := by
  constructor
  · intro h
    have hall := decided_of_splitItems h
    rw [splitItems_of_decided hall] at h
    exact ⟨hall, (Except.ok.inj h).symm⟩
  · rintro ⟨hall, rfl⟩
    exact splitItems_of_decided hall

theorem partition_eq_ok_iff {rule : Rule} {spec : Specification}
    {halves : Halves Specification} :
    partition spec rule = .ok halves ↔
      (∀ s ∈ spec.scenarios, ∃ out, rule.excludes spec s = .ok out) ∧
        halves = ⟨spec.keep (decided (rule.excludes spec) false),
          spec.keep (decided (rule.excludes spec) true)⟩ := by
  simp only [partition, bind_eq_ok_iff, splitItems_eq_ok_iff, Specification.mem_scenarios]
  constructor
  · rintro ⟨items, ⟨hall, rfl⟩, hhalves⟩
    exact ⟨hall, (Except.ok.inj hhalves).symm⟩
  · rintro ⟨hall, rfl⟩
    exact ⟨_, ⟨hall, rfl⟩, rfl⟩

/-- A suite splits when the rule decides every scenario of it. -/
theorem partitionAll_eq_ok_iff {rule : Rule} {specs : List Specification}
    {halves : Halves (List Specification)} :
    partitionAll rule specs = .ok halves ↔
      (∀ spec ∈ specs, ∀ s ∈ spec.scenarios, ∃ out, rule.excludes spec s = .ok out) ∧
        halves = ⟨retainIn specs fun spec => decided (rule.excludes spec) false,
          retainIn specs fun spec => decided (rule.excludes spec) true⟩ := by
  induction specs generalizing halves with
  | nil => simp [partitionAll, retainIn_nil, eq_comm]
  | cons spec specs ih =>
    simp only [partitionAll, bind_eq_ok_iff, partition_eq_ok_iff, ih, retainIn_cons,
      List.forall_mem_cons]
    constructor
    · rintro ⟨_, ⟨hspec, rfl⟩, _, ⟨hspecs, rfl⟩, hhalves⟩
      exact ⟨⟨hspec, hspecs⟩, (Except.ok.inj hhalves).symm⟩
    · rintro ⟨⟨hspec, hspecs⟩, rfl⟩
      exact ⟨_, ⟨hspec, rfl⟩, _, ⟨hspecs, rfl⟩, rfl⟩

/-- A rule that decides every scenario splits a suite by its verdicts. -/
theorem partitionAll_of_excludes {specs : List Specification} {rule : Rule}
    {keeps : Specification → Scenario → Bool}
    (h : ∀ spec ∈ specs, ∀ s ∈ spec.scenarios, rule.excludes spec s = .ok (!keeps spec s)) :
    partitionAll rule specs =
      .ok ⟨retainIn specs keeps, retainIn specs fun spec s => !keeps spec s⟩ := by
  rw [partitionAll_eq_ok_iff]
  refine ⟨fun spec hspec s hs => ⟨_, h spec hspec s hs⟩, ?_⟩
  rw [Halves.mk.injEq]
  constructor
  · apply retainIn_congr
    intro spec hspec s hs
    simp [decided, h spec hspec s hs]
  · apply retainIn_congr
    intro spec hspec s hs
    simp [decided, h spec hspec s hs]

theorem filterByTags_eq_ok_iff {specs : List Specification} {raw : String}
    {suiteTags : List String} {halves : Halves (List Specification)} :
    filterByTags specs raw suiteTags = .ok halves ↔
      ∃ rule, TagRule.make raw suiteTags = .ok rule ∧
        ∃ split, partitionAll (.tags rule) specs = .ok split ∧
          halves = { split with kept := renumberRows split.kept } := by
  simp only [filterByTags, bind_eq_ok_iff, Except.ok.injEq, eq_comm (b := halves)]

/-! ### Lines and names -/

theorem heading_mem_scenarioHeadings {specs : List Specification} {spec : Specification}
    {s : Scenario} (hspec : spec ∈ specs) (hs : s ∈ spec.scenarios) :
    s.heading ∈ scenarioHeadings specs :=
  List.mem_flatMap.mpr ⟨spec, hspec, List.mem_map_of_mem hs⟩

/-- Names that no scenario has do not count. -/
theorem filterByNames_value (specs : List Specification) (names : List String) :
    (filterByNames specs names).value = retainIn specs fun _ s => s.isNamed names := by
  refine retainIn_congr fun spec hspec s hs => ?_
  have hexists := heading_mem_scenarioHeadings hspec hs
  rw [Bool.eq_iff_iff]
  simp [Scenario.isNamed, hexists]

end Roster

import Roster.Proofs.Filter.Admission
import Roster.Proofs.Filter.Halves
import Roster.Proofs.First

/-!
Where the filter by tags fails.

A suite is split scenario by scenario, and the first fault ends the split
(`partitionAll_eq_error_iff`). A rule by tags has a fault for a scenario at which it stops:
it reads a malformed expression that the scenario or its specification carries, all before
that one being true (`TagRule.StopsAt`).

* `filterByTags_refuses_iff` : the filter is refused exactly when the expression of the run
  is malformed or the rule stops at a scenario.
* `malformed_not_always_read` : a malformed expression on a scenario is not enough.
-/

namespace Roster

open Roster.Tag

/-! ### The scenarios of a suite -/

/-- The scenarios of a suite, in order, each with its specification. -/
def suiteScenarios (specs : List Specification) : List (Specification × Scenario) :=
  specs.flatMap fun spec => spec.scenarios.map (Prod.mk spec)

theorem suiteScenarios_cons (spec : Specification) (specs : List Specification) :
    suiteScenarios (spec :: specs) =
      spec.scenarios.map (Prod.mk spec) ++ suiteScenarios specs :=
  rfl

theorem mem_suiteScenarios {specs : List Specification} {entry : Specification × Scenario} :
    entry ∈ suiteScenarios specs ↔ entry.1 ∈ specs ∧ entry.2 ∈ entry.1.scenarios := by
  simp only [suiteScenarios, List.mem_flatMap, List.mem_map]
  constructor
  · rintro ⟨spec, hspec, s, hs, rfl⟩
    exact ⟨hspec, hs⟩
  · rintro ⟨hspec, hs⟩
    exact ⟨entry.1, hspec, entry.2, hs, rfl⟩

/-- The scenarios of a suite that a filter has left. -/
theorem suiteScenarios_retainIn (specs : List Specification)
    (keeps : Specification → Scenario → Bool) :
    suiteScenarios (retainIn specs keeps) =
      ((suiteScenarios specs).filter fun entry => keeps entry.1 entry.2).map fun entry =>
        (entry.1.keep (keeps entry.1), entry.2) := by
  induction specs with
  | nil => rfl
  | cons spec specs ih =>
    have hspec : (spec.keep (keeps spec)).scenarios.map (Prod.mk (spec.keep (keeps spec))) =
        ((spec.scenarios.map (Prod.mk spec)).filter fun entry => keeps entry.1 entry.2).map
          fun entry => (entry.1.keep (keeps entry.1), entry.2) := by
      rw [Specification.scenarios_keep, List.filter_map, List.map_map]
      rfl
    rw [retainIn_cons, suiteScenarios_cons, List.filter_append, List.map_append, ← hspec, ← ih]
    by_cases hhas : (spec.keep (keeps spec)).hasScenarios = true
    · rw [if_pos hhas, suiteScenarios_cons]
    · -- A specification that is dropped has no scenarios left.
      rw [if_neg hhas]
      rw [Specification.hasScenarios_iff, not_not] at hhas
      rw [hhas, List.map_nil, List.nil_append]

/-! ### Splitting by a rule -/

theorem splitItems_eq_error_iff {excludes : Scenario → Except Fault Bool} {items : List Item}
    {fault : Fault} : splitItems excludes items = .error fault ↔
      First (fun s fault => excludes s = .error fault) (items.filterMap Item.scenario?) fault := by
  induction items with
  | nil => simp [splitItems, not_first_nil]
  | cons item items ih =>
    cases item with
    | scenario s =>
      rw [show (Item.scenario s :: items).filterMap Item.scenario? =
        s :: items.filterMap Item.scenario? from rfl, first_cons, forall_ne_error_iff, ← ih]
      simp only [splitItems, Item.scenario?, bind_eq_error_iff, reduceCtorEq, and_false,
        exists_false, or_false, exists_and_right]
    | _ =>
      simp only [splitItems, Item.scenario?, bind_eq_error_iff, reduceCtorEq, and_false,
        exists_false, or_false]
      exact ih

theorem partition_eq_error_iff {rule : Rule} {spec : Specification} {fault : Fault} :
    partition spec rule = .error fault ↔
      First (fun s fault => rule.excludes spec s = .error fault) spec.scenarios fault := by
  simp only [partition, bind_eq_error_iff, reduceCtorEq, and_false, exists_false, or_false,
    splitItems_eq_error_iff, Specification.scenarios]

/-- A suite does not split when the rule fails on a scenario of it; the fault is that of
the first one. -/
theorem partitionAll_eq_error_iff {rule : Rule} {specs : List Specification} {fault : Fault} :
    partitionAll rule specs = .error fault ↔
      First (fun entry fault => rule.excludes entry.1 entry.2 = .error fault)
        (suiteScenarios specs) fault := by
  induction specs with
  | nil => simp [partitionAll, suiteScenarios, not_first_nil]
  | cons spec specs ih =>
    have hspec : (∃ halves, partition spec rule = .ok halves) ↔
        ∀ s ∈ spec.scenarios, ∃ out, rule.excludes spec s = .ok out := by
      simp only [partition_eq_ok_iff, exists_and_left, exists_eq, and_true]
    rw [suiteScenarios_cons, first_append, first_map, List.forall_mem_map, ← ih]
    simp only [partitionAll, bind_eq_error_iff, partition_eq_error_iff, reduceCtorEq, and_false,
      exists_false, or_false, exists_and_right, hspec, forall_ne_error_iff]

/-! ### Malformed expressions -/

theorem read_eq_error_iff {raw : String} {fault : Fault} :
    Expression.read raw = .error fault ↔
      ∃ reason, Expression.parse raw = .error reason ∧
        fault = .tagExpression raw reason.message := by
  rw [Expression.read]
  cases Expression.parse raw with
  | error reason => simp [Except.mapError, eq_comm]
  | ok e => simp [Except.mapError]

/-- The fault of the malformed expression at which `stops` says that a scenario stops. -/
def FaultOf (stops : Specification → Scenario → String → Malformed → Prop)
    (entry : Specification × Scenario) (fault : Fault) : Prop :=
  ∃ raw reason, stops entry.1 entry.2 raw reason ∧ fault = .tagExpression raw reason.message

section FaultOf

variable {stops : Specification → Scenario → String → Malformed → Prop}
  {specs : List Specification}

/-- The first fault of a suite is that of the first scenario that stops. -/
theorem first_faultOf_iff {fault : Fault} :
    First (FaultOf stops) (suiteScenarios specs) fault ↔
      ∃ before spec s after raw reason,
        suiteScenarios specs = before ++ (spec, s) :: after ∧
        (∀ entry ∈ before, ∀ raw reason, ¬ stops entry.1 entry.2 raw reason) ∧
        stops spec s raw reason ∧ fault = .tagExpression raw reason.message := by
  constructor
  · rintro ⟨before, entry, after, hsplit, hbefore, raw, reason, hstops, rfl⟩
    refine ⟨before, entry.1, entry.2, after, raw, reason, hsplit, ?_, hstops, rfl⟩
    intro other hother raw reason hstops
    exact hbefore other hother _ ⟨raw, reason, hstops, rfl⟩
  · rintro ⟨before, spec, s, after, raw, reason, hsplit, hbefore, hstops, rfl⟩
    refine ⟨before, (spec, s), after, hsplit, ?_, raw, reason, hstops, rfl⟩
    rintro other hother _ ⟨raw, reason, hstops, -⟩
    exact hbefore other hother raw reason hstops

theorem exists_first_faultOf_iff :
    (∃ fault, First (FaultOf stops) (suiteScenarios specs) fault) ↔
      ∃ spec ∈ specs, ∃ s ∈ spec.scenarios, ∃ raw reason, stops spec s raw reason := by
  rw [exists_first_iff]
  constructor
  · rintro ⟨entry, hentry, -, raw, reason, hstops, -⟩
    obtain ⟨hspec, hs⟩ := mem_suiteScenarios.mp hentry
    exact ⟨entry.1, hspec, entry.2, hs, raw, reason, hstops⟩
  · rintro ⟨spec, hspec, s, hs, raw, reason, hstops⟩
    exact ⟨(spec, s), mem_suiteScenarios.mpr ⟨hspec, hs⟩, _, raw, reason, hstops, rfl⟩

end FaultOf

namespace TagRule

theorem make_eq_error_iff {expression : String} {suiteTags : List String} {fault : Fault} :
    make expression suiteTags = .error fault ↔ Expression.read expression = .error fault := by
  simp [make, bind_eq_error_iff, pure, Except.pure]

/-- A carried expression is read when those before it hold. -/
theorem carriedHold_cons_eq_error_iff {names raws : List String} {raw : String} {fault : Fault} :
    carriedHold (.ofList names) (raw :: raws) = .error fault ↔
      Expression.read raw = .error fault ∨
        Tag.evaluate raw names = .ok true ∧ carriedHold (.ofList names) raws = .error fault := by
  rw [carriedHold, bind_eq_error_iff, evaluate_eq_ok_iff]
  apply or_congr_right
  constructor
  · rintro ⟨e, hread, hrest⟩
    split at hrest
    · rename_i hholds
      exact ⟨⟨e, hread, hholds⟩, hrest⟩
    · simp at hrest
  · rintro ⟨⟨e, hread, hholds⟩, hrest⟩
    exact ⟨e, hread, by rwa [if_pos hholds]⟩

/-- The expression of a specification is read before that of a scenario. -/
theorem carriedHold_toList_eq_error_iff {names : List String} {outer inner : Option String}
    {fault : Fault} :
    carriedHold (.ofList names) (outer.toList ++ inner.toList) = .error fault ↔
      (∃ raw ∈ outer, Expression.read raw = .error fault) ∨
        (∀ raw ∈ outer, Tag.evaluate raw names = .ok true) ∧
          ∃ raw ∈ inner, Expression.read raw = .error fault := by
  have hnil : carriedHold (.ofList names) [] = .ok true := rfl
  cases outer <;> cases inner <;> simp [carriedHold_cons_eq_error_iff, hnil]

/-- The rule stops at a scenario: the expression of the run holds on its tags, and an
expression that it carries is malformed and is read. That of the specification is read
before that of the scenario, which is read only if the former holds. -/
def StopsAt (rule : TagRule) (spec : Specification) (s : Scenario) (raw : String)
    (reason : Malformed) : Prop :=
  rule.expression.matchesTags (rule.tagUniverse spec s) = true ∧
    Expression.parse raw = .error reason ∧
      (spec.inherited = some raw ∨
        (∀ outer ∈ spec.inherited, Tag.evaluate outer (rule.tagNames spec s) = .ok true) ∧
          s.inherited = some raw)

theorem admits_eq_error_iff {rule : TagRule} {spec : Specification} {s : Scenario}
    {fault : Fault} :
    rule.admits spec s = .error fault ↔ FaultOf rule.StopsAt (spec, s) fault := by
  rw [admits, FaultOf]
  by_cases hrun : rule.expression.matchesTags (rule.tagUniverse spec s) = true
  · rw [if_pos hrun, tagUniverse, carriedHold_toList_eq_error_iff]
    simp only [read_eq_error_iff]
    constructor
    · rintro (⟨raw, houter, reason, hraw, rfl⟩ | ⟨hhold, raw, hinner, reason, hraw, rfl⟩)
      · exact ⟨raw, reason, ⟨hrun, hraw, .inl houter⟩, rfl⟩
      · exact ⟨raw, reason, ⟨hrun, hraw, .inr ⟨hhold, hinner⟩⟩, rfl⟩
    · rintro ⟨raw, reason, ⟨-, hraw, houter | ⟨hhold, hinner⟩⟩, rfl⟩
      · exact .inl ⟨raw, houter, reason, hraw, rfl⟩
      · exact .inr ⟨hhold, raw, hinner, reason, hraw, rfl⟩
  · rw [if_neg hrun]
    simp [StopsAt, hrun]

end TagRule

theorem Rule.tags_excludes_eq_error_iff {rule : TagRule} {spec : Specification} {s : Scenario}
    {fault : Fault} :
    (Rule.tags rule).excludes spec s = .error fault ↔ rule.admits spec s = .error fault := by
  rw [Rule.excludes, map_eq_error_iff]

/-- The filter by tags fails when the expression of the run is malformed, and when the
rule stops at a scenario. Of several such scenarios the first decides. -/
theorem filterByTags_eq_error_iff {specs : List Specification} {expression : String}
    {suiteTags : List String} {fault : Fault} :
    filterByTags specs expression suiteTags = .error fault ↔
      Expression.read expression = .error fault ∨
        ∃ rule, TagRule.make expression suiteTags = .ok rule ∧
          First (FaultOf rule.StopsAt) (suiteScenarios specs) fault := by
  simp only [filterByTags, bind_eq_error_iff, reduceCtorEq, and_false, exists_false, or_false,
    partitionAll_eq_error_iff, TagRule.make_eq_error_iff, Rule.tags_excludes_eq_error_iff,
    TagRule.admits_eq_error_iff]

/-- **A malformed expression is a fault where it is read.** The filter by tags is refused for
a malformed expression exactly when that of the run is malformed, or when the rule stops at
a scenario. A malformed expression on a scenario that the expression of the run excludes,
or that its specification's excludes, is not read. -/
theorem filterByTags_refuses_iff (specs : List Specification) (expression : String)
    (suiteTags : List String) :
    (∃ raw reason, filterByTags specs expression suiteTags =
        .error (.tagExpression raw reason)) ↔
      (∃ reason, Expression.parse expression = .error reason) ∨
        ∃ rule, TagRule.make expression suiteTags = .ok rule ∧
          ∃ spec ∈ specs, ∃ s ∈ spec.scenarios, ∃ raw reason,
            rule.StopsAt spec s raw reason := by
  constructor
  · rintro ⟨raw, reason, hfault⟩
    rcases filterByTags_eq_error_iff.mp hfault with hread | ⟨rule, hrule, hfirst⟩
    · obtain ⟨reason, hparse, -⟩ := read_eq_error_iff.mp hread
      exact .inl ⟨reason, hparse⟩
    · exact .inr ⟨rule, hrule, exists_first_faultOf_iff.mp ⟨_, hfirst⟩⟩
  · rintro (⟨reason, hparse⟩ | ⟨rule, hrule, hstops⟩)
    · have hread := read_eq_error_iff.mpr ⟨reason, hparse, rfl⟩
      exact ⟨expression, _, filterByTags_eq_error_iff.mpr (.inl hread)⟩
    · obtain ⟨fault, hfirst⟩ := exists_first_faultOf_iff.mpr hstops
      obtain ⟨-, -, -, -, raw, reason, -, -, -, rfl⟩ := first_faultOf_iff.mp hfirst
      exact ⟨raw, _, filterByTags_eq_error_iff.mpr (.inr ⟨rule, hrule, hfirst⟩)⟩

namespace Sample

/-- A specification with one scenario, whose expression lacks a parenthesis. -/
def unbalanced : Specification :=
  { heading := "Accounts", fileName := "accounts.spec",
    items := [.scenario { heading := "Log in", span := ⟨2, 4⟩, inherited := some "(smoke" }] }

end Sample

/-- A malformed expression on a scenario or its specification may go unread: here the
expression of the run excludes the scenario first. -/
theorem malformed_not_always_read :
    ¬ ∀ specs expression suiteTags,
      (∃ spec ∈ specs, ∃ s ∈ spec.scenarios, ∃ raw reason,
        Expression.parse raw = .error reason ∧
          (s.inherited = some raw ∨ spec.inherited = some raw)) →
      ∃ raw reason, filterByTags specs expression suiteTags =
        .error (.tagExpression raw reason) := by
  intro hread
  have hparse : Expression.parse "(smoke" = .error .parentheses := by
    decide +kernel
  obtain ⟨raw, reason, hfault⟩ := hread [Sample.unbalanced] "nightly" []
    ⟨_, List.mem_singleton_self _, _, List.mem_singleton_self _, _, _, hparse, .inl rfl⟩
  have hran : (filterByTags [Sample.unbalanced] "nightly" []).map (fun halves =>
      (halves.kept, halves.excluded)) = .ok ([], [Sample.unbalanced]) := by
    decide +kernel
  rw [hfault] at hran
  simp [Except.map] at hran

end Roster

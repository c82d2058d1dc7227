import Roster.Proofs.Outcome.Summary

/-!
Scenario outcomes in batches.

Outcomes may be folded into the outcome of a specification in several calls. All that is
kept there adds up, but the memory of the first lines that are counted does not outlast a
call. So a scenario that counts once is counted again in every batch that has an instance
of it (`addOutcomes_batches`), and batches may count more scenarios than there are
(`batches_count_instances_again`).
-/

namespace Roster.SpecOutcome

theorem rowsWhere_append (p : ScenarioOutcome → Bool) (xs ys : List ScenarioOutcome) :
    rowsWhere p (xs ++ ys) = rowsWhere p xs ++ rowsWhere p ys := by
  simp [rowsWhere]

/-- Two batches count the scenarios that they share twice. -/
theorem newScenarios_add (xs ys : List ScenarioOutcome) :
    newScenarios [] xs + newScenarios [] ys =
      newScenarios [] (xs ++ ys) + (onceStarts xs ∩ onceStarts ys).card := by
  have hcard := Finset.card_union_add_card_inter (onceStarts xs) (onceStarts ys)
  simp only [newScenarios, List.toFinset_nil, Finset.sdiff_empty, onceStarts_append,
    List.countP_append]
  omega

/-- No line starts scenarios of two batches that count once. -/
theorem disjoint_onceStarts_iff {xs ys : List ScenarioOutcome} :
    Disjoint (onceStarts xs) (onceStarts ys) ↔
      ∀ x ∈ xs, ∀ y ∈ ys, isCountedOnce x = true → isCountedOnce y = true →
        x.span.start ≠ y.span.start := by
  have hmem : ∀ os line, line ∈ onceStarts os ↔
      ∃ o ∈ os, isCountedOnce o = true ∧ o.span.start = line := by
    intro os line
    simp only [onceStarts, List.mem_toFinset, List.mem_map, List.mem_filter, and_assoc]
  rw [Finset.disjoint_left]
  constructor
  · intro hdisjoint x hx y hy hxonce hyonce heq
    exact hdisjoint ((hmem xs _).mpr ⟨x, hx, hxonce, rfl⟩)
      ((hmem ys _).mpr ⟨y, hy, hyonce, heq.symm⟩)
  · intro hdiffer line hxs hys
    obtain ⟨x, hx, hxonce, hxline⟩ := (hmem xs line).mp hxs
    obtain ⟨y, hy, hyonce, hyline⟩ := (hmem ys line).mp hys
    exact hdiffer x hx y hy hxonce hyonce (hxline.trans hyline.symm)

/-- **Batches add up, but for the scenarios that they share.** Two batches folded in one after
the other give what both give at once, in every field but the count of scenarios. That is
greater by the number of first lines of which both have scenarios that count once, so all is
the same exactly when there is none. -/
theorem addOutcomes_batches (r : SpecOutcome) (xs ys : List ScenarioOutcome) :
    ((r.addOutcomes xs).addOutcomes ys =
      { r.addOutcomes (xs ++ ys) with
        scenarioCount := (r.addOutcomes (xs ++ ys)).scenarioCount +
          (onceStarts xs ∩ onceStarts ys).card }) ∧
    ((r.addOutcomes xs).addOutcomes ys = r.addOutcomes (xs ++ ys) ↔
      ∀ x ∈ xs, ∀ y ∈ ys, isCountedOnce x = true → isCountedOnce y = true →
        x.span.start ≠ y.span.start) := by
  have hbatches : (r.addOutcomes xs).addOutcomes ys =
      { r.addOutcomes (xs ++ ys) with
        scenarioCount := (r.addOutcomes (xs ++ ys)).scenarioCount +
          (onceStarts xs ∩ onceStarts ys).card } := by
    simp only [addOutcomes, addFrom_eq, newScenarios_add, rowsWhere_append, List.map_append,
      List.countP_append, List.any_append, List.sum_append_nat, List.append_assoc, Bool.or_assoc,
      Nat.add_assoc]
  refine ⟨hbatches, ?_⟩
  rw [← disjoint_onceStarts_iff, Finset.disjoint_iff_inter_eq_empty, ← Finset.card_eq_zero]
  constructor
  · intro hsame
    have hcount := congrArg SpecOutcome.scenarioCount (hbatches.symm.trans hsame)
    exact Nat.add_eq_left.mp hcount
  · intro hnone
    rw [hbatches, hnone, Nat.add_zero]

/-- Batches may count the instances of one scenario as several scenarios: here each of two
batches has one instance, for a row of the specification's table. -/
theorem batches_count_instances_again :
    ¬ ∀ (r : SpecOutcome) (xs ys : List ScenarioOutcome),
      (r.addOutcomes xs).addOutcomes ys = r.addOutcomes (xs ++ ys) := by
  intro hsame
  let row (index : Nat) : ScenarioOutcome :=
    { heading := "Driven", span := ⟨5, 9⟩, time := 10, specRowIndex := index,
      isSpecDriven := true }
  have hcount := congrArg SpecOutcome.scenarioCount (hsame {} [row 0] [row 1])
  exact absurd hcount (by decide)

end Roster.SpecOutcome

import Mathlib.Algebra.Ring.Nat
import Mathlib.Data.Finset.Card
import Roster.Outcome.Spec

/-!
What folding scenario outcomes comes to.

Folding takes one outcome after another, with a memory of the first lines that are counted
already. `addFrom_eq` says what it comes to, field by field: items, rows, times and counts
are those of the whole list, and the scenarios that count once count as many as they have
first lines that the memory lacks (`newScenarios`). A call starts without a memory, which
gives the totals of `addOutcomes_totals`.
-/

namespace Roster.SpecOutcome

variable {o : ScenarioOutcome} {os : List ScenarioOutcome} {counted : List Nat}

/-! ### Counting scenarios -/

/-- The first lines of the scenarios that count once. -/
def onceStarts (os : List ScenarioOutcome) : Finset Nat :=
  ((os.filter isCountedOnce).map fun o => o.span.start).toFinset

theorem onceStarts_cons_of_once (h : isCountedOnce o = true) :
    onceStarts (o :: os) = insert o.span.start (onceStarts os) := by
  simp [onceStarts, h]

theorem onceStarts_cons_of_each (h : ¬ isCountedOnce o = true) :
    onceStarts (o :: os) = onceStarts os := by
  simp [onceStarts, h]

theorem onceStarts_append (xs ys : List ScenarioOutcome) :
    onceStarts (xs ++ ys) = onceStarts xs ∪ onceStarts ys := by
  simp [onceStarts, List.toFinset_append]

/-- How many scenarios there are in some outcomes, less those that start on a line of
`counted` and count once. -/
def newScenarios (counted : List Nat) (os : List ScenarioOutcome) : Nat :=
  (os.countP fun o => !isCountedOnce o) + (onceStarts os \ counted.toFinset).card

theorem newScenarios_cons_of_each (h : ¬ isCountedOnce o = true) :
    newScenarios counted (o :: os) = newScenarios counted os + 1 := by
  rw [newScenarios, newScenarios, onceStarts_cons_of_each h, List.countP_cons_of_pos (by simp [h])]
  omega

/-- The first of the instances of a scenario counts, and its line is counted from then on. -/
theorem newScenarios_cons_of_new (h : isCountedOnce o = true) (hnew : o.span.start ∉ counted) :
    newScenarios counted (o :: os) = newScenarios (o.span.start :: counted) os + 1 := by
  have hsplit : onceStarts (o :: os) \ counted.toFinset =
      insert o.span.start (onceStarts os \ (o.span.start :: counted).toFinset) := by
    rw [onceStarts_cons_of_once h]
    ext line
    by_cases hline : line = o.span.start
    · simp [hline, hnew]
    · simp [hline]
  rw [newScenarios, newScenarios, hsplit, Finset.card_insert_of_notMem (by simp),
    List.countP_cons_of_neg (by simp [h])]
  omega

theorem newScenarios_cons_of_counted (h : isCountedOnce o = true)
    (hold : o.span.start ∈ counted) :
    newScenarios counted (o :: os) = newScenarios (o.span.start :: counted) os := by
  have hmem : o.span.start ∈ counted.toFinset := List.mem_toFinset.mpr hold
  have hsame : onceStarts (o :: os) \ counted.toFinset =
      onceStarts os \ (o.span.start :: counted).toFinset := by
    rw [onceStarts_cons_of_once h, Finset.insert_sdiff_of_mem _ hmem, List.toFinset_cons,
      Finset.insert_eq_of_mem hmem]
  rw [newScenarios, newScenarios, hsame, List.countP_cons_of_neg (by simp [h])]

/-! ### Folding -/

/-- The table rows of the outcomes that `p` holds of. -/
def rowsWhere (p : ScenarioOutcome → Bool) (os : List ScenarioOutcome) : List Nat :=
  (os.filter p).flatMap rowOf

theorem rowsWhere_cons (p : ScenarioOutcome → Bool) :
    rowsWhere p (o :: os) = (if p o then rowOf o else []) ++ rowsWhere p os := by
  cases h : p o <;> simp [rowsWhere, h]

/-- What one outcome comes to. -/
theorem addOne_eq (r : SpecOutcome) (isNew : Bool) (o : ScenarioOutcome) :
    (((r.addTime o.time).countScenario isNew).addStatus o).addItems [o.toItem] =
      { r with
        items := r.items ++ [o.toItem]
        scenarioCount := r.scenarioCount + if isNew then 1 else 0
        failedCount := r.failedCount + if o.isFailed then 1 else 0
        skippedCount := r.skippedCount + if o.isSkipped then 1 else 0
        isFailed := r.isFailed || o.isFailed
        failedRows := r.failedRows ++ if o.isFailed then rowOf o else []
        skippedRows := r.skippedRows ++ if o.isSkipped then rowOf o else []
        time := r.time + o.time } := by
  cases hstatus : o.status <;> cases isNew <;>
    simp [addTime, countScenario, addStatus, addItems, ScenarioOutcome.isFailed,
      ScenarioOutcome.isSkipped, hstatus]

/-- The count of scenarios goes with the memory from one outcome to the next. -/
theorem newScenarios_cons (counted : List Nat) (o : ScenarioOutcome) (os : List ScenarioOutcome) :
    newScenarios counted (o :: os) =
      (if !(isCountedOnce o && counted.contains o.span.start) then 1 else 0) +
        newScenarios (if isCountedOnce o then o.span.start :: counted else counted) os := by
  by_cases honce : isCountedOnce o = true
  · by_cases hold : o.span.start ∈ counted
    · simp [newScenarios_cons_of_counted honce hold, honce, hold]
    · simp [newScenarios_cons_of_new honce hold, honce, hold, Nat.add_comm]
  · simp [newScenarios_cons_of_each honce, honce, Nat.add_comm]

/-- What outcomes come to. -/
theorem addFrom_eq (counted : List Nat) (r : SpecOutcome) (os : List ScenarioOutcome) :
    addFrom counted r os =
      { r with
        items := r.items ++ os.map ScenarioOutcome.toItem
        scenarioCount := r.scenarioCount + newScenarios counted os
        failedCount := r.failedCount + os.countP ScenarioOutcome.isFailed
        skippedCount := r.skippedCount + os.countP ScenarioOutcome.isSkipped
        isFailed := r.isFailed || os.any ScenarioOutcome.isFailed
        failedRows := r.failedRows ++ rowsWhere ScenarioOutcome.isFailed os
        skippedRows := r.skippedRows ++ rowsWhere ScenarioOutcome.isSkipped os
        time := r.time + (os.map ScenarioOutcome.time).sum } := by
  induction os generalizing counted r with
  | nil => simp [addFrom, newScenarios, onceStarts, rowsWhere]
  | cons o os ih =>
    have hcount : ∀ p : ScenarioOutcome → Bool,
        (o :: os).countP p = (if p o then 1 else 0) + os.countP p := by
      intro p
      rw [List.countP_cons, Nat.add_comm]
    simp only [addFrom, addOne_eq, ih, newScenarios_cons, rowsWhere_cons, hcount, List.any_cons,
      List.map_cons, List.sum_cons, List.append_assoc, List.singleton_append, Bool.or_assoc,
      Nat.add_assoc]

/-! ### One call -/

theorem rowsWhere_eq_map (p : ScenarioOutcome → Bool) (os : List ScenarioOutcome) :
    rowsWhere p os =
      (os.filter fun o => p o && o.isSpecDriven).map ScenarioOutcome.specRowIndex := by
  induction os with
  | nil => rfl
  | cons o os ih =>
    rw [rowsWhere_cons, ih]
    cases hp : p o with
    | false => simp [hp]
    | true =>
      cases hdriven : o.isSpecDriven with
      | false => simp [hp, hdriven, rowOf]
      | true => simp [hp, hdriven, rowOf]

/-- **What one call adds up.** Times, failures and skips are those of the whole list, and so
are the items that are shown. Of the outcomes that the specification's table drives, and no
table of the scenario, those that start on one line count as one scenario; every other one
counts by itself. The rows of failures and skips are those that the specification's table
drives. All else stays as it was. -/
theorem addOutcomes_totals (r : SpecOutcome) (os : List ScenarioOutcome) :
    r.addOutcomes os =
      { r with
        items := r.items ++ os.map ScenarioOutcome.toItem
        scenarioCount := r.scenarioCount +
          ((os.countP fun o => !(o.isSpecDriven && !o.isOwnDriven)) +
            ((os.filter fun o => o.isSpecDriven && !o.isOwnDriven).map
              fun o => o.span.start).toFinset.card)
        failedCount := r.failedCount + os.countP fun o => o.status == .failed
        skippedCount := r.skippedCount + os.countP fun o => o.status == .skipped
        isFailed := r.isFailed || os.any fun o => o.status == .failed
        failedRows := r.failedRows ++
          (os.filter fun o => o.status == .failed && o.isSpecDriven).map
            ScenarioOutcome.specRowIndex
        skippedRows := r.skippedRows ++
          (os.filter fun o => o.status == .skipped && o.isSpecDriven).map
            ScenarioOutcome.specRowIndex
        time := r.time + (os.map ScenarioOutcome.time).sum } := by
  have hscenarios : newScenarios [] os =
      (os.countP fun o => !(o.isSpecDriven && !o.isOwnDriven)) +
        ((os.filter fun o => o.isSpecDriven && !o.isOwnDriven).map
          fun o => o.span.start).toFinset.card := by
    rw [newScenarios, List.toFinset_nil, Finset.sdiff_empty]
    rfl
  rw [addOutcomes, addFrom_eq, hscenarios, rowsWhere_eq_map, rowsWhere_eq_map]
  rfl

-- Three rows of one scenario, of which one fails, are one scenario with one failure.
example :
    let row (index : Nat) (status : Status) : ScenarioOutcome :=
      { span := ⟨5, 9⟩, status := status, specRowIndex := index, isSpecDriven := true }
    let r := addOutcomes {} [row 0 .passed, row 1 .failed, row 2 .passed]
    (r.scenarioCount, r.failedCount, r.failedRows, r.isFailed) = (1, 1, [1], true) := by
  decide

end Roster.SpecOutcome

import Roster.Proofs.Outcome.Summary

/-!
The outcome of a specification over many calls.

Each call that reports something changes the outcome that the calls before it have left.
`exists_after_eq` says what a call can do, and from it follows what is so after any of them:
nothing that was reported is lost (`Grows`), and flags, rows, counts and times fit one another
(`Coherent`). The calls may come in any order, and `addOutcomes` any number of times, so the
counts are bounded by the outcomes that were folded in and are not equal to their numbers.
-/

namespace Roster.SpecOutcome

/-! ### Calls -/

/-- A call that reports something on a specification. -/
inductive Call where
  | fail
  | setSkipped (skipped : Bool)
  | addTime (millis : Nat)
  | addItems (items : List ShownItem)
  | addPreHooks (failures : List HookFailure)
  | addPostHooks (failures : List HookFailure)
  | addErrors (errors : List String)
  | addOutcomes (os : List ScenarioOutcome)
  deriving DecidableEq, Repr

/-- The outcome after a call. -/
def after (r : SpecOutcome) : Call → SpecOutcome
  | .fail => r.fail
  | .setSkipped skipped => r.setSkipped skipped
  | .addTime millis => r.addTime millis
  | .addItems items => r.addItems items
  | .addPreHooks failures => r.addPreHooks failures
  | .addPostHooks failures => r.addPostHooks failures
  | .addErrors errors => r.addErrors errors
  | .addOutcomes os => r.addOutcomes os

/-- The outcome after calls, in order. -/
def afterAll (r : SpecOutcome) (calls : List Call) : SpecOutcome :=
  calls.foldl after r

theorem afterAll_concat (r : SpecOutcome) (calls : List Call) (c : Call) :
    r.afterAll (calls ++ [c]) = (r.afterAll calls).after c := by
  rw [afterAll, List.foldl_append]
  rfl

namespace Call

/-- The scenario outcomes that a call folds in. -/
def outcomes : Call → List ScenarioOutcome
  | .addOutcomes os => os
  | _ => []

/-- The time that a call adds. -/
def time : Call → Nat
  | .addTime millis => millis
  | .addOutcomes os => (os.map ScenarioOutcome.time).sum
  | _ => 0

/-- The call reports a failure. -/
def fails : Call → Bool
  | .fail => true
  | .addOutcomes os => os.any ScenarioOutcome.isFailed
  | _ => false

theorem fails_iff {c : Call} :
    c.fails = true ↔ c = .fail ∨ ∃ o ∈ c.outcomes, o.isFailed = true := by
  cases c <;> simp [fails, outcomes]

end Call

/-- The scenario outcomes that calls fold in. -/
def folded (calls : List Call) : List ScenarioOutcome :=
  calls.flatMap Call.outcomes

theorem folded_concat (calls : List Call) (c : Call) :
    folded (calls ++ [c]) = folded calls ++ c.outcomes := by
  simp [folded]

/-- What a call can do. What it adds to lists that counts do not speak of, and whether it
skips, is left open. -/
theorem exists_after_eq (r : SpecOutcome) (c : Call) :
    ∃ items skipped preHooks postHooks errors,
      r.after c =
        { r with
          items := r.items ++ items
          scenarioCount := r.scenarioCount + newScenarios [] c.outcomes
          failedCount := r.failedCount + c.outcomes.countP ScenarioOutcome.isFailed
          skippedCount := r.skippedCount + c.outcomes.countP ScenarioOutcome.isSkipped
          isFailed := r.isFailed || c.fails
          skipped := skipped
          failedRows := r.failedRows ++ rowsWhere ScenarioOutcome.isFailed c.outcomes
          skippedRows := r.skippedRows ++ rowsWhere ScenarioOutcome.isSkipped c.outcomes
          time := r.time + c.time
          preHookFailures := r.preHookFailures ++ preHooks
          postHookFailures := r.postHookFailures ++ postHooks
          errors := r.errors ++ errors } := by
  have hnone : newScenarios [] [] = 0 := rfl
  have hrows : ∀ p, rowsWhere p [] = [] := fun _ => rfl
  cases c with
  | fail =>
    refine ⟨[], r.skipped, [], [], [], ?_⟩
    simp [after, fail, Call.fails, Call.outcomes, Call.time, hnone, hrows]
  | setSkipped skipped =>
    refine ⟨[], skipped, [], [], [], ?_⟩
    simp [after, setSkipped, Call.fails, Call.outcomes, Call.time, hnone, hrows]
  | addTime millis =>
    refine ⟨[], r.skipped, [], [], [], ?_⟩
    simp [after, addTime, Call.fails, Call.outcomes, Call.time, hnone, hrows]
  | addItems items =>
    refine ⟨items, r.skipped, [], [], [], ?_⟩
    simp [after, addItems, Call.fails, Call.outcomes, Call.time, hnone, hrows]
  | addPreHooks failures =>
    refine ⟨[], r.skipped, failures, [], [], ?_⟩
    simp [after, addPreHooks, Call.fails, Call.outcomes, Call.time, hnone, hrows]
  | addPostHooks failures =>
    refine ⟨[], r.skipped, [], failures, [], ?_⟩
    simp [after, addPostHooks, Call.fails, Call.outcomes, Call.time, hnone, hrows]
  | addErrors errors =>
    refine ⟨[], r.skipped, [], [], errors, ?_⟩
    simp [after, addErrors, Call.fails, Call.outcomes, Call.time, hnone, hrows]
  | addOutcomes os =>
    refine ⟨os.map ScenarioOutcome.toItem, r.skipped, [], [], [], ?_⟩
    simp [after, addOutcomes, addFrom_eq, Call.fails, Call.outcomes, Call.time]

/-! ### Nothing is lost -/

/-- Whatever `r` reports, `s` reports as well, and it is on the same specification. -/
structure Grows (r s : SpecOutcome) : Prop where
  heading : s.heading = r.heading
  fileName : s.fileName = r.fileName
  isFailed : r.isFailed = true → s.isFailed = true
  items : r.items <+: s.items
  failedRows : r.failedRows <+: s.failedRows
  skippedRows : r.skippedRows <+: s.skippedRows
  preHookFailures : r.preHookFailures <+: s.preHookFailures
  postHookFailures : r.postHookFailures <+: s.postHookFailures
  errors : r.errors <+: s.errors

theorem grows_after (r : SpecOutcome) (c : Call) : r.Grows (r.after c) := by
  obtain ⟨items, skipped, preHooks, postHooks, errors, hafter⟩ := exists_after_eq r c
  rw [hafter]
  exact
    { heading := rfl
      fileName := rfl
      isFailed := fun hfailed => by rw [hfailed, Bool.true_or]
      items := List.prefix_append ..
      failedRows := List.prefix_append ..
      skippedRows := List.prefix_append ..
      preHookFailures := List.prefix_append ..
      postHookFailures := List.prefix_append ..
      errors := List.prefix_append .. }

/-! ### Counts and rows -/

/-- An outcome has one row at most. -/
theorem length_rowsWhere_le (p : ScenarioOutcome → Bool) (os : List ScenarioOutcome) :
    (rowsWhere p os).length ≤ os.countP p := by
  rw [rowsWhere_eq_map, List.length_map, ← List.countP_eq_length_filter]
  apply List.countP_mono_left
  intro o _ h
  exact (Bool.and_eq_true_iff.mp h).1

/-- No outcome is both a failure and a skip. -/
theorem countP_failed_add_countP_skipped_le (os : List ScenarioOutcome) :
    os.countP ScenarioOutcome.isFailed + os.countP ScenarioOutcome.isSkipped ≤ os.length := by
  rw [List.length_eq_countP_add_countP ScenarioOutcome.isFailed]
  apply Nat.add_le_add_left
  apply List.countP_mono_left
  intro o _ hskipped
  have hstatus : o.status = .skipped := by simpa [ScenarioOutcome.isSkipped] using hskipped
  simp [ScenarioOutcome.isFailed, hstatus]

theorem newScenarios_le_length (counted : List Nat) (os : List ScenarioOutcome) :
    newScenarios counted os ≤ os.length := by
  induction os generalizing counted with
  | nil => simp [newScenarios, onceStarts]
  | cons o os ih =>
    rw [newScenarios_cons, List.length_cons, Nat.add_comm]
    apply Nat.add_le_add (ih _)
    split <;> simp

/-- The first outcome of a call counts, as nothing is counted before it. -/
theorem newScenarios_pos {os : List ScenarioOutcome} (h : os ≠ []) : 0 < newScenarios [] os := by
  obtain ⟨o, os, rfl⟩ := List.exists_cons_of_ne_nil h
  rw [newScenarios_cons]
  apply Nat.add_pos_left
  simp

/-- What is so of the outcome of a specification after some calls. -/
structure Coherent (spec : Specification) (calls : List Call) (r : SpecOutcome) : Prop where
  heading : r.heading = spec.heading
  fileName : r.fileName = spec.fileName
  isFailed_iff : r.isFailed = true ↔ .fail ∈ calls ∨ ∃ o ∈ folded calls, o.isFailed = true
  failedRows_le : r.failedRows.length ≤ r.failedCount
  skippedRows_le : r.skippedRows.length ≤ r.skippedCount
  ended_le : r.failedCount + r.skippedCount ≤ (folded calls).length
  scenarios_le : r.scenarioCount ≤ (folded calls).length
  scenarios_pos : folded calls ≠ [] → 0 < r.scenarioCount
  time_eq : r.time = (calls.map Call.time).sum

variable {spec : Specification} {calls : List Call} {r : SpecOutcome}

theorem coherent_ofSpec (spec : Specification) : Coherent spec [] (ofSpec spec) where
  heading := rfl
  fileName := rfl
  isFailed_iff := by simp [ofSpec, folded]
  failedRows_le := Nat.zero_le 0
  skippedRows_le := Nat.zero_le 0
  ended_le := Nat.zero_le 0
  scenarios_le := Nat.zero_le 0
  scenarios_pos := fun h => absurd rfl h
  time_eq := rfl

/-- A call keeps the outcome coherent. -/
theorem Coherent.after (h : Coherent spec calls r) (c : Call) :
    Coherent spec (calls ++ [c]) (r.after c) := by
  obtain ⟨items, skipped, preHooks, postHooks, errors, hafter⟩ := exists_after_eq r c
  rw [hafter]
  constructor
  case heading => exact h.heading
  case fileName => exact h.fileName
  case isFailed_iff =>
    rw [Bool.or_eq_true, h.isFailed_iff, Call.fails_iff, folded_concat, or_or_or_comm]
    simp only [List.mem_append, List.mem_singleton, or_and_right, exists_or, eq_comm]
  case failedRows_le =>
    rw [List.length_append]
    exact Nat.add_le_add h.failedRows_le (length_rowsWhere_le ..)
  case skippedRows_le =>
    rw [List.length_append]
    exact Nat.add_le_add h.skippedRows_le (length_rowsWhere_le ..)
  case ended_le =>
    rw [folded_concat, List.length_append, Nat.add_add_add_comm]
    exact Nat.add_le_add h.ended_le (countP_failed_add_countP_skipped_le _)
  case scenarios_le =>
    rw [folded_concat, List.length_append]
    exact Nat.add_le_add h.scenarios_le (newScenarios_le_length ..)
  case scenarios_pos =>
    intro hfolded
    rw [folded_concat, Ne, List.append_eq_nil_iff, not_and_or] at hfolded
    rcases hfolded with hbefore | hnow
    · exact Nat.add_pos_left (h.scenarios_pos hbefore) _
    · exact Nat.add_pos_right _ (newScenarios_pos hnow)
  case time_eq =>
    rw [List.map_append, List.sum_append_nat, h.time_eq]
    rfl

/-- **The outcome of a specification stays coherent.** After any calls in any order it is still
on its specification. It failed exactly if a call said so or folded in a failed scenario. It
has no more rows of failures and of skips than it counts of either, and these together, and
the scenarios, are no more than the scenario outcomes that were folded in; once there is one,
a scenario is counted. The time is the sum of all times that were added. A further call keeps
the failure, and every list goes on from what it was. -/
theorem coherent_afterAll (spec : Specification) (calls : List Call) :
    Coherent spec calls ((ofSpec spec).afterAll calls) ∧
      ∀ c, ((ofSpec spec).afterAll calls).Grows ((ofSpec spec).afterAll (calls ++ [c])) := by
  constructor
  · induction calls using List.reverseRecOn with
    | nil => exact coherent_ofSpec spec
    | append_singleton calls c ih =>
      rw [afterAll_concat]
      exact ih.after c
  · intro c
    rw [afterAll_concat]
    exact grows_after _ c

end Roster.SpecOutcome

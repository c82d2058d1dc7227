import Roster.Outcome.Suite
import Roster.Proofs.Selection.Pipeline
import Roster.Proofs.Stream.Share

/-!
The outcome of a suite that is dealt to streams.

Streams report in turn what a single stream reports in the order of the suite. Joining adds
and counts, so the order does not matter (`join_perm`): the totals of a suite do not depend
on the number of streams (`join_deal`).
-/

namespace Roster

namespace SuiteOutcome

theorem join_specs (streams : List (List SpecOutcome)) : (join streams).specs = streams.flatten :=
  rfl

theorem join_time (streams : List (List SpecOutcome)) :
    (join streams).time = (streams.flatten.map SpecOutcome.time).sum := by
  have hfrom : ∀ (rs : List SpecOutcome) (start : Nat),
      rs.foldl (fun total r => total + r.time) start = start + (rs.map SpecOutcome.time).sum := by
    intro rs
    induction rs with
    | nil => simp
    | cons r rs ih =>
      intro start
      rw [List.foldl_cons, ih, List.map_cons, List.sum_cons, Nat.add_assoc]
  rw [join, hfrom, Nat.zero_add]

/-- The order of the outcomes, and which stream reports them, does not count. -/
theorem join_perm {xs ys : List (List SpecOutcome)} (h : xs.flatten.Perm ys.flatten) :
    (join xs).time = (join ys).time ∧ (join xs).failedCount = (join ys).failedCount ∧
      (join xs).skippedCount = (join ys).skippedCount ∧
      (join xs).isFailed = (join ys).isFailed := by
  have hfailed : (join xs).failedCount = (join ys).failedCount := h.countP_eq _
  refine ⟨?_, hfailed, h.countP_eq _, ?_⟩
  · rw [join_time, join_time]
    exact (h.map _).sum_nat
  · exact congrArg (fun count => decide (count > 0)) hfailed

/-- No specification counts both as failed and as skipped. -/
theorem counts_le_length (streams : List (List SpecOutcome)) :
    (join streams).failedCount + (join streams).skippedCount ≤ (join streams).specs.length := by
  have hskipped : (join streams).skippedCount ≤
      streams.flatten.countP fun r => decide ¬r.isFailed = true :=
    List.countP_mono_left fun r _ h => by simpa using (Bool.and_eq_true_iff.mp h).2
  have hall : streams.flatten.length = (join streams).failedCount +
      streams.flatten.countP fun r => decide ¬r.isFailed = true :=
    List.length_eq_countP_add_countP SpecOutcome.isFailed
  rw [join_specs, hall]
  exact Nat.add_le_add_left hskipped _

end SuiteOutcome

/-- What the streams report to which `buckets` are dealt. `outcome` gives the outcome of a
specification by its place in the suite, which is place `k * buckets.length + j` for place
`k` of bucket `j`. -/
def streamOutcomes (outcome : Nat → Specification → SpecOutcome) (buckets : List Bucket) :
    List (List SpecOutcome) :=
  buckets.mapIdx fun j bucket => bucket.specs.mapIdx fun k spec =>
    outcome (k * buckets.length + j) spec

/-- A stream reports the outcomes of its turns. -/
theorem mapIdx_share {streams j : Nat} (h : j < streams) (specs : List Specification)
    (outcome : Nat → Specification → SpecOutcome) :
    (share specs streams j).mapIdx (fun k spec => outcome (k * streams + j) spec) =
      atTurns (specs.mapIdx outcome) streams j := by
  apply List.ext_getElem?
  intro k
  rw [List.getElem?_mapIdx, getElem?_atTurns h, List.getElem?_mapIdx, share_eq_atTurns,
    getElem?_atTurns h]

theorem streamOutcomes_deal (specs : List Specification) (streams : Nat)
    (outcome : Nat → Specification → SpecOutcome) :
    streamOutcomes outcome ((List.range streams).map fun j => ⟨share specs streams j⟩) =
      (List.range streams).map (atTurns (specs.mapIdx outcome) streams) := by
  apply List.ext_getElem?
  intro j
  rw [streamOutcomes, List.getElem?_mapIdx, List.getElem?_map, List.getElem?_map, List.length_map,
    List.length_range]
  by_cases hj : j < streams
  · rw [List.getElem?_range hj]
    exact congrArg some (mapIdx_share hj specs outcome)
  · rw [List.getElem?_eq_none (by simpa using hj)]
    rfl

/-- **The number of streams does not count.** However many streams a suite is dealt to, what
they report joins to the time, the counts and the verdict of a single stream. The outcomes
are those of the single stream, stream by stream, each stream with its turns in order. A
suite failed exactly when it counts a failed specification, and failed and skipped
specifications are different ones. -/
theorem join_deal {streams : Nat} (hstreams : 1 ≤ streams) (specs : List Specification)
    (outcome : Nat → Specification → SpecOutcome) :
    ∃ buckets, deal specs streams = .ok buckets ∧
      let single := specs.mapIdx outcome
      let whole := SuiteOutcome.join [single]
      let split := SuiteOutcome.join (streamOutcomes outcome buckets)
      (split.time = whole.time ∧ split.failedCount = whole.failedCount ∧
        split.skippedCount = whole.skippedCount ∧ split.isFailed = whole.isFailed) ∧
      whole.specs = single ∧ split.specs.Perm single ∧
      split.specs = (List.range streams).flatMap (atTurns single streams) ∧
      (split.isFailed = true ↔ 0 < split.failedCount) ∧
      split.failedCount + split.skippedCount ≤ split.specs.length := by
  have hne : streams ≠ 0 := by omega
  refine ⟨_, deal_eq_ok hne, ?_⟩
  rw [streamOutcomes_deal]
  intro single whole split
  have hwhole : whole.specs = single := by simp [whole, SuiteOutcome.join_specs]
  have hsplit : split.specs = (List.range streams).flatMap (atTurns single streams) := rfl
  have hperm : split.specs.Perm single := hsplit ▸ flatMap_atTurns_perm hne single
  have hflat : split.specs.Perm whole.specs := hwhole.symm ▸ hperm
  exact ⟨SuiteOutcome.join_perm hflat, hwhole, hperm, hsplit, decide_eq_true_iff,
    SuiteOutcome.counts_le_length _⟩

namespace Sample

/-- The specifications of a suite take turns to fail, to be skipped and to pass. -/
def outcome (place : Nat) (spec : Specification) : SpecOutcome :=
  { SpecOutcome.ofSpec spec with
    isFailed := place % 3 == 0, skipped := place % 3 == 1, time := place + 1 }

end Sample

theorem join_deal_sample :
    ∃ buckets, deal Sample.suite 2 = .ok buckets ∧
      let suite := SuiteOutcome.join (streamOutcomes Sample.outcome buckets)
      suite.time = 6 ∧ suite.failedCount = 1 ∧ suite.skippedCount = 1 ∧ suite.isFailed = true ∧
      suite.specs.map SpecOutcome.time = [1, 3, 2] := by
  obtain ⟨buckets, hdealt, ⟨htime, hfailed, hskipped, hverdict⟩, -, -, hspecs, -⟩ :=
    join_deal (by decide : 1 ≤ 2) Sample.suite Sample.outcome
  refine ⟨buckets, hdealt, htime.trans ?_, hfailed.trans ?_, hskipped.trans ?_, hverdict.trans ?_,
    (congrArg (List.map SpecOutcome.time) hspecs).trans ?_⟩ <;> rfl

end Roster

import Mathlib.Data.List.Perm.Basic
import Roster.Proofs.Filter.Faults

/-!
A specification split in two.

The halves of a specification merge to it (`Merged`): an item that is no scenario stands in
both halves and is taken from both at once, a scenario stands in one of them and is taken
from there. So neither half has anything new or out of order, and together they have every
scenario once, however often it occurs.

* `merged_filter` : two filters that never agree on a scenario split items so.
* `partition_splits` : what `partition` does with any rule.
-/

namespace Roster

/-! ### Merging -/

/-- `whole` is merged from `kept` and `excluded`. -/
inductive Merged : (kept excluded whole : List Item) → Prop where
  | nil : Merged [] [] []
  | shared {item : Item} {kept excluded whole : List Item} : item.isScenario = false →
      Merged kept excluded whole → Merged (item :: kept) (item :: excluded) (item :: whole)
  | kept {s : Scenario} {kept excluded whole : List Item} :
      Merged kept excluded whole → Merged (.scenario s :: kept) excluded (.scenario s :: whole)
  | excluded {s : Scenario} {kept excluded whole : List Item} :
      Merged kept excluded whole → Merged kept (.scenario s :: excluded) (.scenario s :: whole)

/-- Items that are no scenarios, in order. -/
def otherItems (items : List Item) : List Item :=
  items.filter fun item => !item.isScenario

namespace Merged

variable {kept excluded whole : List Item}

/-- Together the halves have every scenario as often as the whole. -/
theorem scenarios_perm (h : Merged kept excluded whole) :
    (kept.filterMap Item.scenario? ++ excluded.filterMap Item.scenario?).Perm
      (whole.filterMap Item.scenario?) := by
  induction h with
  | nil => exact .nil
  | @shared item _ _ _ hitem _ ih =>
    have hnone : item.scenario? = none := by simpa [Item.isScenario] using hitem
    simpa only [List.filterMap_cons_none hnone] using ih
  | @kept s _ _ _ _ ih => exact ih.cons s
  | @excluded s _ _ _ _ ih => exact List.perm_middle.trans (ih.cons s)

/-- Either half has every other item, in order. -/
theorem otherItems_eq (h : Merged kept excluded whole) :
    otherItems kept = otherItems whole ∧ otherItems excluded = otherItems whole := by
  induction h with
  | nil => exact ⟨rfl, rfl⟩
  | @shared item _ _ _ hitem _ ih =>
    have hother : (!item.isScenario) = true := by rw [hitem]; rfl
    have hcons : ∀ items, otherItems (item :: items) = item :: otherItems items :=
      fun _ => List.filter_cons_of_pos hother
    rw [hcons, hcons, hcons, ih.1, ih.2]
    exact ⟨rfl, rfl⟩
  | kept _ ih => exact ih
  | excluded _ ih => exact ih

end Merged

/-- Two filters that never agree on a scenario split items. -/
theorem merged_filter {p q : Scenario → Bool} {items : List Item}
    (h : ∀ s, Item.scenario s ∈ items → q s = !p s) :
    Merged (items.filter fun item => item.scenario?.all p)
      (items.filter fun item => item.scenario?.all q) items := by
  induction items with
  | nil => exact .nil
  | cons item items ih =>
    have ih := ih fun s hs => h s (List.mem_cons_of_mem item hs)
    cases item with
    | scenario s =>
      have hs : q s = !p s := h s List.mem_cons_self
      cases hp : p s with
      | true => simpa [Item.scenario?, hs, hp] using Merged.kept ih
      | false => simpa [Item.scenario?, hs, hp] using Merged.excluded ih
    | _ => exact .shared rfl ih

/-! ### Splitting by a rule -/

/-- **A rule splits a specification in two.** It is refused exactly when the rule fails on a
scenario, with the fault of the first such one. Otherwise either half has the items of the
specification, in order, less the scenarios of the other verdict; the halves have no scenario
in common, they merge to the specification, and around the items they are as it is. -/
theorem partition_splits (spec : Specification) (rule : Rule) :
    ((∃ fault, partition spec rule = .error fault) ↔
      ∃ s ∈ spec.scenarios, ∃ fault, rule.excludes spec s = .error fault) ∧
    (∀ fault, partition spec rule = .error fault ↔
      First (fun s fault => rule.excludes spec s = .error fault) spec.scenarios fault) ∧
    ((∀ s ∈ spec.scenarios, ∀ fault, rule.excludes spec s ≠ .error fault) →
      ∃ kept excluded, partition spec rule =
          .ok ⟨{ spec with items := kept }, { spec with items := excluded }⟩ ∧
        kept = (spec.items.filter fun item =>
          ∀ s ∈ item.scenario?, rule.excludes spec s = .ok false) ∧
        excluded = (spec.items.filter fun item =>
          ∀ s ∈ item.scenario?, rule.excludes spec s = .ok true) ∧
        (∀ s, Item.scenario s ∈ kept → Item.scenario s ∉ excluded) ∧
        (kept.filterMap Item.scenario? ++ excluded.filterMap Item.scenario?).Perm
          spec.scenarios ∧
        otherItems kept = otherItems spec.items ∧
        otherItems excluded = otherItems spec.items ∧
        Merged kept excluded spec.items) := by
  refine ⟨?_, fun fault => partition_eq_error_iff, fun hdecided => ?_⟩
  · simp only [partition_eq_error_iff, exists_first_iff]
  have hall : ∀ s ∈ spec.scenarios, ∃ out, rule.excludes spec s = .ok out :=
    fun s hs => forall_ne_error_iff.mp (hdecided s hs)
  have hverdicts : ∀ s, Item.scenario s ∈ spec.items →
      decided (rule.excludes spec) true s = !decided (rule.excludes spec) false s := by
    intro s hs
    obtain ⟨out, hout⟩ := hall s (Specification.mem_scenarios.mpr hs)
    cases out <;> simp [decided, hout]
  have hitems : ∀ out, (spec.items.filter fun item =>
      ∀ s ∈ item.scenario?, rule.excludes spec s = .ok out) =
        spec.items.filter fun item => item.scenario?.all (decided (rule.excludes spec) out) := by
    intro out
    refine List.filter_congr fun item _ => ?_
    cases item.scenario? <;> simp [decided]
  have hmerged := merged_filter hverdicts
  have hpartition := partition_eq_ok_iff.mpr ⟨hall, rfl⟩
  refine ⟨_, _, hpartition, (hitems false).symm, (hitems true).symm, ?_, hmerged.scenarios_perm,
    hmerged.otherItems_eq.1, hmerged.otherItems_eq.2, hmerged⟩
  intro s hkept hexcluded
  have hfalse : rule.excludes spec s = .ok false := decided_iff.mp (List.mem_filter.mp hkept).2
  have htrue : rule.excludes spec s = .ok true := decided_iff.mp (List.mem_filter.mp hexcluded).2
  rw [hfalse] at htrue
  simp at htrue

namespace Sample

/-- The rule that leaves out what is slow. -/
def notSlow : TagRule :=
  ⟨⟨"!slow", some (.not (.tag "slow")), ["slow"]⟩, []⟩

/-- A scenario that is slow. -/
def archive : Scenario :=
  { heading := "Archive", span := ⟨3, 5⟩, tags := ⟨[["slow"]]⟩ }

/-- Scenarios of either verdict, one of them twice, with a step between them; the last one
carries an expression of its own that does not hold. -/
def visits : Specification :=
  { heading := "Visits", fileName := "visits.spec", tags := ⟨[["web"]]⟩,
    items := [.comment ⟨"Visits", 1⟩, .scenario archive, .scenario { heading := "Arrive" },
      .step ⟨"Wait", 9⟩, .scenario archive,
      .scenario { heading := "Leave", inherited := some "mobile | desk" }] }

end Sample

theorem partition_splits_sample :
    TagRule.make "!slow" [] = .ok Sample.notSlow ∧
    (∀ s ∈ Sample.visits.scenarios, ∀ fault,
      (Rule.tags Sample.notSlow).excludes Sample.visits s ≠ .error fault) ∧
    ∃ kept excluded, partition Sample.visits (.tags Sample.notSlow) =
        .ok ⟨{ Sample.visits with items := kept }, { Sample.visits with items := excluded }⟩ ∧
      kept.length = 3 ∧ excluded.length = 5 ∧ Merged kept excluded Sample.visits.items := by
  have hverdicts : Sample.visits.scenarios.map
      ((Rule.tags Sample.notSlow).excludes Sample.visits) =
        [.ok true, .ok false, .ok true, .ok true] := by
    decide +kernel
  have hdecided : ∀ s ∈ Sample.visits.scenarios, ∀ fault,
      (Rule.tags Sample.notSlow).excludes Sample.visits s ≠ .error fault := by
    intro s hs fault hfault
    have hmem := List.mem_map_of_mem (f := (Rule.tags Sample.notSlow).excludes Sample.visits) hs
    rw [hverdicts, hfault] at hmem
    simp at hmem
  obtain ⟨kept, excluded, hpartition, hkept, hexcluded, -, -, -, -, hmerged⟩ :=
    (partition_splits Sample.visits (.tags Sample.notSlow)).2.2 hdecided
  refine ⟨by decide +kernel, hdecided, kept, excluded, hpartition, ?_, ?_, hmerged⟩
  · rw [hkept]
    decide +kernel
  · rw [hexcluded]
    decide +kernel

end Roster

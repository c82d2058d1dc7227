import Roster.Proofs.Filter.Admission
import Roster.Proofs.Filter.Numbers
import Roster.Proofs.Tag.Compound

/-!
Filtering by the contrary.

Where nothing carries an expression of its own, a rule by tags decides every scenario, and says
of it what its expression says of the tags (`tags_excludes_of_carriesNothing`). So a rule with the
contrary expression has the same halves the other way round. A filter numbers the rows of the half
that it keeps and leaves those of the other one alone: of the two filters, one gives a half with
new numbers and one with the old ones.

* `filterByTags_of_carriesNothing` : the halves are what the expression says of the tags.
* `filterByTags_negated` : a `!` before an expression in parentheses exchanges the halves.
-/

namespace Roster

open Roster.Tag Roster.Text

/-- Neither the specification nor a scenario of it carries an expression. -/
structure Specification.CarriesNothing (spec : Specification) : Prop where
  own : spec.inherited = none
  scenarios : ∀ s ∈ spec.scenarios, s.inherited = none

variable {specs : List Specification} {spec : Specification} {s : Scenario}

/-! ### Verdicts -/

/-- Without carried expressions, the expression of the run alone decides. -/
theorem tags_excludes_of_carriesNothing (hspec : spec.CarriesNothing) (hs : s ∈ spec.scenarios)
    (rule : TagRule) : (Rule.tags rule).excludes spec s =
      .ok (!rule.expression.matchesTags (rule.tagUniverse spec s)) := by
  rw [Rule.tags_excludes_eq_ok_iff, Bool.not_not, TagRule.admits, hspec.own, hspec.scenarios s hs]
  cases rule.expression.matchesTags (rule.tagUniverse spec s) with
  | true => rfl
  | false => rfl

/-- Without carried expressions, the halves are what the expression of the run says of the tags
of each scenario. -/
theorem filterByTags_of_carriesNothing (hcarries : ∀ spec ∈ specs, spec.CarriesNothing)
    {raw : String} {e : Expression} (hparse : Expression.parse raw = .ok e)
    (suiteTags : List String) {keeps : Specification → Scenario → Bool}
    (hkeeps : ∀ spec s, e.matchesTags ((TagRule.mk e suiteTags).tagUniverse spec s) =
      keeps spec s) :
    filterByTags specs raw suiteTags = .ok
      ⟨renumberRows (retainIn specs keeps), retainIn specs fun spec s => !keeps spec s⟩ := by
  have hrule : TagRule.make raw suiteTags = .ok ⟨e, suiteTags⟩ :=
    TagRule.make_eq_ok_iff.mpr ⟨read_eq_ok_iff.mpr hparse, rfl⟩
  refine filterByTags_eq_ok_iff.mpr ⟨_, hrule, _, partitionAll_of_excludes ?_, rfl⟩
  intro spec hspec s hs
  rw [tags_excludes_of_carriesNothing (hcarries spec hspec) hs, hkeeps]

/-! ### Negation -/

/-- **Negating the expression exchanges the halves.** In a suite where nothing carries an
expression, the filter by an expression that is not blank and the filter by its negation both
succeed. What the one excludes is, with its rows numbered anew, what the other one keeps. The
first one excludes the scenarios whose tags do not satisfy the expression, and the other one those
whose tags do. -/
theorem filterByTags_negated {raw : String} {e : Expression}
    (hcarries : ∀ spec ∈ specs, spec.CarriesNothing) (hparse : Expression.parse raw = .ok e)
    (htext : ∃ c ∈ raw.toList, isBlank c = false) (suiteTags : List String) :
    ∃ halves contrary, filterByTags specs raw suiteTags = .ok halves ∧
      filterByTags specs ("!(" ++ raw ++ ")") suiteTags = .ok contrary ∧
      contrary.kept = renumberRows halves.excluded ∧
      halves.kept = renumberRows contrary.excluded ∧
      (halves.excluded = retainIn specs fun spec s =>
        !e.matchesTags ((TagRule.mk e suiteTags).tagUniverse spec s)) ∧
      (contrary.excluded = retainIn specs fun spec s =>
        e.matchesTags ((TagRule.mk e suiteTags).tagUniverse spec s)) := by
  obtain ⟨e', hparse', hmeans⟩ := Expression.means_not_group hparse htext
  have hhalves := filterByTags_of_carriesNothing hcarries hparse suiteTags fun _ _ => rfl
  have hcontrary := filterByTags_of_carriesNothing hcarries hparse' suiteTags
    fun _ _ => hmeans _
  simp only [Bool.not_not] at hcontrary
  exact ⟨_, _, hhalves, hcontrary, rfl, rfl, rfl, rfl⟩

/-- Table rows of both verdicts in specifications of one file, so that both halves get new row
numbers. -/
theorem filterByTags_negated_sample :
    (∀ spec ∈ Sample.orders :: Sample.shops, spec.CarriesNothing) ∧
      (∃ e, Expression.parse "fast, open" = .ok e) ∧
      (∃ c ∈ "fast, open".toList, isBlank c = false) ∧
      ∃ halves contrary,
        filterByTags (Sample.orders :: Sample.shops) "fast, open" ["open"] = .ok halves ∧
        filterByTags (Sample.orders :: Sample.shops) "!(fast, open)" ["open"] = .ok contrary ∧
        contrary.kept = renumberRows halves.excluded ∧
        halves.kept = renumberRows contrary.excluded ∧
        contrary.kept ≠ halves.excluded ∧ halves.kept ≠ contrary.excluded := by
  have hnone : ∀ spec ∈ Sample.orders :: Sample.shops,
      spec.inherited = none ∧ ∀ s ∈ spec.scenarios, s.inherited = none := by
    decide +kernel
  have hcarries : ∀ spec ∈ Sample.orders :: Sample.shops, spec.CarriesNothing :=
    fun spec hspec => ⟨(hnone spec hspec).1, (hnone spec hspec).2⟩
  have hparse : Expression.parse "fast, open" = .ok ⟨"fast, open",
      some (.and (.tag "fast") (.tag "open")), ["fast", "open"]⟩ := by
    decide +kernel
  have htext : ∃ c ∈ "fast, open".toList, isBlank c = false := ⟨'f', by decide, rfl⟩
  obtain ⟨halves, contrary, hhalves, hcontrary, hkept, hkept', hout, hout'⟩ :=
    filterByTags_negated hcarries hparse htext ["open"]
  refine ⟨hcarries, ⟨_, hparse⟩, htext, halves, contrary, hhalves, hcontrary, hkept, hkept', ?_, ?_⟩
  · rw [hkept, hout]
    decide +kernel
  · rw [hkept', hout']
    decide +kernel

end Roster

import Roster.Filter.Rule
import Roster.Proofs.Except

/-!
Which scenarios a rule by tags admits.

The rule puts one universe of tags to the expression of the run and to every carried
expression, and stops at the first that does not hold. What it admits does not depend
on that order: `admits_eq_ok_true_iff` says that each of the expressions is well formed
and holds. The order shows only in the fault of a malformed expression.
-/

namespace Roster

open Roster.Tag

/-- An expression is read when it is well formed. -/
theorem read_eq_ok_iff {raw : String} {e : Expression} :
    Expression.read raw = .ok e ↔ Expression.parse raw = .ok e := by
  rw [Expression.read]
  cases Expression.parse raw with
  | error reason => simp [Except.mapError]
  | ok e => simp [Except.mapError]

theorem evaluate_eq_ok_iff {raw : String} {names : List String} {b : Bool} :
    Tag.evaluate raw names = .ok b ↔
      ∃ e, Expression.read raw = .ok e ∧ e.matchesTags (.ofList names) = b := by
  simp [Tag.evaluate, bind_eq_ok_iff, pure, Except.pure]

namespace TagRule

theorem make_eq_ok_iff {raw : String} {suiteTags : List String} {rule : TagRule} :
    make raw suiteTags = .ok rule ↔
      Expression.read raw = .ok rule.expression ∧ rule.suiteTags = suiteTags := by
  rw [make, bind_eq_ok_iff]
  constructor
  · rintro ⟨e, hread, hmade⟩
    obtain rfl : (⟨e, suiteTags⟩ : TagRule) = rule := Except.ok.inj hmade
    exact ⟨hread, rfl⟩
  · rintro ⟨hread, rfl⟩
    exact ⟨_, hread, rfl⟩

/-- Carried expressions hold together when each of them does. -/
theorem carriedHold_eq_ok_true_iff {names raws : List String} :
    carriedHold (.ofList names) raws = .ok true ↔
      ∀ raw ∈ raws, Tag.evaluate raw names = .ok true := by
  induction raws with
  | nil => simp [carriedHold]
  | cons raw raws ih =>
    rw [carriedHold, bind_eq_ok_iff, List.forall_mem_cons, evaluate_eq_ok_iff]
    constructor
    · rintro ⟨e, hread, hrest⟩
      by_cases hholds : e.matchesTags (.ofList names) = true
      · rw [if_pos hholds] at hrest
        exact ⟨⟨e, hread, hholds⟩, ih.mp hrest⟩
      · rw [if_neg hholds] at hrest
        simp at hrest
    · rintro ⟨⟨e, hread, hholds⟩, hrest⟩
      exact ⟨e, hread, by rw [if_pos hholds]; exact ih.mpr hrest⟩

/-- A rule admits a scenario when its expression and every carried one hold on the
universe of the scenario. -/
theorem admits_eq_ok_true_iff {rule : TagRule} {spec : Specification} {s : Scenario} :
    rule.admits spec s = .ok true ↔
      rule.expression.matchesTags (rule.tagUniverse spec s) = true ∧
        ∀ raw ∈ spec.inherited.toList ++ s.inherited.toList,
          Tag.evaluate raw (rule.tagNames spec s) = .ok true := by
  rw [admits]
  by_cases hrun : rule.expression.matchesTags (rule.tagUniverse spec s) = true
  · rw [if_pos hrun, tagUniverse, carriedHold_eq_ok_true_iff]
    rw [tagUniverse] at hrun
    simp only [hrun, true_and]
  · rw [if_neg hrun]
    simp [hrun]

end TagRule

/-- What a rule by tags does not exclude, it admits. -/
theorem Rule.tags_excludes_eq_ok_iff {rule : TagRule} {spec : Specification} {s : Scenario}
    {out : Bool} : (Rule.tags rule).excludes spec s = .ok out ↔ rule.admits spec s = .ok !out := by
  rw [Rule.excludes, map_eq_ok_iff]
  constructor
  · rintro ⟨admitted, hadmits, rfl⟩
    rw [hadmits, Bool.not_not]
  · intro h
    exact ⟨_, h, Bool.not_not _⟩

end Roster

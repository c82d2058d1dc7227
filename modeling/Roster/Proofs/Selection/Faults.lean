import Roster.Proofs.Filter.Faults
import Roster.Proofs.Selection.Pipeline

/-!
Where a run fails.

A run fails for its settings, before it looks at the suite, or in the filter by tags, on
what the filter by lines has left (`run_eq_error_iff`); no other step can fail.
`run_refuses_iff` says so of the suite that is given: the run fails for the first scenario
on the lines at which it stops (`Settings.StopsAt`), with the fault of the malformed
expression there.
-/

namespace Roster

open Roster.Tag

/-! ### The settings at fault -/

/-- Settings that pass their check have streams to pick a group from. -/
theorem ofSpecs_ne_error {settings : Settings} (hcheck : settings.check = .ok ())
    (left : List Specification) (fault : Fault) :
    ¬ Selection.ofSpecs settings left = .error fault := by
  intro hleft
  cases hgroup : settings.group with
  | none => simp [ofSpecs_of_none hgroup] at hleft
  | some group =>
    obtain ⟨notice, events, hpick⟩ :=
      ofSpecs_of_some hgroup (streams_ne_zero_of_check hcheck) left
    simp [hpick] at hleft

/-- Settings that pass their check leave the filter by tags as the only step of a run that
can fail. -/
theorem run_eq_error_iff {settings : Settings} {specs : List Specification} {fault : Fault} :
    Selection.run settings specs = .error fault ↔
      settings.check = .error fault ∨ settings.check = .ok () ∧
        filterByTags (Selection.onLines settings specs) settings.tags settings.suiteTags =
          .error fault := by
  simp only [Selection.run, bind_eq_error_iff]
  constructor
  · rintro (hcheck | ⟨⟨⟩, hcheck, htags | ⟨halves, -, hleft | ⟨picked, -, hdone⟩⟩⟩)
    · exact .inl hcheck
    · exact .inr ⟨hcheck, htags⟩
    · exact absurd hleft (ofSpecs_ne_error hcheck _ _)
    · simp at hdone
  · rintro (hcheck | ⟨hcheck, htags⟩)
    · exact .inl hcheck
    · exact .inr ⟨(), hcheck, .inl htags⟩

/-! ### The scenario at fault -/

/-- A condition on scenarios that is put to what the filter by lines leaves may as well be
put to the scenarios on the lines. -/
theorem first_onLines {β : Type} {P : Specification × Scenario → β → Prop}
    (hP : ∀ spec items s b, P ({ spec with items := items }, s) b ↔ P (spec, s) b)
    (settings : Settings) (specs : List Specification) (b : β) :
    First P (suiteScenarios (Selection.onLines settings specs)) b ↔
      First (fun entry b => (settings.lines.isEmpty || entry.2.isOnLine settings.lines) = true ∧
        P entry b) (suiteScenarios specs) b := by
  rw [Selection.onLines]
  by_cases hlines : settings.lines.isEmpty = true
  · rw [if_pos hlines]
    simp only [hlines, Bool.true_or, true_and]
  · rw [if_neg hlines, filterByLines, retain_eq_retainIn, suiteScenarios_retainIn, first_map,
      first_filter]
    simp only [hlines, Bool.false_or, Specification.keep, hP]

/-- A run stops at a scenario: it is on one of the lines, if there are any, the expression
of the run holds on its tags, and an expression that it carries is malformed and is read.
That of the specification is read before that of the scenario, which is read only if the
former holds. -/
def Settings.StopsAt (settings : Settings) (spec : Specification) (s : Scenario) (raw : String)
    (reason : Malformed) : Prop :=
  (settings.lines = [] ∨
    ∃ line ∈ settings.lines, s.span.start ≤ line ∧ line ≤ s.span.stop) ∧
  Tag.evaluate settings.tags (settings.tagNames spec s) = .ok true ∧
  Expression.parse raw = .error reason ∧
  (spec.inherited = some raw ∨
    (∀ outer ∈ spec.inherited, Tag.evaluate outer (settings.tagNames spec s) = .ok true) ∧
      s.inherited = some raw)

theorem faultOf_stopsAt_iff {settings : Settings} {rule : TagRule}
    (hrule : TagRule.make settings.tags settings.suiteTags = .ok rule)
    (entry : Specification × Scenario) (fault : Fault) :
    (settings.lines.isEmpty || entry.2.isOnLine settings.lines) = true ∧
      FaultOf rule.StopsAt entry fault ↔ FaultOf settings.StopsAt entry fault := by
  obtain ⟨hnames, hrun⟩ := evaluate_run_iff hrule entry.1 entry.2
  simp only [FaultOf, TagRule.StopsAt, Settings.StopsAt, hnames, hrun,
    Bool.or_eq_true, List.isEmpty_iff, isOnLine_iff, and_assoc, exists_and_left]

/-- The filter by tags fails on what the filter by lines leaves where the run stops. -/
theorem filterByTags_onLines_eq_error_iff {settings : Settings} (specs : List Specification)
    {fault : Fault} (hcheck : settings.check = .ok ()) :
    filterByTags (Selection.onLines settings specs) settings.tags settings.suiteTags =
        .error fault ↔ First (FaultOf settings.StopsAt) (suiteScenarios specs) fault := by
  obtain ⟨e, hread, -⟩ := bind_eq_ok_iff.mp hcheck
  have hrule : TagRule.make settings.tags settings.suiteTags = .ok ⟨e, settings.suiteTags⟩ :=
    TagRule.make_eq_ok_iff.mpr ⟨hread, rfl⟩
  have hfirst := first_onLines (P := FaultOf (TagRule.StopsAt ⟨e, settings.suiteTags⟩))
    (fun _ _ _ _ => Iff.rfl) settings specs fault
  simp only [faultOf_stopsAt_iff hrule] at hfirst
  rw [filterByTags_eq_error_iff, ← hfirst, hread, hrule]
  simp

/-- **A run fails for its settings or for the first scenario at which it stops.** The fault of
the settings comes first, whatever the suite. Otherwise it is that of the malformed
expression at the first such scenario in suite order, with the text of that expression.
There is no other. -/
theorem run_refuses_iff (settings : Settings) (specs : List Specification) :
    ((∃ fault, Selection.run settings specs = .error fault) ↔
      (∃ fault, settings.check = .error fault) ∨
        ∃ spec ∈ specs, ∃ s ∈ spec.scenarios, ∃ raw reason,
          settings.StopsAt spec s raw reason) ∧
    ∀ fault, Selection.run settings specs = .error fault ↔
      settings.check = .error fault ∨ settings.check = .ok () ∧
        ∃ before spec s after raw reason,
          suiteScenarios specs = before ++ (spec, s) :: after ∧
          (∀ entry ∈ before, ∀ raw reason, ¬ settings.StopsAt entry.1 entry.2 raw reason) ∧
          settings.StopsAt spec s raw reason ∧ fault = .tagExpression raw reason.message := by
  have hrun : ∀ fault, Selection.run settings specs = .error fault ↔
      settings.check = .error fault ∨ settings.check = .ok () ∧
        First (FaultOf settings.StopsAt) (suiteScenarios specs) fault := by
    intro fault
    rw [run_eq_error_iff]
    exact or_congr_right (and_congr_right fun hcheck =>
      filterByTags_onLines_eq_error_iff specs hcheck)
  constructor
  · simp only [hrun, exists_or, exists_and_left, exists_first_faultOf_iff]
    constructor
    · rintro (hcheck | ⟨-, hstops⟩)
      · exact .inl hcheck
      · exact .inr hstops
    · rintro (hcheck | hstops)
      · exact .inl hcheck
      · cases hcheck : settings.check with
        | error fault => exact .inl ⟨fault, rfl⟩
        | ok _ => exact .inr ⟨rfl, hstops⟩
  · intro fault
    rw [hrun, first_faultOf_iff]

end Roster

import Roster.Proofs.Filter.Admission
import Roster.Proofs.Filter.Rows
import Roster.Proofs.Stream.Share
import Roster.Selection.Run

/-!
The pipeline of a selection.

A run is the check of the settings, three filters with a renumbering before the last,
and the choice of a group (`run_eq_ok_iff`).

* `run_specs_forgetRows` : the filters differ in how they work, and the last one looks at
  what the others left, yet together they are one condition on a scenario, `Wanted`. A
  run without a group gives the suite of the wanted scenarios, up to row numbers.
* `nodup_identities_run` : the row numbers tell the selected scenarios apart, whatever
  the numbers were before and whatever the settings.
-/

namespace Roster

/-! ### Steps of a run -/

/-- The settings pass their check, and `left` is what the filters leave of the suite. -/
def Filtered (settings : Settings) (specs : List Specification)
    (left : Logged (List Specification)) : Prop :=
  settings.check = .ok () ∧
    ∃ halves, filterByTags (Selection.onLines settings specs) settings.tags settings.suiteTags =
      .ok halves ∧ left = Selection.named settings halves.kept

theorem run_eq_ok_iff {settings : Settings} {specs : List Specification}
    {out : Logged Selection} :
    Selection.run settings specs = .ok out ↔
      ∃ left, Filtered settings specs left ∧
        ∃ picked, Selection.ofSpecs settings left.value = .ok picked ∧
          out = ⟨picked.value, left.events ++ picked.events ++
            [.selectionComplete specs.length picked.value.specs.length
              picked.value.scenarioCount picked.value.strategy]⟩ := by
  simp only [Selection.run, bind_eq_ok_iff]
  constructor
  · rintro ⟨⟨⟩, hcheck, halves, hhalves, picked, hpicked, hout⟩
    exact ⟨_, ⟨hcheck, halves, hhalves, rfl⟩, picked, hpicked, (Except.ok.inj hout).symm⟩
  · rintro ⟨left, ⟨hcheck, halves, hhalves, rfl⟩, picked, hpicked, rfl⟩
    exact ⟨(), hcheck, halves, hhalves, picked, hpicked, rfl⟩

theorem streams_ne_zero_of_check {settings : Settings} (h : settings.check = .ok ()) :
    settings.streams ≠ 0 := by
  intro hzero
  obtain ⟨_, -, hstreams⟩ := bind_eq_ok_iff.mp h
  rw [if_pos hzero] at hstreams
  exact absurd hstreams (by simp)

/-- Without a group the selection is the whole suite. -/
theorem ofSpecs_of_none {settings : Settings} (h : settings.group = none)
    (specs : List Specification) :
    Selection.ofSpecs settings specs =
      .ok ⟨⟨specs, settings.strategy, settings.streams, none, none⟩, []⟩ := by
  rw [Selection.ofSpecs, h]

/-- With a group it is the share of the group. -/
theorem ofSpecs_of_some {settings : Settings} {group : Nat} (h : settings.group = some group)
    (hstreams : settings.streams ≠ 0) (specs : List Specification) : ∃ notice events,
      Selection.ofSpecs settings specs =
        .ok ⟨⟨groupShare specs settings.streams group, .eager, settings.streams, some group,
          notice⟩, events⟩ := by
  obtain ⟨notice, events, hpick⟩ :=
    pickGroup_eq_ok hstreams specs group settings.strategy
  refine ⟨notice, events, ?_⟩
  rw [Selection.ofSpecs, h]
  simp only [hpick, ok_bind]

/-! ### The wanted scenarios -/

/-- The names of every tag on a scenario, from the widest scope to the narrowest. -/
def Settings.tagNames (settings : Settings) (spec : Specification) (s : Scenario) :
    List String :=
  settings.suiteTags ++ spec.tags.values ++ s.tags.values ++ s.rowTags

/-- The scenario is asked for: by a line or by none, by the expressions of the run, of its
specification and of its own, and by its heading or by none. -/
def Wanted (settings : Settings) (spec : Specification) (s : Scenario) : Prop :=
  (settings.lines = [] ∨
    ∃ line ∈ settings.lines, s.span.start ≤ line ∧ line ≤ s.span.stop) ∧
  (∀ raw ∈ settings.tags :: (spec.inherited.toList ++ s.inherited.toList),
    Tag.evaluate raw (settings.tagNames spec s) = .ok true) ∧
  (settings.scenarios = [] ∨ s.heading ∈ settings.scenarios)

instance (settings : Settings) (spec : Specification) (s : Scenario) :
    Decidable (Wanted settings spec s) :=
  inferInstanceAs (Decidable (_ ∧ _ ∧ _))

theorem isOnLine_iff {s : Scenario} {lines : List Nat} :
    s.isOnLine lines = true ↔ ∃ line ∈ lines, s.span.start ≤ line ∧ line ≤ s.span.stop := by
  simp [Scenario.isOnLine, Span.contains]

/-- What a filter after the filter by lines keeps. -/
theorem retainIn_onLines (settings : Settings) (specs : List Specification)
    {keeps : Specification → Scenario → Bool} (h : IgnoresItems keeps) :
    retainIn (Selection.onLines settings specs) keeps =
      retainIn specs fun spec s =>
        (settings.lines.isEmpty || s.isOnLine settings.lines) && keeps spec s := by
  rw [Selection.onLines]
  by_cases hlines : settings.lines.isEmpty = true
  · rw [if_pos hlines]
    simp only [hlines, Bool.true_or, Bool.true_and]
  · rw [if_neg hlines, filterByLines, retain_eq_retainIn, retainIn_retainIn h]
    simp only [hlines, Bool.false_or]

/-- What the filter by names leaves of a suite that a filter has left. -/
theorem named_retainIn (settings : Settings) (specs : List Specification)
    (keeps : Specification → Scenario → Bool) :
    (Selection.named settings (retainIn specs keeps)).value =
      retainIn specs fun spec s =>
        keeps spec s && (settings.scenarios.isEmpty || s.isNamed settings.scenarios) := by
  rw [Selection.named]
  by_cases hnames : settings.scenarios.isEmpty = true
  · rw [if_pos hnames]
    simp only [hnames, Bool.true_or, Bool.and_true]
  · rw [if_neg hnames, filterByNames_value, retainIn_retainIn fun _ _ _ => rfl]
    simp only [hnames, Bool.false_or]

/-- The filter by names may as well come before the numbers of the rows. -/
theorem named_value_forgetRows {settings : Settings} {specs specs' : List Specification}
    (h : specs.map Specification.forgetRows = specs'.map Specification.forgetRows) :
    (Selection.named settings specs).value.map Specification.forgetRows =
      (Selection.named settings specs').value.map Specification.forgetRows := by
  simp only [Selection.named]
  split
  · exact h
  · rw [filterByNames_value, filterByNames_value, map_forgetRows_retainIn fun _ _ => rfl, h,
      map_forgetRows_retainIn fun _ _ => rfl]

/-- The rule of the settings puts the expression of the run to the tags of a scenario. -/
theorem evaluate_run_iff {settings : Settings} {rule : TagRule}
    (hrule : TagRule.make settings.tags settings.suiteTags = .ok rule) (spec : Specification)
    (s : Scenario) : rule.tagNames spec s = settings.tagNames spec s ∧
      (Tag.evaluate settings.tags (settings.tagNames spec s) = .ok true ↔
        rule.expression.matchesTags (rule.tagUniverse spec s) = true) := by
  obtain ⟨hread, hsuite⟩ := TagRule.make_eq_ok_iff.mp hrule
  have hnames : rule.tagNames spec s = settings.tagNames spec s := by
    rw [TagRule.tagNames, hsuite, Settings.tagNames]
  refine ⟨hnames, ?_⟩
  rw [evaluate_eq_ok_iff, hread, TagRule.tagUniverse, hnames]
  simp

/-- The filter by tags keeps a scenario when the expressions of the run, of its
specification and of its own hold on its tags. -/
theorem tags_decided_iff {settings : Settings} {rule : TagRule}
    (hrule : TagRule.make settings.tags settings.suiteTags = .ok rule) {spec : Specification}
    {s : Scenario} :
    decided ((Rule.tags rule).excludes spec) false s = true ↔
      ∀ raw ∈ settings.tags :: (spec.inherited.toList ++ s.inherited.toList),
        Tag.evaluate raw (settings.tagNames spec s) = .ok true := by
  obtain ⟨hnames, hrun⟩ := evaluate_run_iff hrule spec s
  rw [decided_iff, Rule.tags_excludes_eq_ok_iff, Bool.not_false, TagRule.admits_eq_ok_true_iff,
    List.forall_mem_cons, hrun, hnames]

/-- The filters together keep the wanted scenarios, up to the numbers of their rows. -/
theorem filtered_forgetRows {settings : Settings} {specs : List Specification}
    {left : Logged (List Specification)} (h : Filtered settings specs left) :
    left.value.map Specification.forgetRows =
      (retainIn specs fun spec s => Wanted settings spec s).map Specification.forgetRows := by
  obtain ⟨-, halves, hhalves, rfl⟩ := h
  obtain ⟨rule, hrule, split, hsplit, rfl⟩ := filterByTags_eq_ok_iff.mp hhalves
  obtain ⟨-, rfl⟩ := partitionAll_eq_ok_iff.mp hsplit
  rw [named_value_forgetRows (map_forgetRows_renumberRows _), named_retainIn,
    retainIn_onLines settings specs fun _ _ _ => rfl]
  congr 1
  refine retainIn_congr fun spec _ s _ => ?_
  rw [Bool.eq_iff_iff, decide_eq_true_iff, Bool.and_eq_true, Bool.and_eq_true, Bool.or_eq_true,
    Bool.or_eq_true, List.isEmpty_iff, List.isEmpty_iff, tags_decided_iff hrule, isOnLine_iff,
    Scenario.isNamed, List.contains_iff_mem]
  rfl

/-- **A run selects the wanted scenarios.** Up to the row numbers of scenarios, the suite
that a run without a group selects is the suite it was given, in order, where every
specification has its other items and the wanted scenarios, in order, and those without
scenarios are dropped. -/
theorem run_specs_forgetRows {settings : Settings} {specs : List Specification}
    {out : Logged Selection} (hgroup : settings.group = none)
    (hrun : Selection.run settings specs = .ok out) :
    out.value.specs.map Specification.forgetRows =
      ((specs.map fun spec => { spec with
          items := spec.items.filter fun item => ∀ s ∈ item.scenario?, Wanted settings spec s
        }).filter fun spec => spec.scenarios ≠ []).map Specification.forgetRows := by
  obtain ⟨left, hleft, picked, hpicked, rfl⟩ := run_eq_ok_iff.mp hrun
  rw [ofSpecs_of_none hgroup] at hpicked
  obtain rfl := Except.ok.inj hpicked
  rw [← retainIn_eq_filter_items specs (Wanted settings)]
  exact filtered_forgetRows hleft

namespace Sample

/-- A scenario with an expression and a row number of its own. -/
def logIn : Scenario :=
  { heading := "Log in", span := ⟨2, 4⟩, inherited := some "smoke | slow", specRowIndex := 7 }

/-- A specification with a tag and an expression, and no items. -/
def accounts : Specification :=
  { heading := "Accounts", fileName := "accounts.spec", tags := ⟨[["smoke"]]⟩,
    inherited := some "nightly" }

/-- The scenario for a table row that lists tags. -/
def logInByCard : Scenario :=
  { logIn with
    specRow := some
      { headers := ["Payment", "Tags"]
        rows := [[{ value := "Card" }, { value := "card, smoke" }]] } }

/-- Instances of one scenario in two specifications of one file, beside scenarios that
the heading, the tags or the specification rule out. In the last specification no tag but
those of a row makes a scenario wanted. -/
def suite : List Specification :=
  [{ accounts with
      items := [.comment ⟨"intro", 1⟩, .scenario logIn,
        .scenario { logIn with heading := "Log out" },
        .scenario { logIn with span := ⟨10, 14⟩, tags := ⟨[["slow"]]⟩ }, .scenario logIn] },
    { accounts with items := [.scenario logIn] },
    { accounts with
      fileName := "billing.spec"
      tags := {}
      items := [.scenario logIn, .scenario logInByCard] }]

/-- Settings with a filter of every kind, one unknown heading, and two streams. -/
def settings : Settings :=
  { tags := "smoke & !slow", scenarios := ["Log in", "No such scenario"], lines := [3, 12],
    suiteTags := ["nightly"], streams := 2 }

end Sample

theorem run_specs_forgetRows_sample :
    ∃ out, Selection.run Sample.settings Sample.suite = .ok out ∧
      out.value.specs.map Specification.forgetRows =
        [{ Sample.accounts with
            items := [.comment ⟨"intro", 1⟩, .scenario Sample.logIn.forgetRows,
              .scenario Sample.logIn.forgetRows] },
          { Sample.accounts with items := [.scenario Sample.logIn.forgetRows] },
          { Sample.accounts with
            fileName := "billing.spec"
            tags := {}
            items := [.scenario Sample.logInByCard.forgetRows] }] := by
  have hran : (Selection.run Sample.settings Sample.suite).map (fun _ => ()) = .ok () := by
    decide +kernel
  obtain ⟨out, hrun, -⟩ := map_eq_ok_iff.mp hran
  have hgroup : Sample.settings.group = none := rfl
  refine ⟨out, hrun, ?_⟩
  rw [run_specs_forgetRows hgroup hrun]
  decide +kernel

/-! ### Identities of the selected scenarios -/

theorem identities_named_sublist (settings : Settings) (specs : List Specification) :
    (identities (Selection.named settings specs).value).Sublist (identities specs) := by
  rw [Selection.named]
  split
  · exact .refl _
  · rw [filterByNames_value]
    exact identities_retainIn_sublist specs _

theorem ofSpecs_specs_sublist {settings : Settings} {specs : List Specification}
    {picked : Logged Selection} (hstreams : settings.streams ≠ 0)
    (h : Selection.ofSpecs settings specs = .ok picked) :
    picked.value.specs.Sublist specs := by
  cases hgroup : settings.group with
  | none =>
    rw [ofSpecs_of_none hgroup] at h
    cases h
    exact .refl _
  | some group =>
    obtain ⟨notice, events, hpick⟩ := ofSpecs_of_some hgroup hstreams specs
    rw [hpick] at h
    cases h
    exact groupShare_sublist ..

/-- **Selected scenarios have identities of their own.** No two scenarios of a selection
agree in file, table row, first line and own row: renumbering makes the identities
different, and the steps after it only take scenarios away. -/
theorem nodup_identities_run {settings : Settings} {specs : List Specification}
    {out : Logged Selection} (hrun : Selection.run settings specs = .ok out) :
    (identities out.value.specs).Nodup := by
  obtain ⟨left, ⟨hcheck, halves, hhalves, rfl⟩, picked, hpicked, rfl⟩ := run_eq_ok_iff.mp hrun
  obtain ⟨rule, -, split, -, rfl⟩ := filterByTags_eq_ok_iff.mp hhalves
  have hpick := ofSpecs_specs_sublist (streams_ne_zero_of_check hcheck) hpicked
  have hsub : (identities picked.value.specs).Sublist (identities (renumberRows split.kept)) :=
    (hpick.flatMap _).trans (identities_named_sublist settings _)
  exact (nodup_identities_renumberRows split.kept).sublist hsub

theorem nodup_identities_run_sample :
    ∃ out, Selection.run Sample.settings Sample.suite = .ok out ∧
      (identities out.value.specs).length = 4 ∧ (identities out.value.specs).Nodup := by
  have hran : (Selection.run Sample.settings Sample.suite).map
      (fun out => (identities out.value.specs).length) = .ok 4 := by
    decide +kernel
  obtain ⟨out, hrun, hlength⟩ := map_eq_ok_iff.mp hran
  exact ⟨out, hrun, hlength, nodup_identities_run hrun⟩

end Roster

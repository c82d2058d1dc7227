import Roster.Proofs.Filter.Faults
import Roster.Proofs.Selection.Pipeline

/-!
Warnings of a run.

A run warns of the names that it is asked for and does not find. It looks for them where
the filter by names comes, among the scenarios that the lines and the expressions have left
(`Settings.headingsLeft`), and not in the suite that it is given.

* `run_warnings` : one warning for each name that is not left, in the order asked for. These
  are the names that the suite does not have exactly when every name of the suite that is
  asked for is left.
* `present_name_reported_missing` : a run may report a heading of the suite as not found.
-/

namespace Roster

/-- The events that are warnings, in order. -/
def Logged.warnings {α : Type} (logged : Logged α) : List Event :=
  logged.events.filter fun event => event.urgency = .warning

/-- The warning of a name in words. -/
def notFoundText (name : String) : String :=
  "Warning: " ++ ("scenario name - \"" ++ name ++ "\" not found")

theorem message_unknownScenario (name : String) (existing : List String) :
    (Event.unknownScenario (.scenarioNotFound name existing)).message = notFoundText name :=
  rfl

/-! ### Events of the steps -/

/-- Picking a group may give a notice, but no warning. -/
theorem pickGroup_events_info {specs : List Specification} {group streams : Nat}
    {configured : Strategy} {picked : Logged GroupShare}
    (h : pickGroup specs group streams configured = .ok picked) :
    ∀ event ∈ picked.events, event.urgency = .info := by
  by_cases hstreams : streams = 0
  · simp [pickGroup, hstreams] at h
  · by_cases heager : configured = .eager
    · simp only [pickGroup, hstreams, heager, if_true, if_false] at h
      cases h
      simp
    · simp only [pickGroup, hstreams, heager, if_false] at h
      cases h
      simp [Event.urgency]

theorem ofSpecs_events_info {settings : Settings} {specs : List Specification}
    {picked : Logged Selection} (h : Selection.ofSpecs settings specs = .ok picked) :
    ∀ event ∈ picked.events, event.urgency = .info := by
  cases hgroup : settings.group with
  | none =>
    rw [ofSpecs_of_none hgroup] at h
    cases h
    simp
  | some group =>
    simp only [Selection.ofSpecs, hgroup, bind_eq_ok_iff] at h
    obtain ⟨share, hshare, hpicked⟩ := h
    cases hpicked
    exact pickGroup_events_info hshare

/-- The warnings of a run are those of its filter by names. -/
theorem warnings_run {settings : Settings} {specs : List Specification} {out : Logged Selection}
    (hrun : Selection.run settings specs = .ok out) :
    ∃ left, Filtered settings specs left ∧ out.warnings = left.warnings := by
  obtain ⟨left, hleft, picked, hpicked, rfl⟩ := run_eq_ok_iff.mp hrun
  refine ⟨left, hleft, ?_⟩
  have hquiet : picked.events.filter (fun event => event.urgency = .warning) = [] := by
    rw [List.filter_eq_nil_iff]
    intro event hevent
    simp [ofSpecs_events_info hpicked event hevent]
  simp only [Logged.warnings, List.filter_append, hquiet]
  simp [Event.urgency]

theorem warnings_named (settings : Settings) (specs : List Specification) :
    (Selection.named settings specs).warnings =
      (settings.scenarios.filter fun name => name ∉ scenarioHeadings specs).map fun name =>
        .unknownScenario (.scenarioNotFound name (scenarioHeadings specs)) := by
  rw [Selection.named]
  split
  · rename_i hnone
    rw [List.isEmpty_iff.mp hnone]
    rfl
  · have hwarn : ∀ event ∈ (filterByNames specs settings.scenarios).events,
        decide (event.urgency = .warning) = true := by
      intro event hevent
      obtain ⟨name, -, rfl⟩ := List.mem_map.mp hevent
      rfl
    rw [Logged.warnings, List.filter_eq_self.mpr hwarn, filterByNames]
    simp [List.contains_eq_mem]

/-! ### The headings that are left -/

/-- The headings of the scenarios that the lines and the expressions of the settings ask for,
whatever names they ask for. -/
def Settings.headingsLeft (settings : Settings) (specs : List Specification) : List String :=
  ((suiteScenarios specs).filter fun entry =>
    Wanted { settings with scenarios := [] } entry.1 entry.2).map fun entry => entry.2.heading

theorem scenarioHeadings_eq_map (specs : List Specification) :
    scenarioHeadings specs = (suiteScenarios specs).map fun entry => entry.2.heading := by
  rw [scenarioHeadings, suiteScenarios, List.map_flatMap]
  refine List.flatMap_congr fun spec _ => ?_
  rw [List.map_map]
  rfl

theorem headingsLeft_subset (settings : Settings) (specs : List Specification) :
    settings.headingsLeft specs ⊆ scenarioHeadings specs := by
  rw [scenarioHeadings_eq_map]
  exact (List.filter_sublist.map _).subset

/-- Row numbers do not count for headings. -/
theorem scenarioHeadings_forgetRows (specs : List Specification) :
    scenarioHeadings (specs.map Specification.forgetRows) = scenarioHeadings specs := by
  rw [scenarioHeadings, scenarioHeadings, List.flatMap_map]
  refine List.flatMap_congr fun spec _ => ?_
  rw [Specification.forgetRows, Specification.scenarios_mapScenarios, List.map_map]
  rfl

theorem scenarioHeadings_retainIn (specs : List Specification)
    (keeps : Specification → Scenario → Bool) :
    scenarioHeadings (retainIn specs keeps) =
      ((suiteScenarios specs).filter fun entry => keeps entry.1 entry.2).map fun entry =>
        entry.2.heading := by
  rw [scenarioHeadings_eq_map, suiteScenarios_retainIn, List.map_map]
  rfl

/-- The filter by names finds the headings that are left: what comes before it is a run of
the same settings without names. -/
theorem filtered_headings {settings : Settings} {specs : List Specification}
    {left : Logged (List Specification)} (h : Filtered settings specs left) :
    ∃ before, left = Selection.named settings before ∧
      scenarioHeadings before = settings.headingsLeft specs := by
  obtain ⟨hcheck, halves, hhalves, rfl⟩ := h
  refine ⟨halves.kept, rfl, ?_⟩
  have hunnamed : Filtered { settings with scenarios := [] } specs ⟨halves.kept, []⟩ :=
    ⟨hcheck, halves, hhalves, rfl⟩
  rw [← scenarioHeadings_forgetRows, filtered_forgetRows hunnamed, scenarioHeadings_forgetRows,
    scenarioHeadings_retainIn]
  rfl

/-! ### Which names are reported -/

/-- A filter that lets more through gives the same as another only where it lets through the
same. -/
theorem map_filter_eq_iff {α β : Type} {f : α → β} {xs : List α} {p q : α → Bool}
    (h : ∀ x, q x = true → p x = true) :
    (xs.filter p).map f = (xs.filter q).map f ↔ ∀ x ∈ xs, p x = true → q x = true := by
  constructor
  · intro heq x hx hp
    have hlength : (xs.filter q).length = (xs.filter p).length := by
      simpa using congrArg List.length heq.symm
    have hsame : xs.filter q = xs.filter p :=
      (List.monotone_filter_right xs h).eq_of_length hlength
    have hmem : x ∈ xs.filter q := hsame ▸ List.mem_filter.mpr ⟨hx, hp⟩
    exact (List.mem_filter.mp hmem).2
  · intro hall
    rw [List.filter_congr fun x hx => Bool.eq_iff_iff.mpr ⟨hall x hx, h x⟩]

/-- **A run warns of the names that are not left.** There is one warning for each name asked
for that no scenario has of those that the lines and the expressions ask for; they are in
the order asked for, with suggestions from the headings of these scenarios. They name what
the suite lacks exactly when every heading of the suite that is asked for is left. -/
theorem run_warnings {settings : Settings} {specs : List Specification} {out : Logged Selection}
    (hrun : Selection.run settings specs = .ok out) :
    (out.warnings =
      (settings.scenarios.filter fun name => name ∉ settings.headingsLeft specs).map fun name =>
        .unknownScenario (.scenarioNotFound name (settings.headingsLeft specs))) ∧
    (out.warnings.map Event.message =
        (settings.scenarios.filter fun name => name ∉ scenarioHeadings specs).map notFoundText ↔
      ∀ name ∈ settings.scenarios, name ∈ scenarioHeadings specs →
        name ∈ settings.headingsLeft specs) := by
  obtain ⟨left, hleft, hwarnings⟩ := warnings_run hrun
  obtain ⟨before, rfl, hheadings⟩ := filtered_headings hleft
  rw [warnings_named, hheadings] at hwarnings
  refine ⟨hwarnings, ?_⟩
  -- A name that the suite lacks is not left either.
  have hlack : ∀ name, name ∉ scenarioHeadings specs → name ∉ settings.headingsLeft specs :=
    fun name habsent hleft => habsent (headingsLeft_subset settings specs hleft)
  have hwords : (Event.message ∘ fun name =>
      .unknownScenario (.scenarioNotFound name (settings.headingsLeft specs))) = notFoundText :=
    funext fun name => message_unknownScenario name _
  rw [hwarnings, List.map_map, hwords]
  refine (map_filter_eq_iff (by simpa using hlack)).trans (forall₂_congr fun name _ => ?_)
  rw [decide_eq_true_iff, decide_eq_true_iff, not_imp_not]

theorem run_warnings_sample :
    ∃ out, Selection.run Sample.settings Sample.suite = .ok out ∧
      out.warnings = [.unknownScenario (.scenarioNotFound "No such scenario"
        ["Log in", "Log out", "Log in", "Log in", "Log in"])] := by
  have hran : (Selection.run Sample.settings Sample.suite).map (fun _ => ()) = .ok () := by
    decide +kernel
  obtain ⟨out, hrun, -⟩ := map_eq_ok_iff.mp hran
  have hleft : Sample.settings.headingsLeft Sample.suite =
      ["Log in", "Log out", "Log in", "Log in", "Log in"] := by
    decide +kernel
  refine ⟨out, hrun, ?_⟩
  rw [(run_warnings hrun).1, hleft]
  rfl

namespace Sample

/-- A scenario beside one with a tag. -/
def sessions : Specification :=
  { heading := "Sessions", fileName := "sessions.spec",
    items := [.scenario { heading := "Log in", span := ⟨2, 4⟩ },
      .scenario { heading := "Log out", span := ⟨6, 8⟩, tags := ⟨[["slow"]]⟩ }] }

end Sample

/-- A heading of the suite may be reported as not found: here the expression of the run takes
the scenario away before its name is looked for. -/
theorem present_name_reported_missing :
    ¬ ∀ settings specs out, settings.scenarios ≠ [] → Selection.run settings specs = .ok out →
      out.warnings.map Event.message =
        (settings.scenarios.filter fun name => name ∉ scenarioHeadings specs).map notFoundText := by
  intro hall
  have hran : (Selection.run { tags := "!slow", scenarios := ["Log out"] } [Sample.sessions]).map
      (fun out => out.warnings.map Event.message) = .ok [notFoundText "Log out"] := by
    decide +kernel
  obtain ⟨out, hrun, hwarned⟩ := map_eq_ok_iff.mp hran
  have hnone := hall _ _ _ (by simp) hrun
  rw [hwarned] at hnone
  have hfound : "Log out" ∈ scenarioHeadings [Sample.sessions] := by
    decide
  simp [hfound] at hnone

end Roster

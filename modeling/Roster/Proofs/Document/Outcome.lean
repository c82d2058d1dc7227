import Roster.Document.Outcome
import Roster.Proofs.Document.Suite

/-!
The documents of outcomes are lawful.

Times, counts and rows fit where they are 64-bit words, and an outcome fits where all that it
holds does. A failure of a hook always fits. The request to sum up a specification is lawful as
well. Under which name each part of a specification's outcome stands in its document is said
apart from how the document is written and read (`Shows`).
-/

namespace Roster

open Roster.Text

/-! ### What fits a document -/

structure ScenarioOutcome.Fits (o : ScenarioOutcome) : Prop where
  span : o.span.Fits
  time : o.time < wordLimit
  specRowIndex : o.specRowIndex < wordLimit
  ownRowIndex : o.ownRowIndex < wordLimit

def ShownScenario.Fits (s : ShownScenario) : Prop :=
  s.time < wordLimit

structure ShownInstance.Fits (i : ShownInstance) : Prop where
  scenario : i.scenario.Fits
  specRowIndex : i.specRowIndex < wordLimit
  ownRowIndex : i.ownRowIndex < wordLimit

def ShownItem.Fits : ShownItem → Prop
  | .scenario s => s.Fits
  | .inst i => i.Fits
  | .comment _ => True

structure SpecOutcome.Fits (r : SpecOutcome) : Prop where
  items : ∀ item ∈ r.items, item.Fits
  scenarioCount : r.scenarioCount < wordLimit
  failedCount : r.failedCount < wordLimit
  skippedCount : r.skippedCount < wordLimit
  failedRows : ∀ row ∈ r.failedRows, row < wordLimit
  skippedRows : ∀ row ∈ r.skippedRows, row < wordLimit
  time : r.time < wordLimit

/-- What is shown of an outcome fits where the outcome does. -/
theorem ScenarioOutcome.Fits.toItem {o : ScenarioOutcome} (h : o.Fits) : o.toItem.Fits := by
  rw [ScenarioOutcome.toItem]
  split
  · exact ⟨h.time, h.specRowIndex, h.ownRowIndex⟩
  · exact h.time

structure Document.SummaryRequest.Fits (request : Document.SummaryRequest) : Prop where
  spec : request.spec.Fits
  outcomes : ∀ o ∈ request.outcomes, o.Fits

namespace Document

/-! ### Outcomes of scenarios -/

theorem lawful_status : status.Lawful fun _ => True :=
  Choice.lawful fun status => by cases status <;> rfl

theorem lawful_hookFailure : hookFailure.Lawful fun _ => True :=
  Record.lawful (by decide) <|
    .next (.needed .text) (fun _ _ => ⟨id, rfl, rfl⟩) (fun _ _ => trivial) <|
    .next (.unlessStandard .text trivial (by simp)) (fun _ _ => ⟨id, rfl, rfl⟩)
      (fun _ _ => trivial) <|
    .next (.optional .text nofun) (fun _ _ => ⟨id, rfl, rfl⟩) (fun _ _ _ _ => trivial) <|
    .done (fun _ => rfl) fun _ _ => trivial

theorem lawful_scenarioOutcome : scenarioOutcome.Lawful ScenarioOutcome.Fits :=
  Record.lawful (by decide) <|
    .next (.needed .text) (fun _ _ => ⟨id, rfl, rfl⟩) (fun _ _ => trivial) <|
    .next (.needed lawful_span) (fun _ _ => ⟨id, rfl, rfl⟩) (fun _ h => h.span) <|
    .next (.withDefault lawful_status trivial) (fun _ _ => ⟨id, rfl, rfl⟩) (fun _ _ => trivial) <|
    .next (.withDefault .duration (by decide)) (fun _ _ => ⟨id, rfl, rfl⟩) (fun _ h => h.time) <|
    .next (.unlessEmpty .texts trivial) (fun _ _ => ⟨id, rfl, rfl⟩) (fun _ _ => trivial) <|
    .next (.unlessEmpty .texts trivial) (fun _ _ => ⟨id, rfl, rfl⟩) (fun _ _ => trivial) <|
    .next (.unlessEmpty .texts trivial) (fun _ _ => ⟨id, rfl, rfl⟩) (fun _ _ => trivial) <|
    .next (.unlessEmpty .texts trivial) (fun _ _ => ⟨id, rfl, rfl⟩) (fun _ _ => trivial) <|
    .next (.unlessEmpty .texts trivial) (fun _ _ => ⟨id, rfl, rfl⟩) (fun _ _ => trivial) <|
    .next (.unlessEmpty .texts trivial) (fun _ _ => ⟨id, rfl, rfl⟩) (fun _ _ => trivial) <|
    .next (.withDefault .count (by decide)) (fun _ _ => ⟨id, rfl, rfl⟩)
      (fun _ h => h.specRowIndex) <|
    .next (.withDefault .count (by decide)) (fun _ _ => ⟨id, rfl, rfl⟩)
      (fun _ h => h.ownRowIndex) <|
    .next (.withDefault .flag trivial) (fun _ _ => ⟨id, rfl, rfl⟩) (fun _ _ => trivial) <|
    .next (.withDefault .flag trivial) (fun _ _ => ⟨id, rfl, rfl⟩) (fun _ _ => trivial) <|
    .done (fun _ => rfl) fun _ ⟨_, _, hownRow, hspecRow, _, _, _, _, _, _, htime, _, hspan, _⟩ =>
      ⟨hspan, htime, hspecRow, hownRow⟩

/-! ### What is shown -/

theorem lawful_shownScenario : shownScenario.Lawful ShownScenario.Fits :=
  Record.lawful (by decide) <|
    .next (.needed .text) (fun _ _ => ⟨id, rfl, rfl⟩) (fun _ _ => trivial) <|
    .next (.needed lawful_status) (fun _ _ => ⟨id, rfl, rfl⟩) (fun _ _ => trivial) <|
    .next (.needed .duration) (fun _ _ => ⟨id, rfl, rfl⟩) (fun _ h => h) <|
    .next (.unlessEmpty .texts trivial) (fun _ _ => ⟨id, rfl, rfl⟩) (fun _ _ => trivial) <|
    .next (.unlessEmpty .texts trivial) (fun _ _ => ⟨id, rfl, rfl⟩) (fun _ _ => trivial) <|
    .next (.unlessEmpty .texts trivial) (fun _ _ => ⟨id, rfl, rfl⟩) (fun _ _ => trivial) <|
    .next (.unlessEmpty .texts trivial) (fun _ _ => ⟨id, rfl, rfl⟩) (fun _ _ => trivial) <|
    .done (fun _ => rfl) fun _ ⟨_, _, _, _, htime, _⟩ => htime

theorem lawful_shownInstance : shownInstance.Lawful ShownInstance.Fits :=
  Record.lawful (by decide) <|
    .next (.needed lawful_shownScenario) (fun _ _ => ⟨id, rfl, rfl⟩) (fun _ h => h.scenario) <|
    .next (.needed .flag) (fun _ _ => ⟨id, rfl, rfl⟩) (fun _ _ => trivial) <|
    .next (.needed .flag) (fun _ _ => ⟨id, rfl, rfl⟩) (fun _ _ => trivial) <|
    .next (.needed .count) (fun _ _ => ⟨id, rfl, rfl⟩) (fun _ h => h.specRowIndex) <|
    .next (.needed .count) (fun _ _ => ⟨id, rfl, rfl⟩) (fun _ h => h.ownRowIndex) <|
    .done (fun _ => rfl) fun _ ⟨hownRow, hspecRow, _, _, hscenario, _⟩ =>
      ⟨hscenario, hspecRow, hownRow⟩

theorem lawful_shownItem : shownItem.Lawful ShownItem.Fits := by
  refine Kinds.lawful (by decide) (fun a => ?_) ?_
  · cases a <;> simp [Kind.of]
  · simp only [List.forall_mem_cons]
    refine ⟨.of lawful_shownScenario ?_ fun _ => Iff.rfl,
      .of lawful_shownInstance ?_ fun _ => Iff.rfl, .of .text ?_ fun _ => Iff.rfl, by simp⟩
    -- A value is unwrapped by its own kind alone.
    all_goals
      intro a b h
      cases a <;> simp_all

/-! ### Outcomes of specifications -/

theorem lawful_hookFailures : (Format.list hookFailure).Lawful fun _ => True :=
  lawful_hookFailure.list.always fun _ _ _ => trivial

theorem lawful_specOutcome : specOutcome.Lawful SpecOutcome.Fits :=
  Record.lawful (by decide) <|
    .next (.needed .text) (fun _ _ => ⟨id, rfl, rfl⟩) (fun _ _ => trivial) <|
    .next (.needed .text) (fun _ _ => ⟨id, rfl, rfl⟩) (fun _ _ => trivial) <|
    .next (.needed lawful_shownItem.list) (fun _ _ => ⟨id, rfl, rfl⟩) (fun _ h => h.items) <|
    .next (.needed .count) (fun _ _ => ⟨id, rfl, rfl⟩) (fun _ h => h.scenarioCount) <|
    .next (.needed .count) (fun _ _ => ⟨id, rfl, rfl⟩) (fun _ h => h.failedCount) <|
    .next (.needed .count) (fun _ _ => ⟨id, rfl, rfl⟩) (fun _ h => h.skippedCount) <|
    .next (.needed .flag) (fun _ _ => ⟨id, rfl, rfl⟩) (fun _ _ => trivial) <|
    .next (.needed .flag) (fun _ _ => ⟨id, rfl, rfl⟩) (fun _ _ => trivial) <|
    .next (.needed Format.Lawful.count.list) (fun _ _ => ⟨id, rfl, rfl⟩)
      (fun _ h => h.failedRows) <|
    .next (.needed Format.Lawful.count.list) (fun _ _ => ⟨id, rfl, rfl⟩)
      (fun _ h => h.skippedRows) <|
    .next (.needed .duration) (fun _ _ => ⟨id, rfl, rfl⟩) (fun _ h => h.time) <|
    .next (.needed lawful_hookFailures) (fun _ _ => ⟨id, rfl, rfl⟩) (fun _ _ => trivial) <|
    .next (.needed lawful_hookFailures) (fun _ _ => ⟨id, rfl, rfl⟩) (fun _ _ => trivial) <|
    .next (.needed .texts) (fun _ _ => ⟨id, rfl, rfl⟩) (fun _ _ => trivial) <|
    .done (fun _ => rfl) fun _ ⟨_, _, _, htime, hskippedRows, hfailedRows, _, _, hskipped, hfailed,
        hcount, hitems, _⟩ =>
      ⟨hitems, hcount, hfailed, hskipped, hfailedRows, hskippedRows, htime⟩

/-- The members of an object show what is reported on a specification: texts, counts, flags and
rows stand there as they are, and the time, the items and the failures of hooks are read back
from theirs. -/
structure Shows (members : List (String × Json)) (r : SpecOutcome) : Prop where
  heading : members.lookup "heading" = some (.str r.heading)
  fileName : members.lookup "file_name" = some (.str r.fileName)
  items : (members.lookup "items").bind (Format.list shownItem).read = some r.items
  scenarioCount : members.lookup "scenario_count" = some (.nat r.scenarioCount)
  failedCount : members.lookup "scenario_failed_count" = some (.nat r.failedCount)
  skippedCount : members.lookup "scenario_skipped_count" = some (.nat r.skippedCount)
  isFailed : members.lookup "is_failed" = some (.bool r.isFailed)
  skipped : members.lookup "skipped" = some (.bool r.skipped)
  failedRows : members.lookup "failed_data_table_rows" = some (.arr (r.failedRows.map .nat))
  skippedRows : members.lookup "skipped_data_table_rows" = some (.arr (r.skippedRows.map .nat))
  time : (members.lookup "execution_time_ms").bind Format.duration.read = some r.time
  preHookFailures :
    (members.lookup "pre_hook_failures").bind (Format.list hookFailure).read =
      some r.preHookFailures
  postHookFailures :
    (members.lookup "post_hook_failures").bind (Format.list hookFailure).read =
      some r.postHookFailures
  errors : members.lookup "errors" = some (.strings r.errors)

/-- An outcome is written as an object that shows it. A count may be any number. -/
theorem exists_shows {r : SpecOutcome} (hitems : ∀ item ∈ r.items, item.Fits)
    (htime : r.time < wordLimit) :
    ∃ members, specOutcome.write r = .obj members ∧ Shows members r :=
  ⟨_, rfl,
    { heading := rfl
      fileName := rfl
      items := lawful_shownItem.list.read_write hitems
      scenarioCount := rfl
      failedCount := rfl
      skippedCount := rfl
      isFailed := rfl
      skipped := rfl
      failedRows := rfl
      skippedRows := rfl
      time := Format.Lawful.duration.read_write htime
      preHookFailures := lawful_hookFailures.read_write trivial
      postHookFailures := lawful_hookFailures.read_write trivial
      errors := rfl }⟩

theorem lawful_summaryRequest : summaryRequest.Lawful SummaryRequest.Fits :=
  Record.lawful (by decide) <|
    .next (.needed lawful_specification) (fun _ _ => ⟨id, rfl, rfl⟩) (fun _ h => h.spec) <|
    .next (.withDefault lawful_scenarioOutcome.list (by simp)) (fun _ _ => ⟨id, rfl, rfl⟩)
      (fun _ h => h.outcomes) <|
    .next (.withDefault lawful_hookFailures trivial) (fun _ _ => ⟨id, rfl, rfl⟩)
      (fun _ _ => trivial) <|
    .next (.withDefault lawful_hookFailures trivial) (fun _ _ => ⟨id, rfl, rfl⟩)
      (fun _ _ => trivial) <|
    .done (fun _ => rfl) fun _ ⟨_, _, houtcomes, hspec, _⟩ => ⟨hspec, houtcomes⟩

end Document

end Roster

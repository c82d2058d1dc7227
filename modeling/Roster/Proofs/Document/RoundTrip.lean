import Roster.Document.Selection
import Roster.Proofs.Document.Outcome

/-!
Documents read back.

Settings, selections and the shares of groups are lawful, as suites and outcomes are. So every
document that can be written is read back as it was, from its JSON value and from its text,
and a document that was read and written again is read as the same value
(`documents_roundTrip`).
-/

namespace Roster

open Roster.Text

/-! ### What fits a document -/

structure Settings.Fits (settings : Settings) : Prop where
  lines : ∀ line ∈ settings.lines, line < wordLimit
  streams : settings.streams < wordLimit
  group : ∀ group ∈ settings.group, group < wordLimit

structure Selection.Fits (selection : Selection) : Prop where
  specs : ∀ spec ∈ selection.specs, spec.Fits
  streams : selection.streams < wordLimit
  group : ∀ group ∈ selection.group, group < wordLimit

structure GroupShare.Fits (share : GroupShare) : Prop where
  group : share.group < wordLimit
  specs : ∀ spec ∈ share.specs, spec.Fits

namespace Document

/-! ### Selections -/

theorem lawful_strategy : strategy.Lawful fun _ => True :=
  Choice.lawful fun strategy => by cases strategy <;> rfl

theorem lawful_settings : settings.Lawful Settings.Fits :=
  Record.lawful (by decide) <|
    .next (.withDefault .text trivial) (fun _ _ => ⟨id, rfl, rfl⟩) (fun _ _ => trivial) <|
    .next (.withDefault .texts trivial) (fun _ _ => ⟨id, rfl, rfl⟩) (fun _ _ => trivial) <|
    .next (.withDefault Format.Lawful.count.list (by simp)) (fun _ _ => ⟨id, rfl, rfl⟩)
      (fun _ h => h.lines) <|
    .next (.withDefault .texts trivial) (fun _ _ => ⟨id, rfl, rfl⟩) (fun _ _ => trivial) <|
    .next (.needed .count) (fun _ _ => ⟨id, rfl, rfl⟩) (fun _ h => h.streams) <|
    .next (.optional .count nofun) (fun _ _ => ⟨id, rfl, rfl⟩) (fun _ h => h.group) <|
    .next (.withDefault lawful_strategy trivial) (fun _ _ => ⟨id, rfl, rfl⟩) (fun _ _ => trivial) <|
    .done (fun _ => rfl) fun _ ⟨_, hgroup, hstreams, _, hlines, _⟩ => ⟨hlines, hstreams, hgroup⟩

theorem lawful_selection : selection.Lawful Selection.Fits :=
  Record.lawful (by decide) <|
    .next (.needed lawful_suite) (fun _ _ => ⟨id, rfl, rfl⟩) (fun _ h => h.specs) <|
    .next (.needed lawful_strategy) (fun _ _ => ⟨id, rfl, rfl⟩) (fun _ _ => trivial) <|
    .next (.needed .count) (fun _ _ => ⟨id, rfl, rfl⟩) (fun _ h => h.streams) <|
    .next (.optional .count nofun) (fun _ _ => ⟨id, rfl, rfl⟩) (fun _ h => h.group) <|
    .next (.optional .text nofun) (fun _ _ => ⟨id, rfl, rfl⟩) (fun _ _ _ _ => trivial) <|
    .done (fun _ => rfl) fun _ ⟨_, hgroup, hstreams, _, hspecs, _⟩ => ⟨hspecs, hstreams, hgroup⟩

theorem lawful_groupShare : groupShare.Lawful GroupShare.Fits :=
  Record.lawful (by decide) <|
    .next (.needed .count) (fun _ _ => ⟨id, rfl, rfl⟩) (fun _ h => h.group) <|
    .next (.needed lawful_suite) (fun _ _ => ⟨id, rfl, rfl⟩) (fun _ h => h.specs) <|
    .next (.needed lawful_strategy) (fun _ _ => ⟨id, rfl, rfl⟩) (fun _ _ => trivial) <|
    .next (.optional .text nofun) (fun _ _ => ⟨id, rfl, rfl⟩) (fun _ _ _ _ => trivial) <|
    .done (fun _ => rfl) fun _ ⟨_, _, hspecs, hgroup, _⟩ => ⟨hgroup, hspecs⟩

/-- **Documents lose nothing.** A value of any document type whose numbers are 64-bit words is
read back as it is from the JSON value, and from the text, that is written for it. What was
read from any document, in whatever layout and with whatever members left out or unknown, is
read back the same when it is written again. -/
theorem documents_roundTrip :
    specification.RoundTrips Specification.Fits ∧ scenario.RoundTrips Scenario.Fits ∧
      item.RoundTrips Item.Fits ∧ table.RoundTrips Table.Fits ∧ bucket.RoundTrips Bucket.Fits ∧
      scenarioOutcome.RoundTrips ScenarioOutcome.Fits ∧
      specOutcome.RoundTrips SpecOutcome.Fits ∧ shownItem.RoundTrips ShownItem.Fits ∧
      hookFailure.RoundTrips (fun _ => True) ∧ settings.RoundTrips Settings.Fits ∧
      selection.RoundTrips Selection.Fits ∧ groupShare.RoundTrips GroupShare.Fits :=
  ⟨lawful_specification.roundTrips, lawful_scenario.roundTrips, lawful_item.roundTrips,
    lawful_table.roundTrips, lawful_bucket.roundTrips, lawful_scenarioOutcome.roundTrips,
    lawful_specOutcome.roundTrips, lawful_shownItem.roundTrips, lawful_hookFailure.roundTrips,
    lawful_settings.roundTrips, lawful_selection.roundTrips, lawful_groupShare.roundTrips⟩

end Document

namespace Sample

/-- The row of a table that an instance runs with, on the last line that there is. -/
def row : Table :=
  { headers := ["name", "tags"]
    rows := [[{ value := "a, b", kind := .dynamic }, { value := "" }]]
    line := 18446744073709551615 }

/-- A specification with members that are left out in writing, and others that are not. -/
def ledger : Specification :=
  { heading := "the \"ledger\"\n"
    fileName := "specs\\ledger.spec"
    items := [
      .tags ⟨[["smoke", "slow"], []]⟩,
      .scenario { heading := "é\x01", span := ⟨3, 9⟩, specRow := some row, specRowIndex := 2 },
      .table {},
      .tearDown { text := "\t" }]
    dataTable := some row }

theorem row_fits : row.Fits := by
  unfold Table.Fits
  decide

theorem ledger_fits : ledger.Fits where
  items := by
    have hinstance : Scenario.Fits
        { heading := "é\x01", span := ⟨3, 9⟩, specRow := some row, specRowIndex := 2 } :=
      ⟨⟨by decide, by decide⟩, nofun, by simpa using row_fits, nofun, by decide, by decide⟩
    simp only [ledger, List.forall_mem_cons, Item.Fits, Table.Fits, Step.Fits]
    exact ⟨trivial, hinstance, by decide, by decide, nofun⟩
  dataTable := by simpa [ledger] using row_fits

end Sample

theorem documents_roundTrip_sample :
    Sample.ledger.Fits ∧
      Document.specification.readText (Document.specification.writeText Sample.ledger) =
        .ok Sample.ledger ∧
      -- An array of members in their order, cut short of the line.
      Document.table.read (.arr [.arr [.str "name"], .arr []]) = some ⟨["name"], [], 0⟩ ∧
      Document.table.read (Document.table.write ⟨["name"], [], 0⟩) = some ⟨["name"], [], 0⟩ := by
  obtain ⟨hspec, -, -, htable, -⟩ := Document.documents_roundTrip
  refine ⟨Sample.ledger_fits, hspec.text _ Sample.ledger_fits, rfl, ?_⟩
  exact htable.valueAgain (.arr [.arr [.str "name"], .arr []]) _ rfl

end Roster

import Roster.Document.Suite
import Roster.Proofs.Document.Record

/-!
The documents of a suite are lawful.

A line or a row of a table fits where it is a 64-bit word, and whatever holds lines and rows
fits where these do. Texts, tags and cells always fit.
-/

namespace Roster

open Roster.Text

/-! ### What fits a document -/

structure Span.Fits (s : Span) : Prop where
  start : s.start < wordLimit
  stop : s.stop < wordLimit

def Table.Fits (t : Table) : Prop :=
  t.line < wordLimit

def Comment.Fits (c : Comment) : Prop :=
  c.line < wordLimit

def Step.Fits (s : Step) : Prop :=
  s.line < wordLimit

structure Scenario.Fits (s : Scenario) : Prop where
  span : s.span.Fits
  steps : ∀ step ∈ s.steps, step.Fits
  specRow : ∀ t ∈ s.specRow, t.Fits
  ownRow : ∀ t ∈ s.ownRow, t.Fits
  specRowIndex : s.specRowIndex < wordLimit
  ownRowIndex : s.ownRowIndex < wordLimit

def Item.Fits : Item → Prop
  | .scenario s => s.Fits
  | .step s => s.Fits
  | .comment c => c.Fits
  | .table t => t.Fits
  | .tags _ => True
  | .tearDown s => s.Fits

structure Specification.Fits (spec : Specification) : Prop where
  items : ∀ item ∈ spec.items, item.Fits
  dataTable : ∀ t ∈ spec.dataTable, t.Fits

def Bucket.Fits (b : Bucket) : Prop :=
  ∀ spec ∈ b.specs, spec.Fits

namespace Document

open Format (Lawful)

/-! ### Tables, comments and steps -/

theorem lawful_span : span.Lawful Span.Fits :=
  Record.lawful (by decide) <|
    .next (.needed .count) (fun _ _ => ⟨id, rfl, rfl⟩) (fun _ h => h.start) <|
    .next (.needed .count) (fun _ _ => ⟨id, rfl, rfl⟩) (fun _ h => h.stop) <|
    .done (fun _ => rfl) fun _ ⟨hstop, hstart, _⟩ => ⟨hstart, hstop⟩

theorem lawful_tags : tags.Lawful fun _ => True :=
  (Lawful.texts.list.always fun _ _ _ => trivial).wrap (fun _ => rfl) (fun _ => rfl)

theorem lawful_cellKind : cellKind.Lawful fun _ => True :=
  Choice.lawful fun kind => by cases kind <;> rfl

theorem lawful_cell : cell.Lawful fun _ => True :=
  Record.lawful (by decide) <|
    .next (.needed .text) (fun _ _ => ⟨id, rfl, rfl⟩) (fun _ _ => trivial) <|
    .next (.withDefault lawful_cellKind trivial) (fun _ _ => ⟨id, rfl, rfl⟩) (fun _ _ => trivial) <|
    .done (fun _ => rfl) fun _ _ => trivial

theorem lawful_cells : (Format.list (.list cell)).Lawful fun _ => True :=
  (lawful_cell.list.list).always fun _ _ _ _ _ => trivial

theorem lawful_table : table.Lawful Table.Fits :=
  Record.lawful (by decide) <|
    .next (.needed .texts) (fun _ _ => ⟨id, rfl, rfl⟩) (fun _ _ => trivial) <|
    .next (.withDefault lawful_cells trivial) (fun _ _ => ⟨id, rfl, rfl⟩) (fun _ _ => trivial) <|
    .next (.withDefault .count (by decide)) (fun _ _ => ⟨id, rfl, rfl⟩) (fun _ h => h) <|
    .done (fun _ => rfl) fun _ ⟨hline, _⟩ => hline

theorem lawful_comment : comment.Lawful Comment.Fits :=
  Record.lawful (by decide) <|
    .next (.needed .text) (fun _ _ => ⟨id, rfl, rfl⟩) (fun _ _ => trivial) <|
    .next (.withDefault .count (by decide)) (fun _ _ => ⟨id, rfl, rfl⟩) (fun _ h => h) <|
    .done (fun _ => rfl) fun _ ⟨hline, _⟩ => hline

theorem lawful_step : step.Lawful Step.Fits :=
  Record.lawful (by decide) <|
    .next (.needed .text) (fun _ _ => ⟨id, rfl, rfl⟩) (fun _ _ => trivial) <|
    .next (.withDefault .count (by decide)) (fun _ _ => ⟨id, rfl, rfl⟩) (fun _ h => h) <|
    .done (fun _ => rfl) fun _ ⟨hline, _⟩ => hline

/-! ### Scenarios and specifications -/

theorem lawful_scenario : scenario.Lawful Scenario.Fits :=
  Record.lawful (by decide) <|
    .next (.needed .text) (fun _ _ => ⟨id, rfl, rfl⟩) (fun _ _ => trivial) <|
    .next (.needed lawful_span) (fun _ _ => ⟨id, rfl, rfl⟩) (fun _ h => h.span) <|
    .next (.withDefault lawful_tags trivial) (fun _ _ => ⟨id, rfl, rfl⟩) (fun _ _ => trivial) <|
    .next (.optional .text nofun) (fun _ _ => ⟨id, rfl, rfl⟩) (fun _ _ _ _ => trivial) <|
    .next (.withDefault lawful_step.list (by simp)) (fun _ _ => ⟨id, rfl, rfl⟩)
      (fun _ h => h.steps) <|
    .next (.optional lawful_table nofun) (fun _ _ => ⟨id, rfl, rfl⟩) (fun _ h => h.specRow) <|
    .next (.optional lawful_table nofun) (fun _ _ => ⟨id, rfl, rfl⟩) (fun _ h => h.ownRow) <|
    .next (.withDefault .count (by decide)) (fun _ _ => ⟨id, rfl, rfl⟩)
      (fun _ h => h.specRowIndex) <|
    .next (.withDefault .count (by decide)) (fun _ _ => ⟨id, rfl, rfl⟩)
      (fun _ h => h.ownRowIndex) <|
    .done (fun _ => rfl) fun _ ⟨hownIndex, hspecIndex, hownRow, hspecRow, hsteps, _, _, hspan, _⟩ =>
      ⟨hspan, hsteps, hspecRow, hownRow, hspecIndex, hownIndex⟩

theorem lawful_item : item.Lawful Item.Fits := by
  refine Kinds.lawful (by decide) (fun a => ?_) ?_
  · cases a <;> simp [Kind.of, Item.scenario?]
  · simp only [List.forall_mem_cons]
    refine ⟨.of lawful_scenario ?_ fun _ => Iff.rfl, .of lawful_step ?_ fun _ => Iff.rfl,
      .of lawful_comment ?_ fun _ => Iff.rfl, .of lawful_table ?_ fun _ => Iff.rfl,
      .of lawful_tags ?_ fun _ => Iff.rfl, .of lawful_step ?_ fun _ => Iff.rfl, by simp⟩
    -- A value is unwrapped by its own kind alone.
    all_goals
      intro a b h
      cases a <;> simp_all [Item.scenario?]

theorem lawful_specification : specification.Lawful Specification.Fits :=
  Record.lawful (by decide) <|
    .next (.needed .text) (fun _ _ => ⟨id, rfl, rfl⟩) (fun _ _ => trivial) <|
    .next (.needed .text) (fun _ _ => ⟨id, rfl, rfl⟩) (fun _ _ => trivial) <|
    .next (.withDefault lawful_item.list (by simp)) (fun _ _ => ⟨id, rfl, rfl⟩)
      (fun _ h => h.items) <|
    .next (.withDefault lawful_tags trivial) (fun _ _ => ⟨id, rfl, rfl⟩) (fun _ _ => trivial) <|
    .next (.optional .text nofun) (fun _ _ => ⟨id, rfl, rfl⟩) (fun _ _ _ _ => trivial) <|
    .next (.optional lawful_table nofun) (fun _ _ => ⟨id, rfl, rfl⟩) (fun _ h => h.dataTable) <|
    .done (fun _ => rfl) fun _ ⟨hdataTable, _, _, hitems, _⟩ => ⟨hitems, hdataTable⟩

theorem lawful_suite : suite.Lawful fun specs => ∀ spec ∈ specs, spec.Fits :=
  lawful_specification.list

theorem lawful_bucket : bucket.Lawful Bucket.Fits :=
  Record.lawful (by decide) <|
    .next (.needed lawful_suite) (fun _ _ => ⟨id, rfl, rfl⟩) (fun _ h => h) <|
    .done (fun _ => rfl) fun _ ⟨hspecs, _⟩ => hspecs

end Document

end Roster

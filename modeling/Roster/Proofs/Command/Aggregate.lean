import Roster.Command.Run
import Roster.Proofs.Document.Outcome
import Roster.Proofs.Except
import Roster.Proofs.Outcome.Summary

/-!
What the summary of a specification says.

Hooks and scenarios are summed up apart: the failures of hooks decide the flags together with
the scenarios and stand in lists of their own, and all else comes from the scenarios alone
(`summarize_eq`). The command prints an object that shows this summary of the request in its
file, and ends well, whatever becomes of its log file (`aggregate_classifies`). That is said of
times that add up to a 64-bit word, and not of what goes to the error stream.
-/

namespace Roster

/-! ### The summary -/

namespace SpecOutcome

variable {spec : Specification} {outcomes : List ScenarioOutcome} {pre post : List HookFailure}

/-- Where all outcomes are skips, none is a failure. -/
theorem any_isFailed_of_all_isSkipped (h : outcomes.all ScenarioOutcome.isSkipped = true) :
    outcomes.any ScenarioOutcome.isFailed = false := by
  rw [List.any_eq_false]
  intro o ho hfailed
  have hskipped : o.status = .skipped := by
    simpa [ScenarioOutcome.isSkipped] using List.all_eq_true.mp h o ho
  simp [ScenarioOutcome.isFailed, hskipped] at hfailed

/-- The summary is the outcome of the scenarios, but for its flags and the failures of hooks. -/
theorem summarize_eq (spec : Specification) (outcomes : List ScenarioOutcome)
    (pre post : List HookFailure) :
    summarize spec outcomes pre post =
      { (ofSpec spec).addOutcomes outcomes with
        isFailed := !pre.isEmpty || !post.isEmpty || outcomes.any ScenarioOutcome.isFailed
        skipped := !outcomes.isEmpty && outcomes.all ScenarioOutcome.isSkipped &&
          (pre.isEmpty && post.isEmpty)
        preHookFailures := pre
        postHookFailures := post } := by
  simp only [summarize, addOutcomes, addFrom_eq]
  cases hskips : !outcomes.isEmpty && outcomes.all ScenarioOutcome.isSkipped with
  | false =>
    cases pre <;> cases post <;> simp [fail, addPreHooks, addPostHooks, ofSpec]
  | true =>
    have hnone := any_isFailed_of_all_isSkipped (Bool.and_eq_true_iff.mp hskips).2
    cases pre <;> cases post <;>
      simp [fail, addPreHooks, addPostHooks, setSkipped, ofSpec, hnone]

theorem summarize_time :
    (summarize spec outcomes pre post).time = (outcomes.map ScenarioOutcome.time).sum := by
  simp [summarize_eq, addOutcomes, addFrom_eq, ofSpec]

theorem summarize_items :
    (summarize spec outcomes pre post).items = outcomes.map ScenarioOutcome.toItem := by
  simp [summarize_eq, addOutcomes, addFrom_eq, ofSpec]

theorem summarize_items_fit (h : ∀ o ∈ outcomes, o.Fits) :
    ∀ item ∈ (summarize spec outcomes pre post).items, item.Fits := by
  rw [summarize_items, List.forall_mem_map]
  exact fun o ho => (h o ho).toItem

theorem summarize_isFailed_iff : (summarize spec outcomes pre post).isFailed = true ↔
    pre ≠ [] ∨ post ≠ [] ∨ ∃ o ∈ outcomes, o.status = .failed := by
  rw [summarize_eq]
  simp [ScenarioOutcome.isFailed, or_assoc]

theorem summarize_skipped_iff : (summarize spec outcomes pre post).skipped = true ↔
    outcomes ≠ [] ∧ (∀ o ∈ outcomes, o.status = .skipped) ∧ pre = [] ∧ post = [] := by
  rw [summarize_eq]
  simp [ScenarioOutcome.isSkipped, and_assoc]

theorem summarize_not_failed_and_skipped :
    ¬ ((summarize spec outcomes pre post).isFailed = true ∧
      (summarize spec outcomes pre post).skipped = true) := by
  rw [summarize_isFailed_iff, summarize_skipped_iff]
  rintro ⟨hpre | hpost | ⟨o, ho, hfailed⟩, -, hskipped, hnoPre, hnoPost⟩
  · exact hpre hnoPre
  · exact hpost hnoPost
  · rw [hskipped o ho] at hfailed
    cases hfailed

end SpecOutcome

/-! ### The command -/

namespace Command

open Roster.Document

section Hosted

variable {d d' : Directory} {i : Invocation} {path text : String}

/-- What a path leads to does not depend on the files, unless it leads to none. -/
theorem Directory.nameAt_congr {name : String} (hname : d.nameAt path = .ok name)
    (d' : Directory) : d'.nameAt path = .ok name := by
  unfold nameAt at hname ⊢
  split at hname <;> simp_all

/-- Making a file takes nothing from the files that are there. -/
theorem Directory.textAt_withFile {other : String} (htext : d.textAt path = .ok text)
    (hfile : d.withFile other = .ok d') : d'.textAt path = .ok text := by
  obtain ⟨name, hname, htext⟩ := bind_eq_ok_iff.mp htext
  obtain ⟨added, -, hadded⟩ := bind_eq_ok_iff.mp hfile
  have hlookup : d.files.lookup name = some text := by
    cases hfound : d.files.lookup name with
    | none => simp [hfound] at htext
    | some found => simpa [hfound] using htext
  rw [← Except.ok.inj hadded]
  split
  · exact bind_eq_ok_iff.mpr ⟨name, hname, by rw [hlookup]⟩
  · have hsame := nameAt_congr hname { d with files := d.files ++ [(added, "")] }
    exact bind_eq_ok_iff.mpr ⟨name, hsame, by rw [List.lookup_append, hlookup]; rfl⟩

/-- Opening a log file takes nothing from the files that are there. -/
theorem textAt_logNote (htext : d.textAt path = .ok text) (logFile : Option String) :
    ((logNote Directory.host logFile).run d).run.2.textAt path = .ok text := by
  cases logFile with
  | none => exact htext
  | some log =>
    cases hfile : d.withFile log with
    | error problem => simpa [logNote, Directory.host, hfile] using htext
    | ok d' => simpa [logNote, Directory.host, hfile] using Directory.textAt_withFile htext hfile

theorem run_readFileText (htext : d.textAt path = .ok text) :
    (readFileText Directory.host path).run.run d = pure (.ok text, d) := by
  simp only [readFileText, Directory.host, bind_pure_comp, liftM_map, bind_map_left,
    ExceptT.run_bind, ExceptT.run_liftM, StateT.run_bind, StateT.run_get, pure_bind]
  rw [htext]
  rfl

theorem run_perform_aggregate (hverb : i.verb = .aggregate path)
    (htext : d.textAt path = .ok text) :
    (perform Directory.host i).run.run d = pure (aggregateFrom text i.common.json, d) := by
  rw [perform, hverb]
  simp [run_readFileText htext, ExceptT.run_bind]

/-- A request that can be read is always summed up. -/
theorem aggregateFrom_eq_ok {request : SummaryRequest}
    (hrequest : summaryRequest.readText text = .ok request) (json : Bool) :
    let r := SpecOutcome.summarize request.spec request.outcomes request.preHooks request.postHooks
    ∃ printed, aggregateFrom text json = .ok printed ∧
      printed.out = specOutcome.writeText r ++ "\n" := by
  rw [aggregateFrom, hrequest]
  exact ⟨_, rfl, rfl⟩

/-- The summary is printed, whatever becomes of the log file. -/
theorem run_aggregate {request : SummaryRequest} (hverb : i.verb = .aggregate path)
    (htext : d.textAt path = .ok text) (hrequest : summaryRequest.readText text = .ok request)
    (reader : Reader) :
    let r := SpecOutcome.summarize request.spec request.outcomes request.preHooks request.postHooks
    let ending := ((run Directory.host reader i).run d).run.1
    ending.status = 0 ∧ ending.out = specOutcome.writeText r ++ "\n" := by
  intro r ending
  obtain ⟨printed, hprinted, hout⟩ := aggregateFrom_eq_ok hrequest i.common.json
  have hperform := run_perform_aggregate hverb (textAt_logNote htext i.common.logFile)
  simp only [ending, run]
  simp [hperform, hprinted, hout, r]

end Hosted

/-- **A specification is summed up for what became of it.** On a file with any request whose
times add up to a 64-bit word, the command ends well and prints an object that shows an outcome.
The specification failed exactly if a hook failed or a scenario did. It was skipped exactly if
it has scenario outcomes, all of them are skips, and no hook failed; so it is never both. All
failures of hooks are listed in order. But for the flags and these lists, the outcome is what
the scenario outcomes alone come to. -/
theorem aggregate_classifies {d : Directory} {i : Invocation} {path text : String}
    {request : SummaryRequest} (hverb : i.verb = .aggregate path)
    (htext : d.textAt path = .ok text) (hrequest : summaryRequest.readText text = .ok request)
    (htime : (request.outcomes.map ScenarioOutcome.time).sum < Text.wordLimit) (reader : Reader) :
    let ending := ((run Directory.host reader i).run d).run.1
    ending.status = 0 ∧ ∃ r members, ending.out = specOutcome.writeText r ++ "\n" ∧
      Json.read? ending.out = some (.obj members) ∧ Shows members r ∧
      (r.isFailed = true ↔ request.preHooks ≠ [] ∨ request.postHooks ≠ [] ∨
        ∃ o ∈ request.outcomes, o.status = .failed) ∧
      (r.skipped = true ↔ request.outcomes ≠ [] ∧ (∀ o ∈ request.outcomes, o.status = .skipped) ∧
        request.preHooks = [] ∧ request.postHooks = []) ∧
      ¬ (r.isFailed = true ∧ r.skipped = true) ∧
      r.preHookFailures = request.preHooks ∧ r.postHookFailures = request.postHooks ∧
      r = { (SpecOutcome.ofSpec request.spec).addOutcomes request.outcomes with
        isFailed := r.isFailed
        skipped := r.skipped
        preHookFailures := r.preHookFailures
        postHookFailures := r.postHookFailures } := by
  intro ending
  obtain ⟨hstatus, hout⟩ := run_aggregate hverb htext hrequest reader
  have houtcomes := (lawful_summaryRequest.fits_of_readText hrequest).outcomes
  obtain ⟨members, hwrite, hshows⟩ := exists_shows
    (SpecOutcome.summarize_items_fit houtcomes) (SpecOutcome.summarize_time.trans_lt htime)
  refine ⟨hstatus, _, members, hout, ?_, hshows, SpecOutcome.summarize_isFailed_iff,
    SpecOutcome.summarize_skipped_iff, SpecOutcome.summarize_not_failed_and_skipped, ?_⟩
  · rw [hout, ← hwrite]
    exact Json.read?_toPretty_append (lawful_specOutcome.plain _) (Json.gap_newLine 0)
  · rw [SpecOutcome.summarize_eq]
    exact ⟨rfl, rfl, rfl⟩

end Command

namespace Sample

/-- Both rows of a scenario were skipped, and then a hook failed. -/
def skippedRows : Document.SummaryRequest :=
  let row (index : Nat) : ScenarioOutcome :=
    { heading := "Ship the order", span := ⟨5, 9⟩, status := .skipped, time := 4,
      specRowIndex := index, isSpecDriven := true }
  { spec := { heading := "Orders", fileName := "orders.spec" }
    outcomes := [row 0, row 1]
    postHooks := [{ message := "disk full" }] }

theorem skippedRows_fits : skippedRows.Fits where
  spec := ⟨by simp [skippedRows], by simp [skippedRows]⟩
  outcomes := by
    simp only [skippedRows, List.forall_mem_cons]
    exact ⟨⟨⟨by decide, by decide⟩, by decide, by decide, by decide⟩,
      ⟨⟨by decide, by decide⟩, by decide, by decide, by decide⟩, nofun⟩

/-- The text of the request, in a file of a directory. -/
def requestText : String :=
  Document.summaryRequest.writeText skippedRows

def directory : Command.Directory :=
  { files := [("notes.txt", ""), ("results.json", requestText)] }

/-- The command on that file, with a log file that cannot be opened. -/
def summing : Command.Invocation :=
  ⟨.aggregate "./results.json", { logFile := some "missing/log" }⟩

end Sample

theorem aggregate_classifies_sample :
    Sample.summing.verb = .aggregate "./results.json" ∧
      Sample.directory.textAt "./results.json" = .ok Sample.requestText ∧
      Document.summaryRequest.readText Sample.requestText = .ok Sample.skippedRows ∧
      (Sample.skippedRows.outcomes.map ScenarioOutcome.time).sum = 8 ∧
      ∃ members,
        Json.read? ((Command.run Command.Directory.host .tool Sample.summing).run
          Sample.directory).run.1.out = some (.obj members) ∧
        members.lookup "is_failed" = some (.bool true) ∧
        members.lookup "skipped" = some (.bool false) ∧
        members.lookup "scenario_count" = some (.nat 1) ∧
        members.lookup "skipped_data_table_rows" = some (.arr [.nat 0, .nat 1]) ∧
        (members.lookup "execution_time_ms").bind Document.Format.duration.read = some 8 ∧
        (members.lookup "post_hook_failures").bind
          (Document.Format.list Document.hookFailure).read = some [{ message := "disk full" }] := by
  have htext : Sample.directory.textAt "./results.json" = .ok Sample.requestText := rfl
  have hread : Document.summaryRequest.readText Sample.requestText = .ok Sample.skippedRows :=
    Document.lawful_summaryRequest.roundTrips.text _ Sample.skippedRows_fits
  have htime : (Sample.skippedRows.outcomes.map ScenarioOutcome.time).sum < Text.wordLimit := by
    decide
  obtain ⟨-, r, members, -, hprinted, hshows, hfailed, -, hnotBoth, -, hpost, hrest⟩ :=
    Command.aggregate_classifies (i := Sample.summing) rfl htext hread htime .tool
  have hfails : r.isFailed = true := hfailed.mpr (.inr (.inl (List.cons_ne_nil _ _)))
  have hruns : r.skipped = false := by simpa [hfails] using hnotBoth
  obtain ⟨hcount, hrows, hmillis⟩ :
      r.scenarioCount = 1 ∧ r.skippedRows = [0, 1] ∧ r.time = 8 := by
    rw [hrest]
    exact ⟨rfl, rfl, rfl⟩
  refine ⟨rfl, htext, hread, rfl, members, hprinted, ?_, ?_, ?_, ?_, ?_, ?_⟩
  · rw [hshows.isFailed, hfails]
  · rw [hshows.skipped, hruns]
  · rw [hshows.scenarioCount, hcount]
  · rw [hshows.skippedRows, hrows]
    rfl
  · rw [hshows.time, hmillis]
  · rw [hshows.postHookFailures, hpost]
    rfl

end Roster

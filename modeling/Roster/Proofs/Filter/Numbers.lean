import Mathlib.Data.Nat.Find
import Roster.Proofs.Filter.Rows
import Roster.Proofs.FirstSeen

/-!
Row numbers in closed form.

* `rows_numbered_in_order_seen` : renumbering counts. The table row of a scenario gets the
  number of rows of its file that are first seen before it, and its own row the number of
  scenarios before it for the same table row on the same first line.
* `table_rows_dense_iff` : the rows that are counted are those of all scenarios, driven by
  a table or not. So the numbers of a file have no gap, but those of its driven scenarios
  have one where a scenario without a table row has a number to itself.
-/

namespace Roster

/-! ### Table rows of one file -/

/-- The table row of every scenario, as the specification's place in a suite and the
incoming number. -/
def Specification.rowsAt (spec : Specification) (place : Nat) : List (Nat × Nat) :=
  (spec.scenarios.map Scenario.specRowIndex).map (Prod.mk place)

/-- The table row of every scenario of a file, in order. -/
def fileRows (fileName : String) (specs : List Specification) : List (Nat × Nat) :=
  specs.zipIdx.flatMap fun entry =>
    if entry.1.fileName = fileName then entry.1.rowsAt entry.2 else []

/-- How many rows of a file are first seen before `row` is. -/
def rowNumber (fileName : String) (specs : List Specification) (row : Nat × Nat) : Nat :=
  seenBefore (fileRows fileName specs) row

theorem fst_of_mem_rowsAt {spec : Specification} {place : Nat} {row : Nat × Nat}
    (h : row ∈ spec.rowsAt place) : row.1 = place := by
  obtain ⟨number, -, rfl⟩ := List.mem_map.mp h
  rfl

theorem mem_rowsAt {spec : Specification} {s : Scenario} (h : s ∈ spec.scenarios)
    (place : Nat) : (place, s.specRowIndex) ∈ spec.rowsAt place :=
  List.mem_map_of_mem (List.mem_map_of_mem h)

theorem fileRows_prefix (fileName : String) (xs ys : List Specification) :
    fileRows fileName xs <+: fileRows fileName (xs ++ ys) := by
  rw [fileRows, fileRows, List.zipIdx_append, List.flatMap_append]
  exact List.prefix_append ..

theorem fileRows_concat (fileName : String) (specs : List Specification)
    (spec : Specification) :
    fileRows fileName (specs ++ [spec]) = fileRows fileName specs ++
      if spec.fileName = fileName then spec.rowsAt specs.length else [] := by
  rw [fileRows, List.zipIdx_append, List.flatMap_append]
  simp [fileRows]

/-- The rows of one specification are not those of the specifications before. -/
theorem not_mem_fileRows_of_mem_rowsAt {specs : List Specification} {spec : Specification}
    {row : Nat × Nat} (h : row ∈ spec.rowsAt specs.length) (fileName : String) :
    row ∉ fileRows fileName specs := by
  intro hold
  obtain ⟨entry, hentry, hrow⟩ := List.mem_flatMap.mp hold
  split at hrow
  · have hplace : entry.2 = specs.length :=
      (fst_of_mem_rowsAt hrow).symm.trans (fst_of_mem_rowsAt h)
    have hlt := List.snd_lt_of_mem_zipIdx hentry
    omega
  · exact absurd hrow List.not_mem_nil

theorem mk_injective (place : Nat) : (Prod.mk place : Nat → Nat × Nat).Injective :=
  fun _ _ h => (Prod.mk.inj h).2

/-- Specifications use up one number for each of their rows. -/
theorem nextRow_eq_card (fileName : String) (specs : List Specification) :
    nextRow fileName specs = (fileRows fileName specs).toFinset.card := by
  induction specs using List.reverseRecOn with
  | nil => rfl
  | append_singleton specs spec ih =>
    rw [nextRow_concat, fileRows_concat, ih]
    by_cases hfile : spec.fileName = fileName
    · rw [if_pos hfile, if_pos hfile, card_toFinset_append fun row hrow =>
        not_mem_fileRows_of_mem_rowsAt hrow fileName]
      rw [Specification.rowsAt, card_toFinset_map (mk_injective _), Specification.rowsSeen,
        length_eraseDups (spec.scenarios.map _)]
    · rw [if_neg hfile, if_neg hfile, List.append_nil, Nat.add_zero]

/-- A row has before it the rows of the specifications before, and those that are before
it in its own. -/
theorem rowNumber_append_cons (before after : List Specification) {spec : Specification}
    {s : Scenario} (hs : s ∈ spec.scenarios) :
    rowNumber spec.fileName (before ++ spec :: after) (before.length, s.specRowIndex) =
      nextRow spec.fileName before + spec.rowsSeen.idxOf s.specRowIndex := by
  have hrow := mem_rowsAt hs before.length
  have hseen : s.specRowIndex ∈ spec.scenarios.map Scenario.specRowIndex :=
    List.mem_map_of_mem hs
  have hprefix : fileRows spec.fileName before ++ spec.rowsAt before.length <+:
      fileRows spec.fileName (before ++ spec :: after) := by
    have h := fileRows_prefix spec.fileName (before ++ [spec]) after
    rwa [fileRows_concat, if_pos rfl, List.append_assoc, List.singleton_append] at h
  calc rowNumber spec.fileName (before ++ spec :: after) (before.length, s.specRowIndex)
      = seenBefore (fileRows spec.fileName before ++ spec.rowsAt before.length)
          (before.length, s.specRowIndex) :=
        seenBefore_of_prefix hprefix (List.mem_append_right _ hrow)
    _ = nextRow spec.fileName before +
          seenBefore (spec.rowsAt before.length) (before.length, s.specRowIndex) := by
        rw [nextRow_eq_card]
        exact seenBefore_append_right
          (fun row hrow => not_mem_fileRows_of_mem_rowsAt hrow spec.fileName) hrow
    _ = nextRow spec.fileName before + spec.rowsSeen.idxOf s.specRowIndex := by
        rw [Specification.rowsSeen, idxOf_eraseDups hseen, Specification.rowsAt,
          seenBefore_map (mk_injective _) hseen]

/-! ### The renumbered suite -/

namespace Specification

/-- The scenarios among the items before place `i`. -/
def scenariosBefore (items : List Item) (i : Nat) : List Scenario :=
  (items.take i).filterMap Item.scenario?

theorem scenariosBefore_scenario (s : Scenario) (items : List Item) (i : Nat) :
    scenariosBefore (.scenario s :: items) (i + 1) = s :: scenariosBefore items i :=
  rfl

theorem scenariosBefore_mapScenario (f : Scenario → Scenario) (items : List Item) (i : Nat) :
    scenariosBefore (items.map (Item.mapScenario f)) i = (scenariosBefore items i).map f := by
  have hmap : ∀ item : Item, (item.mapScenario f).scenario? = item.scenario?.map f := by
    intro item
    cases item <;> rfl
  simp only [scenariosBefore, ← List.map_take, List.filterMap_map, List.map_filterMap,
    Function.comp_def, hmap]

/-- Instances are numbered by how many before have their key. -/
theorem numberInstances_eq_mapIdx (before : List (Nat × Nat)) (items : List Item) :
    numberInstances before items = items.mapIdx fun i item => item.mapScenario fun s =>
      { s with ownRowIndex := before.count (instanceKey s) +
        (scenariosBefore items i).countP fun t => instanceKey t == instanceKey s } := by
  induction items generalizing before with
  | nil => rfl
  | cons item items ih =>
    cases item with
    | scenario s =>
      -- For the items that follow it, `s` is one of the instances before.
      have hcount : ∀ i key, (instanceKey s :: before).count key +
          (scenariosBefore items i).countP (fun t => instanceKey t == key) =
          before.count key + (scenariosBefore (.scenario s :: items) (i + 1)).countP
            fun t => instanceKey t == key := by
        intro i key
        rw [scenariosBefore_scenario, List.countP_cons, List.count_cons]
        omega
      simp only [numberInstances, ih, List.mapIdx_cons, hcount]
      rfl
    | _ =>
      simp only [numberInstances, ih, List.mapIdx_cons]
      rfl

/-- A renumbered specification, scenario by scenario. -/
theorem renumber_eq_mapIdx (base : Nat) (spec : Specification) :
    (spec.renumberSpecRows base).renumberOwnRows =
      { spec with items := spec.items.mapIdx fun i item => item.mapScenario fun s =>
        { s with
          specRowIndex := base + spec.rowsSeen.idxOf s.specRowIndex
          ownRowIndex := (scenariosBefore spec.items i).countP fun t =>
            base + spec.rowsSeen.idxOf t.specRowIndex =
              base + spec.rowsSeen.idxOf s.specRowIndex ∧ t.span.start = s.span.start } } := by
  simp only [renumberSpecRows, renumberOwnRows, mapScenarios, mk.injEq, true_and, and_true,
    numberInstances_eq_mapIdx, scenariosBefore_mapScenario, List.countP_map]
  refine List.ext_getElem? fun i => ?_
  rw [List.getElem?_mapIdx, List.getElem?_map, List.getElem?_mapIdx, Option.map_map]
  congr 1
  funext item
  cases item with
  | scenario s =>
    simp only [Function.comp_def, Item.mapScenario, instanceKey, List.count_nil, Nat.zero_add]
    congr 3
    funext t
    rw [Bool.eq_iff_iff, beq_iff_eq, decide_eq_true_iff, Prod.mk.injEq]
  | _ => rfl

end Specification

theorem renumberAfter_eq_mapIdx (before specs : List Specification) :
    renumberAfter before specs = specs.mapIdx fun place spec =>
      (spec.renumberSpecRows
        (nextRow spec.fileName (before ++ specs.take place))).renumberOwnRows := by
  induction specs generalizing before with
  | nil => rfl
  | cons spec specs ih =>
    rw [renumberAfter, ih, List.mapIdx_cons, List.take_zero, List.append_nil]
    simp only [List.take_succ_cons, List.append_assoc, List.singleton_append]

theorem rowNumber_getElem {specs : List Specification} {place : Nat}
    (hplace : place < specs.length) {s : Scenario} (hs : s ∈ specs[place].scenarios) :
    rowNumber specs[place].fileName specs (place, s.specRowIndex) =
      nextRow specs[place].fileName (specs.take place) +
        specs[place].rowsSeen.idxOf s.specRowIndex := by
  have h := rowNumber_append_cons (specs.take place) (specs.drop (place + 1)) hs
  rwa [List.getElem_cons_drop, List.take_append_drop,
    List.length_take_of_le (Nat.le_of_lt hplace)] at h

/-- A renumbered suite, scenario by scenario. -/
theorem renumberRows_eq_mapIdx (specs : List Specification) :
    renumberRows specs = specs.mapIdx fun place spec =>
      { spec with items := spec.items.mapIdx fun i item => item.mapScenario fun s =>
        { s with
          specRowIndex := rowNumber spec.fileName specs (place, s.specRowIndex)
          ownRowIndex := (Specification.scenariosBefore spec.items i).countP fun t =>
            rowNumber spec.fileName specs (place, t.specRowIndex) =
              rowNumber spec.fileName specs (place, s.specRowIndex) ∧
              t.span.start = s.span.start } } := by
  rw [renumberRows, renumberAfter_eq_mapIdx, List.mapIdx_eq_mapIdx_iff]
  intro place hplace
  rw [Specification.renumber_eq_mapIdx, List.nil_append]
  simp only [Specification.mk.injEq, true_and, and_true, List.mapIdx_eq_mapIdx_iff]
  intro i hi
  cases hitem : specs[place].items[i] with
  | scenario s =>
    have hs : s ∈ specs[place].scenarios :=
      Specification.mem_scenarios.mpr (hitem ▸ List.getElem_mem hi)
    have hbefore : ∀ t ∈ Specification.scenariosBefore specs[place].items i,
        t ∈ specs[place].scenarios := fun t ht =>
      ((List.take_sublist _ _).filterMap _).subset ht
    simp only [Item.mapScenario, rowNumber_getElem hplace hs]
    congr 2
    refine List.countP_congr fun t ht => ?_
    rw [rowNumber_getElem hplace (hbefore t ht)]
  | _ => rfl

/-! ### The rows of a file after renumbering -/

/-- The scenarios of the specifications of one file, in order. -/
def scenariosOfFile (fileName : String) (specs : List Specification) : List Scenario :=
  specs.flatMap fun spec => if spec.fileName = fileName then spec.scenarios else []

/-- What `f` does not change about the scenarios, each of which has a place. -/
theorem map_scenarios_mapIdx {α : Type} {f : Nat → Scenario → Scenario} {g g' : Scenario → α}
    (h : ∀ i s, g (f i s) = g' s) (items : List Item) :
    ((items.mapIdx fun i item => item.mapScenario (f i)).filterMap Item.scenario?).map g =
      (items.filterMap Item.scenario?).map g' := by
  induction items generalizing f with
  | nil => rfl
  | cons item items ih =>
    have ih := ih (f := fun i => f (i + 1)) fun i => h (i + 1)
    rw [List.mapIdx_cons]
    cases item with
    | scenario s => exact congrArg₂ List.cons (h 0 s) ih
    | _ => exact ih

/-- The scenarios of a file get the numbers that their rows have among those of the file. -/
theorem map_specRowIndex_renumberRows (fileName : String) (specs : List Specification) :
    (scenariosOfFile fileName (renumberRows specs)).map Scenario.specRowIndex =
      (fileRows fileName specs).map (rowNumber fileName specs) := by
  have hfile : ∀ (place : Nat) (spec : Specification), spec.fileName = fileName →
      (spec.scenarios.map fun s => rowNumber spec.fileName specs (place, s.specRowIndex)) =
        (spec.rowsAt place).map (rowNumber fileName specs) := by
    rintro place spec rfl
    rw [Specification.rowsAt, List.map_map, List.map_map]
    rfl
  rw [renumberRows_eq_mapIdx, List.mapIdx_eq_zipIdx_map, scenariosOfFile, List.flatMap_map,
    List.map_flatMap, fileRows, List.map_flatMap]
  congr 1
  funext entry
  by_cases hentry : entry.1.fileName = fileName
  · rw [if_pos hentry, if_pos hentry, ← hfile _ _ hentry]
    refine map_scenarios_mapIdx ?_ entry.1.items
    intro i s
    rfl
  · rw [if_neg hentry, if_neg hentry]
    rfl

theorem mem_rows_renumberRows_iff {fileName : String} {specs : List Specification} {n : Nat} :
    n ∈ (scenariosOfFile fileName (renumberRows specs)).map Scenario.specRowIndex ↔
      n < (fileRows fileName specs).toFinset.card := by
  rw [← exists_seenBefore_iff, map_specRowIndex_renumberRows, List.mem_map]
  rfl

theorem mem_fileRows {specs : List Specification} {place : Nat} {spec : Specification}
    {s : Scenario} (hspec : specs[place]? = some spec) (hs : s ∈ spec.scenarios) :
    (place, s.specRowIndex) ∈ fileRows spec.fileName specs := by
  have hentry : (spec, place) ∈ specs.zipIdx := List.mem_zipIdx_iff_getElem?.mpr hspec
  refine List.mem_flatMap.mpr ⟨_, hentry, ?_⟩
  rw [if_pos rfl]
  exact mem_rowsAt hs place

/-- Numbers tell the rows of a file apart. -/
theorem rowNumber_inj {specs : List Specification} {place place' : Nat}
    {spec spec' : Specification} {s s' : Scenario} (hspec : specs[place]? = some spec)
    (hs : s ∈ spec.scenarios) (hspec' : specs[place']? = some spec')
    (hs' : s' ∈ spec'.scenarios) (hfile : spec.fileName = spec'.fileName) :
    rowNumber spec.fileName specs (place, s.specRowIndex) =
        rowNumber spec'.fileName specs (place', s'.specRowIndex) ↔
      place = place' ∧ s.specRowIndex = s'.specRowIndex := by
  have hrow := mem_fileRows hspec hs
  have hrow' := mem_fileRows hspec' hs'
  rw [← hfile] at hrow'
  rw [rowNumber, rowNumber, ← hfile, seenBefore_inj hrow hrow', Prod.mk.injEq]

/-- **Rows are numbered in the order first seen.** A scenario's table row gets the number of
rows of the file that are first seen before it, and its own row the number of scenarios
before it in the specification with that number and its first line; all else stays as it
is. The numbers of a file have no gap, and different rows have different numbers. -/
theorem rows_numbered_in_order_seen (specs : List Specification) :
    (renumberRows specs = specs.mapIdx fun place spec =>
      { spec with items := spec.items.mapIdx fun i item => item.mapScenario fun s =>
        { s with
          specRowIndex := rowNumber spec.fileName specs (place, s.specRowIndex)
          ownRowIndex := (Specification.scenariosBefore spec.items i).countP fun t =>
            rowNumber spec.fileName specs (place, t.specRowIndex) =
              rowNumber spec.fileName specs (place, s.specRowIndex) ∧
              t.span.start = s.span.start } }) ∧
    (∀ fileName n,
      n ∈ (scenariosOfFile fileName (renumberRows specs)).map Scenario.specRowIndex ↔
        n < (fileRows fileName specs).toFinset.card) ∧
    ∀ place place' spec spec' s s', specs[place]? = some spec → s ∈ spec.scenarios →
      specs[place']? = some spec' → s' ∈ spec'.scenarios → spec.fileName = spec'.fileName →
        (rowNumber spec.fileName specs (place, s.specRowIndex) =
            rowNumber spec'.fileName specs (place', s'.specRowIndex) ↔
          place = place' ∧ s.specRowIndex = s'.specRowIndex) := by
  refine ⟨renumberRows_eq_mapIdx specs, fun _ _ => mem_rows_renumberRows_iff, ?_⟩
  intro place place' spec spec' s s' hspec hs hspec' hs' hfile
  exact rowNumber_inj hspec hs hspec' hs' hfile

namespace Sample

/-- An instance of a scenario for a row of a table of orders. -/
def shipping (row : Nat) (tag : String) : Scenario :=
  { heading := "Ship the order", span := ⟨5, 9⟩, specRowIndex := row,
    specRow := some { headers := ["tags"], rows := [[{ value := tag }]] } }

/-- Instances of a scenario for the two rows of a table, after a scenario without a row. -/
def orders : Specification :=
  { heading := "Orders", fileName := "orders.spec",
    items := [.scenario { heading := "Set up", span := ⟨1, 3⟩ }, .comment ⟨"Shipping", 4⟩,
      .scenario (shipping 0 "slow"), .scenario (shipping 1 "fast")] }

/-- Two specifications of one file with one of another file between them. -/
def shops : List Specification :=
  [{ orders with items := [.scenario (shipping 4 "slow"), .comment ⟨"Again", 4⟩,
      .scenario (shipping 1 "fast"), .scenario (shipping 4 "slow")] },
    { orders with fileName := "returns.spec" },
    { orders with items := [.scenario (shipping 1 "fast")] }]

end Sample

theorem rows_numbered_in_order_seen_sample :
    ((renumberRows Sample.shops).map fun spec =>
        spec.scenarios.map fun s => (s.specRowIndex, s.ownRowIndex)) =
      [[(0, 0), (1, 0), (0, 1)], [(0, 0), (0, 0), (1, 0)], [(2, 0)]] ∧
    rowNumber "orders.spec" Sample.shops (0, 1) ≠ rowNumber "orders.spec" Sample.shops (2, 1) := by
  obtain ⟨hform, -, hinj⟩ := rows_numbered_in_order_seen Sample.shops
  constructor
  · rw [hform]
    decide +kernel
  · have hnumber := hinj 0 2 _ _ (Sample.shipping 1 "fast") (Sample.shipping 1 "fast") rfl
      (by decide +kernel) rfl (by decide +kernel) rfl
    exact hnumber.not.mpr (by decide)

/-! ### Rows of a table -/

/-- The numbers are those below some bound. -/
def Dense (numbers : List Nat) : Prop :=
  ∃ bound, ∀ n, n ∈ numbers ↔ n < bound

/-- Part of dense numbers is dense when it has each of them below one of its own. -/
theorem Dense.part_iff {all part : List Nat} (hall : Dense all) (hpart : part ⊆ all) :
    Dense part ↔ ∀ n ∈ all, ∀ m ∈ part, n < m → n ∈ part := by
  obtain ⟨bound, hbound⟩ := hall
  constructor
  · rintro ⟨low, hlow⟩ n - m hm hlt
    exact (hlow n).mpr (Nat.lt_trans hlt ((hlow m).mp hm))
  · intro hdown
    have hfree : ∃ n, n ∉ part :=
      ⟨bound, fun h => Nat.lt_irrefl _ ((hbound bound).mp (hpart h))⟩
    -- The least number that the part has not bounds those that it has.
    refine ⟨Nat.find hfree, fun n => ⟨fun hn => ?_, fun hn => not_not.mp (Nat.find_min hfree hn)⟩⟩
    by_contra hle
    have hne : Nat.find hfree ≠ n := fun heq => Nat.find_spec hfree (heq ▸ hn)
    have hlt : Nat.find hfree < n := by omega
    have hin : Nat.find hfree ∈ all :=
      (hbound _).mpr (Nat.lt_trans hlt ((hbound n).mp (hpart hn)))
    exact Nat.find_spec hfree (hdown _ hin n hn hlt)

/-- The numbers of the table rows of a file. -/
def tableRowsOfFile (fileName : String) (specs : List Specification) : List Nat :=
  ((scenariosOfFile fileName specs).filter Scenario.isSpecDriven).map Scenario.specRowIndex

/-- **Table rows are dense where scenarios without a row leave them so.** The numbers of a
file have no gap in the half that is kept. Those of its table rows have none exactly when
every number below one of theirs is one of theirs too, so not where a scenario without a
row has such a number to itself. -/
theorem table_rows_dense_iff {specs : List Specification} {expression : String}
    {suiteTags : List String} {halves : Halves (List Specification)}
    (h : filterByTags specs expression suiteTags = .ok halves) (fileName : String) :
    Dense ((scenariosOfFile fileName halves.kept).map Scenario.specRowIndex) ∧
    (Dense (tableRowsOfFile fileName halves.kept) ↔
      ∀ s ∈ scenariosOfFile fileName halves.kept,
        ∀ row ∈ tableRowsOfFile fileName halves.kept, s.specRowIndex < row →
          s.specRowIndex ∈ tableRowsOfFile fileName halves.kept) := by
  obtain ⟨rule, -, split, -, rfl⟩ := filterByTags_eq_ok_iff.mp h
  have hall : Dense ((scenariosOfFile fileName (renumberRows split.kept)).map
      Scenario.specRowIndex) := ⟨_, fun n => mem_rows_renumberRows_iff⟩
  have hpart : tableRowsOfFile fileName (renumberRows split.kept) ⊆
      (scenariosOfFile fileName (renumberRows split.kept)).map Scenario.specRowIndex :=
    (List.filter_sublist.map _).subset
  have hiff := hall.part_iff hpart
  rw [List.forall_mem_map] at hiff
  exact ⟨hall, hiff⟩

theorem table_rows_dense_iff_sample :
    ∃ halves, filterByTags [Sample.orders] "" [] = .ok halves ∧
      tableRowsOfFile "orders.spec" halves.kept = [0, 1] ∧
      Dense (tableRowsOfFile "orders.spec" halves.kept) := by
  have hran : (filterByTags [Sample.orders] "" []).map (fun halves =>
      ((scenariosOfFile "orders.spec" halves.kept).map Scenario.specRowIndex,
        tableRowsOfFile "orders.spec" halves.kept)) = .ok ([0, 0, 1], [0, 1]) := by
    decide +kernel
  obtain ⟨halves, hhalves, hnumbers⟩ := map_eq_ok_iff.mp hran
  obtain ⟨hall, hrows⟩ := Prod.mk.inj hnumbers
  refine ⟨halves, hhalves, hrows, (table_rows_dense_iff hhalves "orders.spec").2.mpr ?_⟩
  intro s hs _ _ _
  have hs' := List.mem_map_of_mem (f := Scenario.specRowIndex) hs
  rw [hall] at hs'
  rw [hrows]
  simpa using hs'

/-- The rows of a table may have gaps: where the first row is left out, the second keeps its
number if a scenario without a row comes before it. -/
theorem table_rows_not_always_dense :
    ¬ ∀ specs expression suiteTags halves,
      filterByTags specs expression suiteTags = .ok halves →
        ∀ fileName, Dense (tableRowsOfFile fileName halves.kept) := by
  intro hdense
  have hran : (filterByTags [Sample.orders] "!slow" []).map (fun halves =>
      tableRowsOfFile "orders.spec" halves.kept) = .ok [1] := by
    decide +kernel
  obtain ⟨halves, hhalves, hrows⟩ := map_eq_ok_iff.mp hran
  obtain ⟨bound, hbound⟩ := hdense _ _ _ _ hhalves "orders.spec"
  rw [hrows] at hbound
  have hone : 1 < bound := (hbound 1).mp (by simp)
  have hzero : 0 ∈ [1] := (hbound 0).mpr (by omega)
  simp at hzero

end Roster

import Mathlib.Data.List.Induction
import Roster.Configuration.Resolve
import Roster.Configuration.Source
import Roster.Proofs.First

/-!
Which source a setting comes from.

A key has its text from the highest source that sets it, under whatever spelling
(`Sources.get?_iff_wins`), and the settings of a run depend on the texts of their own keys
alone (`Layer.settings_congr`). So what a higher source hides, and what no setting asks for,
may be anything (`Sources.layer_precedence`).
-/

namespace Roster

/-! ### One layer -/

section Entries

variable {entries : List (String × String)} {entry : String × String} {key text : String}

/-- The last of the settings of a key, in any spelling, has this text. -/
def LastSet (entries : List (String × String)) (key text : String) : Prop :=
  ∃ before spelling after, entries = before ++ (spelling, text) :: after ∧
    normalKey spelling = normalKey key ∧ ∀ entry ∈ after, normalKey entry.1 ≠ normalKey key

theorem not_lastSet_nil : ¬ LastSet [] key text := by
  rintro ⟨before, spelling, after, hnil, -⟩
  simp at hnil

theorem lastSet_concat : LastSet (entries ++ [entry]) key text ↔
    (normalKey entry.1 = normalKey key ∧ entry.2 = text) ∨
      (normalKey entry.1 ≠ normalKey key ∧ LastSet entries key text) := by
  constructor
  · rintro ⟨before, spelling, after, hsplit, hspelling, hafter⟩
    rcases List.eq_nil_or_concat' after with rfl | ⟨after, last, rfl⟩
    · obtain ⟨-, rfl⟩ := List.append_singleton_inj.mp hsplit
      exact .inl ⟨hspelling, rfl⟩
    · rw [← List.cons_append, ← List.append_assoc] at hsplit
      obtain ⟨rfl, rfl⟩ := List.append_singleton_inj.mp hsplit
      obtain ⟨hafter, hlast⟩ := List.forall_mem_append.mp hafter
      exact .inr ⟨hlast entry (List.mem_singleton_self entry), before, spelling, after, rfl,
        hspelling, hafter⟩
  · rintro (⟨hentry, rfl⟩ | ⟨hentry, before, spelling, after, rfl, hspelling, hafter⟩)
    · exact ⟨entries, entry.1, [], rfl, hentry, by simp⟩
    · refine ⟨before, spelling, after ++ [entry], by simp, hspelling, ?_⟩
      exact List.forall_mem_append.mpr ⟨hafter, by simpa using hentry⟩

/-- Where every key is set once, the order of the settings does not count. -/
theorem lastSet_iff_mem (hdiffer : (entries.map fun entry => normalKey entry.1).Nodup) :
    LastSet entries key text ↔
      ∃ spelling, (spelling, text) ∈ entries ∧ normalKey spelling = normalKey key := by
  constructor
  · rintro ⟨before, spelling, after, rfl, hspelling, -⟩
    exact ⟨spelling, by simp, hspelling⟩
  · rintro ⟨spelling, hmem, hspelling⟩
    obtain ⟨before, after, rfl⟩ := List.append_of_mem hmem
    refine ⟨before, spelling, after, rfl, hspelling, fun entry hentry heq => ?_⟩
    rw [List.map_append, List.map_cons] at hdiffer
    refine (List.nodup_cons.mp (List.nodup_append.mp hdiffer).2.1).1 (List.mem_map.mpr ?_)
    exact ⟨entry, hentry, heq.trans hspelling.symm⟩

namespace Layer

theorem ofList_concat : ofList (entries ++ [entry]) = (ofList entries).set entry.1 entry.2 := by
  rw [ofList, setAll, List.foldl_append]
  rfl

theorem get?_ofList : (ofList entries).get? key = some text ↔ LastSet entries key text := by
  induction entries using List.reverseRecOn with
  | nil => simp [ofList, setAll, get?, not_lastSet_nil]
  | append_singleton entries entry ih =>
    rw [ofList_concat, get?_set, lastSet_concat, ← ih]
    by_cases h : normalKey key = normalKey entry.1
    · simp [h]
    · simp [h, Ne.symm h]

theorem get?_merge (layers : List Layer) :
    (merge layers).get? key = layers.reverse.findSome? fun l => l.get? key := by
  induction layers using List.reverseRecOn with
  | nil => rfl
  | append_singleton layers l ih =>
    rw [merge, List.foldl_append, ← merge, List.foldl_cons, List.foldl_nil, get?_above, ih,
      List.reverse_append, List.reverse_singleton, List.singleton_append, List.findSome?_cons]
    cases l.get? key <;> rfl

end Layer

end Entries

/-! ### The settings of a run -/

/-- The keys of the settings that a run has. -/
def Settings.keys : List String :=
  ["tags", "scenarios", "lines", "suite-tags", "parallel-streams", "group", "strategy"]

/-- Settings, and faults in them, come from the texts of their own keys alone. -/
theorem Layer.settings_congr {l m : Layer} (h : ∀ key ∈ Settings.keys, l.get? key = m.get? key) :
    l.settings = m.settings := by
  simp only [Settings.keys, List.forall_mem_cons] at h
  obtain ⟨htags, hscenarios, hlines, hsuiteTags, hstreams, hgroup, hstrategy, -⟩ := h
  simp only [settings, numbers, number?, strategy?, filled?, items, htags, hscenarios, hlines,
    hsuiteTags, hstreams, hgroup, hstrategy]

/-! ### The sources -/

/-- Where settings come from. -/
inductive Source where
  | overrides
  | environment
  | document
  | standard
  deriving DecidableEq, Repr

/-- All sources, each over those after it. -/
def Source.highestFirst : List Source :=
  [.overrides, .environment, .document, .standard]

/-- The sources over one. -/
def Source.above (source : Source) : List Source :=
  highestFirst.takeWhile (· ≠ source)

/-- What the sources of a run hold. -/
structure Sources where
  /-- The text of the project's file, if it has one. -/
  file : Option String := none
  environment : List (String × String) := []
  overrides : Overrides := {}
  deriving DecidableEq, Repr

namespace Sources

/-- The layer of the project. -/
def project (S : Sources) : Except Fault Layer :=
  match S.file with
  | some text => Layer.ofText text
  | none => .ok {}

/-- The layer of all sources. -/
def layer (S : Sources) : Except Fault Layer :=
  S.project.map fun project => Layer.ofSources project S.environment S.overrides

/-- The settings of the run. -/
def settings (S : Sources) : Except Fault Settings :=
  S.layer.bind Layer.settings

/-- The document in the project's file. -/
def document? (S : Sources) : Option Yaml.Value :=
  S.file.bind Yaml.read?

/-- What a source sets, in order. -/
def given (S : Sources) : Source → List (String × String)
  | .overrides => S.overrides.settings
  | .environment => variableSettings S.environment
  | .document => (S.document?.map (flatten "")).getD []
  | .standard => standardSettings

/-- The text of a key in the layer of one source. -/
def text? (S : Sources) (key : String) (source : Source) : Option String :=
  (Layer.ofList (S.given source)).get? key

/-- The project's file can be read, and its document spells no key in two ways. -/
structure Sound (S : Sources) : Prop where
  readable : S.file.isSome → S.document?.isSome
  keysDiffer : ((S.given .document).map fun entry => normalKey entry.1).Nodup

/-- The source sets the key, in some spelling, to the text. In a document order does not count;
elsewhere the last setting does. -/
def Says (S : Sources) (key : String) (source : Source) (text : String) : Prop :=
  match source with
  | .document =>
    ∃ spelling, (spelling, text) ∈ S.given .document ∧ normalKey spelling = normalKey key
  | source => LastSet (S.given source) key text

/-- The highest source that sets the key sets it to the text. -/
def Wins (S : Sources) (key text : String) : Prop :=
  First (S.Says key) Source.highestFirst text

/-- A source over this one sets the key. -/
def Hides (S : Sources) (key : String) (source : Source) : Prop :=
  ∃ higher ∈ source.above, ∃ text, S.Says key higher text

variable {S T : Sources} {key text : String}

theorem layer_eq_ok (hS : S.Sound) :
    S.layer = .ok (.merge (Source.highestFirst.reverse.map fun source =>
      .ofList (S.given source))) := by
  have hproject : S.project = .ok (.ofList (S.given .document)) := by
    rw [project, given, document?]
    cases hfile : S.file with
    | none => rfl
    | some text =>
      obtain ⟨v, hv⟩ := Option.isSome_iff_exists.mp (hS.readable (by rw [hfile]; rfl))
      rw [document?, hfile, Option.bind_some] at hv
      simp only [Option.bind_some, Layer.ofText, hv]
      rfl
  rw [layer, hproject]
  rfl

theorem says_iff (hS : S.Sound) {source : Source} :
    S.Says key source text ↔ S.text? key source = some text := by
  rw [text?, Layer.get?_ofList]
  cases source with
  | document => exact (lastSet_iff_mem hS.keysDiffer).symm
  | overrides | environment | standard => rfl

theorem hides_iff (hS : S.Sound) {source : Source} :
    S.Hides key source ↔ ∃ higher ∈ source.above, (S.text? key higher).isSome := by
  simp only [Hides, says_iff hS, Option.isSome_iff_exists]

theorem wins_iff (hS : S.Sound) :
    S.Wins key text ↔ Source.highestFirst.findSome? (S.text? key) = some text := by
  rw [Wins, ← first_iff_findSome?]
  simp only [First, says_iff hS]

theorem get?_iff_wins (hS : S.Sound) {l : Layer} (hl : S.layer = .ok l) :
    l.get? key = some text ↔ S.Wins key text := by
  obtain rfl := Except.ok.inj ((layer_eq_ok hS).symm.trans hl)
  rw [Layer.get?_merge, ← List.map_reverse, List.reverse_reverse, List.findSome?_map, wins_iff hS]
  rfl

theorem settings_eq_of_wins (hS : S.Sound) (hT : T.Sound)
    (h : ∀ key ∈ Settings.keys, ∀ text, T.Wins key text ↔ S.Wins key text) :
    T.settings = S.settings := by
  have hlayerS := layer_eq_ok hS
  have hlayerT := layer_eq_ok hT
  rw [settings, settings, hlayerS, hlayerT]
  refine Layer.settings_congr fun key hkey => Option.ext fun text => ?_
  rw [get?_iff_wins hT hlayerT, get?_iff_wins hS hlayerS]
  exact h key hkey text

theorem wins_congr (h : ∀ source, S.Hides key source ∨
      ∀ text, T.Says key source text ↔ S.Says key source text) :
    T.Wins key text ↔ S.Wins key text :=
  first_congr_of_hidden (by decide) fun source _ => h source

/-- **The highest source wins, key by key.** Where the project's file can be read, the layer
of a run gives a key, in every spelling, the text of the highest source that sets it. The
settings of the run, and the fault that there is instead, depend on these texts of their own
keys alone: another text under a higher source that sets the key, or of any other key, does
not change them. -/
theorem layer_precedence (hS : S.Sound) :
    ∃ l, S.layer = .ok l ∧ S.settings = l.settings ∧
      (∀ key text, l.get? key = some text ↔ S.Wins key text) ∧
      (∀ T : Sources, T.Sound →
        (∀ key ∈ Settings.keys, ∀ text, T.Wins key text ↔ S.Wins key text) →
        T.settings = S.settings) ∧
      ∀ T : Sources, T.Sound →
        (∀ key ∈ Settings.keys, ∀ source, S.Hides key source ∨
          ∀ text, T.Says key source text ↔ S.Says key source text) →
        T.settings = S.settings := by
  have hlayer := layer_eq_ok hS
  refine ⟨_, hlayer, ?_, fun _ _ => get?_iff_wins hS hlayer, ?_, ?_⟩
  · rw [settings, hlayer]
    rfl
  · intro T hT hwins
    exact settings_eq_of_wins hS hT hwins
  · intro T hT hshown
    exact settings_eq_of_wins hS hT fun key hkey _ => wins_congr (hshown key hkey)

end Sources

namespace Sample

/-- A key in every source but the lowest, one that the environment sets twice, and one that
the project's file alone sets. -/
def sources : Sources :=
  { file := some "Tags: smoke\ngroup: 3\nSuite-Tags: api\n"
    environment := [("SSEL_TAGS", "slow"), ("SSEL_group", "4"), ("HOME", "/root"),
      ("SSEL_GROUP", "2")]
    overrides := { tags := some "nightly" } }

/-- The same with texts that are malformed or unknown where they do not count. -/
def muddled : Sources :=
  { file := some "tags: (smoke\nGroup: many\nsuite-tags: api\nowner: nobody\n"
    environment := [("SSEL_group", "few"), ("SSEL_GROUP", "2"), ("SSEL_COLOUR", "red")]
    overrides := { tags := some "nightly" } }

end Sample

theorem layer_precedence_sample :
    Sample.sources.Sound ∧ Sample.muddled.Sound ∧
      ∃ l, Sample.sources.layer = .ok l ∧ l.get? "Tags" = some "nightly" ∧
        l.get? "GROUP" = some "2" ∧ l.get? "SUITE-TAGS" = some "api" ∧
        Sample.muddled.settings = l.settings := by
  have hsources : Sample.sources.Sound := ⟨by decide +kernel, by decide +kernel⟩
  have hmuddled : Sample.muddled.Sound := ⟨by decide +kernel, by decide +kernel⟩
  have hshown : ∀ source ∈ [Source.environment, .document], ∀ key ∈ Settings.keys,
      (∃ higher ∈ source.above, (Sample.sources.text? key higher).isSome) ∨
        Sample.muddled.text? key source = Sample.sources.text? key source := by
    decide +kernel
  obtain ⟨l, hl, hsettings, hget, -, hsame⟩ := Sources.layer_precedence hsources
  refine ⟨hsources, hmuddled, l, hl, (hget _ _).mpr ?_, (hget _ _).mpr ?_, (hget _ _).mpr ?_, ?_⟩
  iterate 3
    · rw [Sources.wins_iff hsources]
      decide +kernel
  · rw [← hsettings]
    refine hsame Sample.muddled hmuddled fun key hkey source => ?_
    simp only [Sources.hides_iff hsources, Sources.says_iff hmuddled, Sources.says_iff hsources]
    cases source with
    | overrides | standard => exact .inr fun _ => Iff.rfl
    | environment =>
      exact (hshown .environment (by decide) key hkey).imp_right fun heq _ => by rw [heq]
    | document =>
      exact (hshown .document (by decide) key hkey).imp_right fun heq _ => by rw [heq]

end Roster

import Roster.Proofs.Configuration.Lists
import Roster.Proofs.Except
import Roster.Proofs.First
import Roster.Proofs.Text.Word

/-!
When a layer gives settings.

Four of the keys have texts that must spell something: every line, the number of streams and
the group a word, the strategy the name of one. They are read in this order, and the first
that spells nothing is the fault (`settings_eq_error_iff`); a key without a text, or with a
blank one, is not read. Where all of them spell something, there are settings, and they say
what the texts spell (`settings_eq_ok_iff`).
-/

namespace Roster

open Roster.Text

/-! ### Chains of steps -/

section Chain

variable {ε α β γ : Type} {P : γ → ε → Prop} {xs ys : List γ} {e : ε}

/-- A chain fails for the first reason that its parts have to fail. -/
theorem bind_eq_error_iff_first {x : Except ε α} {f : α → Except ε β}
    (hx : ∀ e, x = .error e ↔ First P xs e)
    (hf : ∀ a, x = .ok a → ∀ e, f a = .error e ↔ First P ys e) (e : ε) :
    (x >>= f) = .error e ↔ First P (xs ++ ys) e := by
  have hok : (∃ a, x = .ok a) ↔ ∀ y ∈ xs, ∀ c, ¬ P y c := by
    have hnone : (¬ ∃ e, First P xs e) ↔ ¬ ∃ x ∈ xs, ∃ e, P x e := not_congr exists_first_iff
    rw [← forall_ne_error_iff]
    simp only [hx]
    simpa only [not_exists, not_and] using hnone
  rw [first_append, bind_eq_error_iff, hx]
  apply or_congr_right
  constructor
  · rintro ⟨a, ha, hfa⟩
    exact ⟨hok.mp ⟨a, ha⟩, (hf a ha e).mp hfa⟩
  · rintro ⟨hnone, hfirst⟩
    obtain ⟨a, ha⟩ := hok.mpr hnone
    exact ⟨a, ha, (hf a ha e).mpr hfirst⟩

theorem mapM_eq_error_iff {f : γ → Except ε α} (e : ε) :
    xs.mapM f = .error e ↔ First (fun x e => f x = .error e) xs e := by
  induction xs generalizing e with
  | nil => simp [not_first_nil, pure, Except.pure]
  | cons x xs ih =>
    have hhead : ∀ e, f x = .error e ↔ First (fun x e => f x = .error e) [x] e := by
      simp [first_cons, not_first_nil]
    rw [List.mapM_cons, ← List.singleton_append]
    refine bind_eq_error_iff_first hhead (fun a _ e => ?_) e
    rw [← ih, bind_eq_error_iff]
    simp [pure, Except.pure]

theorem mapM_eq_ok_iff {f : γ → Except ε α} {as : List α} :
    xs.mapM f = .ok as ↔ List.Forall₂ (fun x a => f x = .ok a) xs as := by
  induction xs generalizing as with
  | nil => simp [pure, Except.pure, eq_comm]
  | cons x xs ih =>
    rw [List.mapM_cons, List.forall₂_cons_left_iff]
    simp only [bind_eq_ok_iff, ih, pure, Except.pure, Except.ok.injEq]
    constructor
    · rintro ⟨a, ha, as, has, rfl⟩
      exact ⟨a, as, ha, has, rfl⟩
    · rintro ⟨a, as, ha, has, rfl⟩
      exact ⟨a, ha, as, has, rfl⟩

end Chain

/-! ### What texts spell -/

/-- A text spells a strategy: it is its name, but for the case of letters. -/
def Strategy.Spells (text : String) (s : Strategy) : Prop :=
  asciiLower text = s.text

/-- A text that must spell something. -/
inductive Reading where
  /-- The text of a key, or one of its list, that must spell a number. -/
  | number (key raw : String)
  /-- A text that must spell a strategy. -/
  | strategy (raw : String)
  deriving DecidableEq, Repr

/-- The text, without the blanks at its ends, spells nothing. -/
def Reading.Refused : Reading → Fault → Prop
  | .number key raw, fault =>
    (∀ n, ¬ SpellsWord (trim raw) n) ∧
      fault = .config (key ++ ": '" ++ trim raw ++ "' is not a number")
  | .strategy raw, fault =>
    (∀ s, ¬ Strategy.Spells (trim raw) s) ∧
      fault = .config ("unknown distribution strategy '" ++ asciiLower (trim raw) ++
        "' (expected lazy or eager)")

theorem readNumber_eq_ok_iff {key raw : String} {n : Nat} :
    readNumber key raw = .ok n ↔ SpellsWord (trim raw) n := by
  rw [readNumber, ← word?_eq_some_iff]
  cases word? (trim raw) <;> simp

theorem readNumber_eq_error_iff {key raw : String} {fault : Fault} :
    readNumber key raw = .error fault ↔ (Reading.number key raw).Refused fault := by
  simp only [Reading.Refused, ← word?_eq_some_iff, ← Option.eq_none_iff_forall_ne_some, readNumber]
  cases word? (trim raw) with
  | some n => simp
  | none =>
    rw [Except.error.injEq, eq_comm, eq_self_iff_true, true_and]
    rfl

theorem Strategy.parse_eq_ok_iff {raw : String} {s : Strategy} :
    parse raw = .ok s ↔ Strategy.Spells (trim raw) s := by
  rw [parse, Spells]
  split <;> cases s <;> simp_all [text]

theorem Strategy.parse_eq_error_iff {raw : String} {fault : Fault} :
    parse raw = .error fault ↔ (Reading.strategy raw).Refused fault := by
  rw [parse, Reading.Refused]
  split
  case h_1 hlazy => exact iff_of_false nofun fun refused => refused.1 .lazy hlazy
  case h_2 heager => exact iff_of_false nofun fun refused => refused.1 .eager heager
  case h_3 hlazy heager =>
    have hnone : ∀ s, ¬ Spells (trim raw) s := by
      rintro (_ | _)
      · exact hlazy
      · exact heager
    simp only [hnone, not_false_eq_true, implies_true, true_and, Except.error.injEq]
    exact eq_comm

theorem exists_refused_number_iff {key raw : String} :
    (∃ fault, (Reading.number key raw).Refused fault) ↔ ¬ ∃ n, SpellsWord (trim raw) n := by
  simp [Reading.Refused]

theorem exists_refused_strategy_iff {raw : String} :
    (∃ fault, (Reading.strategy raw).Refused fault) ↔
      asciiLower (trim raw) ≠ "lazy" ∧ asciiLower (trim raw) ≠ "eager" := by
  simp only [Reading.Refused, exists_and_left, exists_eq, and_true]
  constructor
  · intro h
    exact ⟨h .lazy, h .eager⟩
  · rintro ⟨hlazy, heager⟩ (_ | _)
    · exact hlazy
    · exact heager

namespace Layer

variable {α : Type} {l : Layer} {key raw : String} {fault : Fault}

theorem filled?_eq_some_iff :
    l.filled? key = some raw ↔ l.get? key = some raw ∧ trim raw ≠ "" := by
  rw [filled?, Option.filter_eq_some_iff, decide_eq_true_eq]

theorem filled?_eq_none_iff :
    l.filled? key = none ↔ ∀ raw, l.get? key = some raw → trim raw = "" := by
  simp [filled?]

/-- The text of a key, if there is one and it is not blank, spells `a`; otherwise there is no
`a`. -/
def Gives (l : Layer) (key : String) (Spells : String → α → Prop) (a : Option α) : Prop :=
  ((∀ raw, l.get? key = some raw → trim raw = "") ∧ a = none) ∨
    ∃ raw b, l.get? key = some raw ∧ trim raw ≠ "" ∧ Spells (trim raw) b ∧ a = some b

/-- The text of a key that is to be read, as a reading, unless it is blank. -/
def reading (l : Layer) (key : String) (as : String → Reading) : List Reading :=
  (l.filled? key).toList.map as

/-- What is to be read for the settings, in order, where `lines` is the list of lines. -/
def readings (l : Layer) (lines : List String) : List Reading :=
  lines.map (.number "lines") ++ (l.reading "parallel-streams" (.number "parallel-streams") ++
    (l.reading "group" (.number "group") ++ l.reading "strategy" .strategy))

theorem numbers_eq_ok_iff {ns : List Nat} : l.numbers key = .ok ns ↔
    List.Forall₂ (fun item n => SpellsWord (trim item) n) (l.items key) ns := by
  simp only [numbers, mapM_eq_ok_iff, readNumber_eq_ok_iff]

theorem numbers_eq_error_iff : l.numbers key = .error fault ↔
    First Reading.Refused ((l.items key).map (.number key)) fault := by
  simp only [numbers, mapM_eq_error_iff, readNumber_eq_error_iff, first_map]

/-- What is read from the text of a key, unless it is blank. -/
def readFilled (l : Layer) (key : String) (read : String → Except Fault α) :
    Except Fault (Option α) :=
  match l.filled? key with
  | some raw => (read raw).map some
  | none => .ok none

theorem number?_eq_readFilled : l.number? key = l.readFilled key (readNumber key) :=
  rfl

theorem strategy?_eq_readFilled : l.strategy? key = l.readFilled key Strategy.parse :=
  rfl

theorem readFilled_eq_ok_iff {read : String → Except Fault α} {Spells : String → α → Prop}
    (hread : ∀ raw a, read raw = .ok a ↔ Spells (trim raw) a) {a : Option α} :
    l.readFilled key read = .ok a ↔ l.Gives key Spells a := by
  simp only [Gives, ← filled?_eq_none_iff, ← and_assoc, ← filled?_eq_some_iff, readFilled]
  cases hfilled : l.filled? key with
  | none => simp [@eq_comm _ none a]
  | some raw => simp [map_eq_ok_iff, hread, @eq_comm _ a]

theorem readFilled_eq_error_iff {read : String → Except Fault α} {as : String → Reading}
    (hread : ∀ raw fault, read raw = .error fault ↔ (as raw).Refused fault) :
    l.readFilled key read = .error fault ↔ First Reading.Refused (l.reading key as) fault := by
  rw [readFilled, reading]
  cases hfilled : l.filled? key with
  | none => simp [not_first_nil]
  | some raw => simp [map_eq_error_iff, hread, first_cons, not_first_nil]

/-! ### Settings -/

/-- The settings are what the texts of a layer spell, where `lines` is the list of lines. -/
structure Spells (l : Layer) (lines : List String) (settings : Settings) : Prop where
  tags : settings.tags = (l.get? "tags").getD ""
  scenarios : l.Lists "scenarios" settings.scenarios
  lines : List.Forall₂ (fun line n => SpellsWord (trim line) n) lines settings.lines
  suiteTags : l.Lists "suite-tags" settings.suiteTags
  streams : ∃ n, l.Gives "parallel-streams" SpellsWord n ∧ settings.streams = n.getD 1
  group : l.Gives "group" SpellsWord settings.group
  strategy : ∃ s, l.Gives "strategy" Strategy.Spells s ∧ settings.strategy = s.getD .lazy

theorem settings_eq_ok_iff {settings : Settings} :
    l.settings = .ok settings ↔ l.Spells (l.items "lines") settings := by
  have hnumber : ∀ {key n}, l.number? key = .ok n ↔ l.Gives key SpellsWord n := by
    intro key n
    rw [number?_eq_readFilled]
    exact readFilled_eq_ok_iff fun _ _ => readNumber_eq_ok_iff
  have hstrategy : ∀ {key s}, l.strategy? key = .ok s ↔ l.Gives key Strategy.Spells s := by
    intro key s
    rw [strategy?_eq_readFilled]
    exact readFilled_eq_ok_iff fun _ _ => Strategy.parse_eq_ok_iff
  simp only [Layer.settings, bind_eq_ok_iff, numbers_eq_ok_iff, hnumber, hstrategy]
  constructor
  · rintro ⟨lines, hlines, streams, hstreams, group, hgroup, strategy, hstrategy, hsettings⟩
    obtain rfl := Except.ok.inj hsettings
    exact
      { tags := rfl
        scenarios := lists_iff.mpr rfl
        lines := hlines
        suiteTags := lists_iff.mpr rfl
        streams := ⟨streams, hstreams, rfl⟩
        group := hgroup
        strategy := ⟨strategy, hstrategy, rfl⟩ }
  · intro h
    obtain ⟨streams, hstreams, hn⟩ := h.streams
    obtain ⟨strategy, hstrategy, hs⟩ := h.strategy
    refine ⟨_, h.lines, streams, hstreams, _, h.group, strategy, hstrategy, ?_⟩
    rw [lists_iff.mp h.scenarios, lists_iff.mp h.suiteTags, ← h.tags]
    rw [← hn, ← hs]
    rfl

theorem settings_eq_error_iff :
    l.settings = .error fault ↔ First Reading.Refused (l.readings (l.items "lines")) fault := by
  have hnumber : ∀ key fault, l.number? key = .error fault ↔
      First Reading.Refused (l.reading key (.number key)) fault := by
    intro key fault
    rw [number?_eq_readFilled]
    exact readFilled_eq_error_iff fun _ _ => readNumber_eq_error_iff
  have hstrategy : ∀ key fault, l.strategy? key = .error fault ↔
      First Reading.Refused (l.reading key .strategy) fault := by
    intro key fault
    rw [strategy?_eq_readFilled]
    exact readFilled_eq_error_iff fun _ _ => Strategy.parse_eq_error_iff
  rw [Layer.settings, readings]
  refine bind_eq_error_iff_first (fun _ => numbers_eq_error_iff) (fun lines _ => ?_) fault
  refine bind_eq_error_iff_first (hnumber _) fun streams _ => ?_
  refine bind_eq_error_iff_first (hnumber _) fun group _ fault => ?_
  rw [bind_eq_error_iff, hstrategy]
  simp [pure, Except.pure]

/-- There are settings if no text that is read for them is refused. -/
theorem exists_settings_iff : (∃ settings, l.settings = .ok settings) ↔
    ∀ reading ∈ l.readings (l.items "lines"), ∀ fault, ¬ reading.Refused fault := by
  have hfirst : (∃ fault, l.settings = .error fault) ↔
      ∃ reading ∈ l.readings (l.items "lines"), ∃ fault, reading.Refused fault := by
    simp only [settings_eq_error_iff, exists_first_iff]
  rw [← forall_ne_error_iff, ← not_exists, hfirst]
  simp only [not_exists, not_and]

theorem exists_refused_reading_iff {as : String → Reading} :
    (∃ reading ∈ l.reading key as, ∃ fault, reading.Refused fault) ↔
      ∃ raw, l.get? key = some raw ∧ trim raw ≠ "" ∧ ∃ fault, (as raw).Refused fault := by
  simp only [reading, ← and_assoc, ← filled?_eq_some_iff]
  cases l.filled? key <;> simp

/-- **A layer gives settings unless a text of it spells nothing.** The texts are read in order:
the lines, one by one, then the number of streams, the group and the strategy, of which blank
ones are left out. The fault is that of the first one that spells no number, or no strategy.
If there is none, the settings are what the texts spell; what has no text is standard, which
is one stream, no group and the lazy strategy. -/
theorem settings_resolved (l : Layer) :
    ∃ lines, l.Lists "lines" lines ∧
      (∀ settings, l.settings = .ok settings ↔ l.Spells lines settings) ∧
      (∀ fault, l.settings = .error fault ↔ First Reading.Refused (l.readings lines) fault) ∧
      ((∃ fault, l.settings = .error fault) ↔
        (∃ line ∈ lines, ¬ ∃ n, SpellsWord (trim line) n) ∨
        (∃ raw, l.get? "parallel-streams" = some raw ∧ trim raw ≠ "" ∧
          ¬ ∃ n, SpellsWord (trim raw) n) ∨
        (∃ raw, l.get? "group" = some raw ∧ trim raw ≠ "" ∧ ¬ ∃ n, SpellsWord (trim raw) n) ∨
        ∃ raw, l.get? "strategy" = some raw ∧ trim raw ≠ "" ∧
          asciiLower (trim raw) ≠ "lazy" ∧ asciiLower (trim raw) ≠ "eager") := by
  refine ⟨l.items "lines", lists_iff.mpr rfl, fun _ => settings_eq_ok_iff,
    fun _ => settings_eq_error_iff, ?_⟩
  simp only [settings_eq_error_iff, exists_first_iff, readings, List.mem_append, or_and_right,
    exists_or, List.mem_map, exists_exists_and_eq_and, exists_refused_reading_iff,
    exists_refused_number_iff, exists_refused_strategy_iff]

end Layer

end Roster

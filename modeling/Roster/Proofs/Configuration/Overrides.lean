import Roster.Proofs.Configuration.Precedence
import Roster.Proofs.Configuration.Written

/-!
What a command line asks for, through its layer.

A layer holds texts alone, so lists and numbers of a command line are written and read back.
Nothing is lost on the way but the blanks around headings and the headings that are blank
(`Overrides.settings_toLayer`).
-/

namespace Roster

open Roster.Text

/-! ### Layers of optional settings -/

section Settings

variable {xs ys : List (String × String)} {key spelling : String}

theorem Layer.get?_ofList_append :
    (ofList (xs ++ ys)).get? key = ((ofList ys).get? key).or ((ofList xs).get? key) := by
  induction ys using List.reverseRecOn with
  | nil => rw [List.append_nil]; rfl
  | append_singleton ys y ih =>
    rw [← List.append_assoc, ofList_concat, ofList_concat, get?_set, get?_set, ih]
    split <;> rfl

/-- A setting that is there or not. -/
theorem Layer.get?_ofList_toList {text : Option String} :
    (ofList (text.map (spelling, ·)).toList).get? key =
      if normalKey key = normalKey spelling then text else none := by
  cases text with
  | none => simp [ofList, setAll, get?]
  | some text => exact get?_set

/-- Every key has its text, where all are spelled in normal form. -/
theorem Layer.get?_ofList_flatMap {keys : List String} {text : String → Option String}
    (hkey : normalKey key = key) (hkeys : ∀ spelling ∈ keys, normalKey spelling = spelling) :
    (ofList (keys.flatMap fun spelling => ((text spelling).map (spelling, ·)).toList)).get? key =
      if key ∈ keys then text key else none := by
  induction keys with
  | nil => rfl
  | cons spelling keys ih =>
    obtain ⟨hspelling, hkeys⟩ := List.forall_mem_cons.mp hkeys
    rw [List.flatMap_cons, get?_ofList_append, ih hkeys, get?_ofList_toList, hkey, hspelling]
    by_cases heq : key = spelling
    · subst heq
      by_cases hmem : key ∈ keys <;> simp [hmem]
    · simp [heq]

end Settings

/-! ### Headings, numbers and strategies -/

/-- The text of a list, none where it is empty. -/
def listText? (items : List String) : Option String :=
  if items.isEmpty then none else some (writeList items)

theorem listSetting_eq (key : String) (items : List String) :
    listSetting key items = ((listText? items).map (key, ·)).toList := by
  cases items <;> rfl

theorem getD_map_readList (items : List String) :
    ((listText? items).map readList).getD [] = (items.map trim).filter (· ≠ "") := by
  cases items with
  | nil => rfl
  | cons item items => simp [listText?, readList_writeList]

theorem filter_map_trim_numeral (ns : List Nat) :
    ((ns.map numeral).map trim).filter (· ≠ "") = ns.map numeral := by
  rw [List.map_map, List.filter_eq_self.mpr]
  · exact List.map_congr_left fun n _ => trim_numeral n
  · intro s hs
    obtain ⟨n, -, rfl⟩ := List.mem_map.mp hs
    simp [trim_numeral, numeral_ne_empty]

theorem Strategy.parse_text (s : Strategy) : parse s.text = .ok s := by
  cases s <;> decide +kernel

theorem Strategy.trim_text_ne_empty (s : Strategy) : trim s.text ≠ "" := by
  cases s <;> decide +kernel

theorem Layer.filled?_eq_some {l : Layer} {key raw : String} (h : l.get? key = some raw)
    (hraw : trim raw ≠ "") : l.filled? key = some raw := by
  rw [filled?, h, Option.filter_some, if_pos (by simpa using hraw)]

theorem Layer.number?_eq_ok {l : Layer} {key : String} {n : Option Nat}
    (h : l.get? key = n.map numeral) (hn : ∀ m ∈ n, m < wordLimit) : l.number? key = .ok n := by
  cases n with
  | none => simp [number?, filled?, h]
  | some n =>
    have hraw : trim (numeral n) ≠ "" := by
      rw [trim_numeral]
      exact numeral_ne_empty n
    rw [number?, filled?_eq_some h hraw]
    dsimp only
    rw [readNumber_numeral (hn n rfl)]
    rfl

theorem Layer.strategy?_eq_ok {l : Layer} {key : String} {s : Option Strategy}
    (h : l.get? key = s.map Strategy.text) : l.strategy? key = .ok s := by
  cases s with
  | none => simp [strategy?, filled?, h]
  | some s =>
    rw [strategy?, filled?_eq_some h s.trim_text_ne_empty]
    dsimp only
    rw [s.parse_text]
    rfl

namespace Overrides

/-- Every number fits a word. -/
structure Fits (o : Overrides) : Prop where
  lines : ∀ n ∈ o.lines, n < wordLimit
  streams : ∀ n ∈ o.streams, n < wordLimit
  group : ∀ n ∈ o.group, n < wordLimit

/-- The text that a command line gives to a key. -/
def text? (o : Overrides) (key : String) : Option String :=
  if key = "tags" then o.tags
  else if key = "scenarios" then listText? o.scenarios
  else if key = "lines" then listText? (o.lines.map numeral)
  else if key = "parallel-streams" then o.streams.map numeral
  else if key = "group" then o.group.map numeral
  else if key = "strategy" then o.strategy.map Strategy.text
  else none

theorem settings_eq (o : Overrides) :
    o.settings = ["tags", "scenarios", "lines", "parallel-streams", "group", "strategy"].flatMap
      fun key => ((o.text? key).map (key, ·)).toList := by
  simp [settings, listSetting_eq, text?, Option.map_map, Function.comp_def]

/-- The keys of settings are in normal form. -/
theorem normalKey_of_mem_keys {key : String} (h : key ∈ Settings.keys) : normalKey key = key := by
  have hall : ∀ key ∈ Settings.keys, normalKey key = key := by decide +kernel
  exact hall key h

theorem get?_toLayer (o : Overrides) {key : String} (h : key ∈ Settings.keys) :
    o.toLayer.get? key = o.text? key := by
  rw [toLayer, settings_eq, Layer.get?_ofList_flatMap (normalKey_of_mem_keys h)]
  · split
    · rfl
    · simp_all [text?]
  · exact fun spelling hspelling => normalKey_of_mem_keys (by revert spelling; decide)

variable {o : Overrides}

theorem items_toLayer (o : Overrides) : o.toLayer.items "scenarios" =
    (o.scenarios.map trim).filter (· ≠ "") := by
  rw [Layer.items, get?_toLayer o (by decide)]
  exact getD_map_readList o.scenarios

theorem numbers_toLayer (ho : o.Fits) : o.toLayer.numbers "lines" = .ok o.lines := by
  have hitems : o.toLayer.items "lines" = o.lines.map numeral := by
    rw [Layer.items, get?_toLayer o (by decide), ← filter_map_trim_numeral]
    exact getD_map_readList (o.lines.map numeral)
  rw [Layer.numbers, hitems]
  exact mapM_map_eq_pure fun n hn => readNumber_numeral (ho.lines n hn)

/-- **What a command line asks for survives the texts of its layer.** The tag expression is the
same text, the lines are the same numbers in their order, and so are the number of streams, the
group and the strategy, with what is standard where nothing is asked for. The headings lose the
blanks at their ends, and blank ones are left out; the others keep their order, repeated ones
included. There are no tags of the suite. -/
theorem settings_toLayer (ho : o.Fits) :
    o.toLayer.settings = .ok
      { tags := o.tags.getD ""
        scenarios := (o.scenarios.map trim).filter (· ≠ "")
        lines := o.lines
        suiteTags := []
        streams := o.streams.getD 1
        group := o.group
        strategy := o.strategy.getD .lazy } := by
  have htags : o.toLayer.get? "tags" = o.tags := get?_toLayer o (by decide)
  have hsuiteTags : o.toLayer.get? "suite-tags" = none := get?_toLayer o (by decide)
  have hstreams : o.toLayer.get? "parallel-streams" = o.streams.map numeral :=
    get?_toLayer o (by decide)
  have hgroup : o.toLayer.get? "group" = o.group.map numeral := get?_toLayer o (by decide)
  have hstrategy : o.toLayer.get? "strategy" = o.strategy.map Strategy.text :=
    get?_toLayer o (by decide)
  rw [Layer.settings, numbers_toLayer ho, Layer.number?_eq_ok hstreams ho.streams,
    Layer.number?_eq_ok hgroup ho.group, Layer.strategy?_eq_ok hstrategy, htags, items_toLayer,
    Layer.items, hsuiteTags]
  rfl

end Overrides

namespace Sample

/-- Headings and a tag expression that a text could break, with numbers at both ends. -/
def overrides : Overrides :=
  { tags := some "  smoke, \"slow\" "
    scenarios := ["pay, then ship", "  [\"a\\b\"]\t", "\u00a0 ", "é\x01\n", "é\x01", ""]
    lines := [18446744073709551615, 0, 12, 0]
    group := some 0 }

end Sample

theorem settings_toLayer_sample :
    Sample.overrides.Fits ∧ Sample.overrides.toLayer.settings = .ok
      { tags := "  smoke, \"slow\" "
        scenarios := ["pay, then ship", "[\"a\\b\"]", "é\x01", "é\x01"]
        lines := [18446744073709551615, 0, 12, 0]
        streams := 1
        group := some 0
        strategy := .lazy } := by
  have hfits : Sample.overrides.Fits := ⟨by decide, by decide, by decide⟩
  refine ⟨hfits, ?_⟩
  rw [Overrides.settings_toLayer hfits]
  exact congrArg Except.ok (by decide +kernel)

end Roster

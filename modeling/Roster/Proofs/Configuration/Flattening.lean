import Roster.Proofs.Configuration.Leaves
import Roster.Proofs.Configuration.Precedence
import Roster.Proofs.Configuration.Resolution

/-!
What a document sets.

A document is flattened into its leaves (`flatten_eq`), and the key of a leaf is the normal
form of the names on the way to it, with points between. Where the names are not empty and no
two leaves have one key, the layer of the document has one entry for each leaf and no other
(`Layer.ofValue_exact`). A sequence of texts at the key of a list is that list, also if there
are commas in it (`WellKeyed.items_ofValue`).
-/

namespace Roster

open Roster.Text Roster.Yaml

/-! ### Flattening -/

section Flattening

variable {v : Value} {path : String} {names : List String}

theorem flatten_of_not_map (hv : ∀ entries, v ≠ .map entries) :
    flatten path v = ((leafText? v).map (path, ·)).toList := by
  cases v with
  | map entries => exact absurd rfl (hv entries)
  | seq => rfl
  | _ =>
    rw [flatten, leafText?]
    all_goals simp

/-- A document is flattened into its leaves. -/
theorem flatten_eq : flatten path v =
    (leaves v).map fun leaf => (leaf.names.foldl extendPath path, leaf.text) := by
  induction v using Value.byEntries generalizing path with
  | other v hv =>
    rw [leaves_of_not_map hv, flatten_of_not_map hv]
    cases leafText? v <;> rfl
  | map entries ih =>
    rw [flatten, leaves]
    -- The number of the first entry does not count.
    generalize 0 = i
    induction entries generalizing i with
    | nil => rfl
    | cons entry entries ihEntries =>
      obtain ⟨hentry, hentries⟩ := List.forall_mem_cons.mp ih
      rw [flattenEntries, entryLeaves, List.map_append, ihEntries hentries (i + 1)]
      cases entry.1.text? with
      | none => rfl
      | some name =>
        dsimp only
        rw [hentry, List.map_map]
        rfl

theorem foldl_extendPath (hpath : path ≠ "") :
    names.foldl extendPath path = ".".intercalate (path :: names) := by
  induction names generalizing path with
  | nil => rw [List.foldl_nil, String.intercalate_singleton]
  | cons name names ih =>
    rw [List.foldl_cons, extendPath, if_neg hpath, ih]
    · rfl
    · simp

/-- Names that are not empty are joined with points. -/
theorem foldl_extendPath_empty (hnames : "" ∉ names) :
    names.foldl extendPath "" = ".".intercalate names := by
  cases names with
  | nil => rfl
  | cons name names =>
    rw [List.foldl_cons, extendPath, if_pos rfl]
    refine foldl_extendPath ?_
    rintro rfl
    exact hnames List.mem_cons_self

end Flattening

/-! ### Entries of a layer -/

theorem eraseDupsBy_eq_self {α : Type} {r : α → α → Bool} {xs : List α}
    (h : xs.Pairwise fun a b => r b a = false) : xs.eraseDupsBy r = xs := by
  induction xs with
  | nil => rfl
  | cons x xs ih =>
    obtain ⟨hx, hxs⟩ := List.pairwise_cons.mp h
    rw [List.eraseDupsBy_cons, List.filter_eq_self.mpr, ih hxs]
    intro y hy
    exact decide_eq_true (hx y hy)

namespace Layer

variable {entries : List (String × String)}

theorem entries_ofList :
    (ofList entries).entries = (entries.map fun entry => (normalKey entry.1, entry.2)).reverse := by
  induction entries using List.reverseRecOn with
  | nil => rfl
  | append_singleton entries entry ih =>
    rw [ofList_concat, set, ih, List.map_append, List.reverse_append]
    rfl

/-- Where every key is set once, a layer has what was set, the last first. -/
theorem toList_ofList (hdiffer : (entries.map fun entry => normalKey entry.1).Nodup) :
    (ofList entries).toList =
      (entries.map fun entry => (normalKey entry.1, entry.2)).reverse := by
  rw [toList, entries_ofList]
  apply eraseDupsBy_eq_self
  rw [List.pairwise_reverse, List.pairwise_map]
  refine (List.pairwise_map.mp hdiffer).imp fun hne => ?_
  exact beq_eq_false_iff_ne.mpr hne

end Layer

/-! ### The layer of a document -/

/-- The keys of a document tell its leaves apart: no name on the way to one is empty, and no
two of them have one key. -/
structure WellKeyed (v : Value) : Prop where
  filled : ∀ leaf, HasLeaf v leaf → "" ∉ leaf.names
  differ : ∀ a b, HasLeaf v a → HasLeaf v b → a.key = b.key → a.place = b.place

section Document

variable {v : Value} {place : List Nat} {names items : List String} {spelling text : String}

theorem WellKeyed.nodup_keys (hv : WellKeyed v) : ((leaves v).map Leaf.key).Nodup := by
  refine List.Nodup.map_on (fun a ha b hb hkey => ?_) (List.Nodup.of_map _ nodup_places)
  rw [mem_leaves_iff] at ha hb
  exact ha.eq_of_place hb (hv.differ a b ha hb hkey)

theorem wellKeyed_iff : WellKeyed v ↔
    (∀ leaf ∈ leaves v, "" ∉ leaf.names) ∧ ((leaves v).map Leaf.key).Nodup := by
  constructor
  · intro hv
    exact ⟨fun leaf hleaf => hv.filled leaf (mem_leaves_iff.mp hleaf), hv.nodup_keys⟩
  · rintro ⟨hfilled, hkeys⟩
    refine ⟨fun leaf hleaf => hfilled leaf (mem_leaves_iff.mpr hleaf), fun a b ha hb hkey => ?_⟩
    rw [← mem_leaves_iff] at ha hb
    exact congrArg Leaf.place (List.inj_on_of_nodup_map hkeys ha hb hkey)

theorem WellKeyed.flatten_eq_map (hv : WellKeyed v) :
    flatten "" v = (leaves v).map fun leaf => (".".intercalate leaf.names, leaf.text) := by
  rw [flatten_eq]
  refine List.map_congr_left fun leaf hleaf => ?_
  rw [foldl_extendPath_empty (hv.filled leaf (mem_leaves_iff.mp hleaf))]

theorem WellKeyed.nodup_flatten (hv : WellKeyed v) :
    ((flatten "" v).map fun entry => normalKey entry.1).Nodup := by
  rw [hv.flatten_eq_map, List.map_map]
  exact hv.nodup_keys

theorem WellKeyed.toList_ofValue (hv : WellKeyed v) :
    (Layer.ofValue v).toList = ((leaves v).map fun leaf => (leaf.key, leaf.text)).reverse := by
  rw [Layer.ofValue, Layer.toList_ofList hv.nodup_flatten, hv.flatten_eq_map, List.map_map]
  rfl

theorem WellKeyed.mem_toList_iff (hv : WellKeyed v) {entry : String × String} :
    entry ∈ (Layer.ofValue v).toList ↔
      ∃ leaf, HasLeaf v leaf ∧ (leaf.key, leaf.text) = entry := by
  simp only [hv.toList_ofValue, List.mem_reverse, List.mem_map, mem_leaves_iff]

theorem WellKeyed.nodup_toList (hv : WellKeyed v) :
    ((Layer.ofValue v).toList.map Prod.fst).Nodup := by
  rw [hv.toList_ofValue, List.map_reverse, List.nodup_reverse, List.map_map]
  exact hv.nodup_keys

/-- Each entry comes from one leaf. -/
theorem WellKeyed.existsUnique_leaf (hv : WellKeyed v) {entry : String × String}
    (hentry : entry ∈ (Layer.ofValue v).toList) :
    ∃! leaf, HasLeaf v leaf ∧ (leaf.key, leaf.text) = entry := by
  obtain ⟨leaf, hleaf, rfl⟩ := hv.mem_toList_iff.mp hentry
  refine ⟨leaf, ⟨hleaf, rfl⟩, ?_⟩
  rintro other ⟨hother, heq⟩
  have hkey : other.key = leaf.key := congrArg Prod.fst heq
  exact hother.eq_of_place hleaf (hv.differ other leaf hother hleaf hkey)

theorem WellKeyed.get?_ofValue (hv : WellKeyed v) : (Layer.ofValue v).get? spelling = some text ↔
    ∃ leaf, HasLeaf v leaf ∧ leaf.key = normalKey spelling ∧ leaf.text = text := by
  rw [Layer.ofValue, Layer.get?_ofList, lastSet_iff_mem hv.nodup_flatten, hv.flatten_eq_map]
  simp only [List.mem_map, mem_leaves_iff, Prod.mk.injEq]
  constructor
  · rintro ⟨_, ⟨leaf, hleaf, rfl, rfl⟩, hkey⟩
    exact ⟨leaf, hleaf, hkey, rfl⟩
  · rintro ⟨leaf, hleaf, hkey, rfl⟩
    exact ⟨_, ⟨leaf, hleaf, rfl, rfl⟩, hkey⟩

/-- A sequence of texts is a list of them. -/
theorem WellKeyed.items_ofValue (hv : WellKeyed v) {key : String}
    (hpart : PartAt v place names (.seq (items.map .text)))
    (hkey : normalKey (".".intercalate names) = normalKey key) :
    (Layer.ofValue v).items key = tidy items := by
  have htexts : ScalarTexts (items.map .text) items := by
    rw [scalarTexts_iff, List.filterMap_map]
    exact List.filterMap_some
  have hget : (Layer.ofValue v).get? key = some (writeList items) :=
    hv.get?_ofValue.mpr ⟨⟨place, names, writeList items⟩, ⟨_, hpart, .seq htexts⟩, hkey, rfl⟩
  rw [Layer.items, hget, Option.map_some, Option.getD_some, readList_writeList]
  rfl

theorem WellKeyed.scenarios_eq (hv : WellKeyed v) {settings : Settings}
    (hpart : PartAt v place names (.seq (items.map .text)))
    (hkey : normalKey (".".intercalate names) = "scenarios")
    (hsettings : (Layer.ofValue v).settings = .ok settings) : settings.scenarios = tidy items := by
  have hscenarios : normalKey "scenarios" = "scenarios" := by decide +kernel
  rw [← Layer.lists_iff.mp (Layer.settings_eq_ok_iff.mp hsettings).scenarios]
  exact hv.items_ofValue hpart (hkey.trans hscenarios.symm)

/-- **The layer of a document has one entry for each leaf, and no other.** It gives the key of a
leaf, in every spelling, what is set to the leaf. Nothing comes from a part that is null, an
empty mapping or a collection with a tag, nor from below a key that is no text. A sequence of
texts at the key of the scenarios is their list, with commas in them or without: if the layer
gives settings, which it does unless a text of it spells nothing, the scenarios are these. -/
theorem Layer.ofValue_exact (hv : WellKeyed v) :
    (∀ leaf, HasLeaf v leaf → (leaf.key, leaf.text) ∈ (ofValue v).toList) ∧
      (∀ entry ∈ (ofValue v).toList, ∃! leaf, HasLeaf v leaf ∧ (leaf.key, leaf.text) = entry) ∧
      ((ofValue v).toList.map Prod.fst).Nodup ∧
      (∀ spelling text, (ofValue v).get? spelling = some text ↔
        (normalKey spelling, text) ∈ (ofValue v).toList) ∧
      (∀ place names part, PartAt v place names part → Bare part →
        ∀ leaf, HasLeaf v leaf → ¬ place <+: leaf.place) ∧
      (∀ place names entries, PartAt v place names (.map entries) →
        ∀ (i : Nat) key w, entries[i]? = some (key, w) → key.text? = none →
          ∀ leaf, HasLeaf v leaf → ¬ place ++ [i] <+: leaf.place) ∧
      ∀ place names items, PartAt v place names (.seq (items.map .text)) →
        normalKey (".".intercalate names) = "scenarios" →
        (∀ settings, (ofValue v).settings = .ok settings → settings.scenarios = tidy items) ∧
        ((∃ settings, (ofValue v).settings = .ok settings) ↔
          ∀ reading ∈ (ofValue v).readings ((ofValue v).items "lines"),
            ∀ fault, ¬ reading.Refused fault) := by
  refine ⟨?_, fun _ => hv.existsUnique_leaf, hv.nodup_toList, ?_, ?_, ?_, ?_⟩
  · intro leaf hleaf
    exact hv.mem_toList_iff.mpr ⟨leaf, hleaf, rfl⟩
  · intro spelling text
    rw [hv.get?_ofValue, hv.mem_toList_iff]
    simp only [Prod.mk.injEq]
  · intro place names part hpart hbare leaf hleaf
    exact hpart.not_prefix_of_bare hbare hleaf
  · intro place names entries hpart i key w hentry hkey leaf hleaf
    exact hpart.not_prefix_of_key hentry hkey hleaf
  · intro place names items hpart hkey
    exact ⟨fun settings hsettings => hv.scenarios_eq hpart hkey hsettings, exists_settings_iff⟩

end Document

namespace Sample

/-- A document with a key that is no text, bare parts, and commas in a list. -/
def document : Value :=
  .map [
    (.text "Report", .map [
      (.text "Retry_Limit", .tagged "!count" (.int 3)),
      (.int 7, .text "lost"),
      (.text "owner", .null),
      (.text "links", .map [])]),
    (.text "SCENARIOS", .seq [.text " Sign in, then out ", .text " ", .text "Pay"]),
    (.text "labels", .seq [.int 12, .null, .seq [.int 13], .text "b"]),
    (.text "held", .tagged "!set" (.seq [.text "x"]))]

end Sample

theorem Layer.ofValue_exact_sample :
    WellKeyed Sample.document ∧
      ("report.retry-limit", "3") ∈ (Layer.ofValue Sample.document).toList ∧
      ("labels", "[\"12\",\"b\"]") ∈ (Layer.ofValue Sample.document).toList ∧
      ∃ settings, (Layer.ofValue Sample.document).settings = .ok settings ∧
        settings.scenarios = ["Sign in, then out", "Pay"] := by
  have hv : WellKeyed Sample.document := wellKeyed_iff.mpr (by decide +kernel)
  have hleaves : (leaves Sample.document).map (fun leaf => (leaf.key, leaf.text)) =
      [("report.retry-limit", "3"),
        ("scenarios", "[\" Sign in, then out \",\" \",\"Pay\"]"),
        ("labels", "[\"12\",\"b\"]")] := by
    decide +kernel
  have hpart : PartAt Sample.document [1] ["SCENARIOS"]
      (.seq ([" Sign in, then out ", " ", "Pay"].map .text)) :=
    .entry rfl rfl (.whole _)
  have hreadings : (Layer.ofValue Sample.document).readings
      ((Layer.ofValue Sample.document).items "lines") = [] := by
    decide +kernel
  obtain ⟨hentry, -, -, -, -, -, hscenarios⟩ := Layer.ofValue_exact hv
  have hentries : ∀ entry ∈ (leaves Sample.document).map fun leaf => (leaf.key, leaf.text),
      entry ∈ (Layer.ofValue Sample.document).toList := by
    refine List.forall_mem_map.mpr fun leaf hleaf => ?_
    exact hentry leaf (mem_leaves_iff.mp hleaf)
  rw [hleaves] at hentries
  obtain ⟨hsame, hsettings⟩ := hscenarios _ _ _ hpart (by decide +kernel)
  obtain ⟨settings, hok⟩ := hsettings.mpr (by simp [hreadings])
  refine ⟨hv, hentries _ (by simp), hentries _ (by simp), settings, hok, ?_⟩
  rw [hsame settings hok]
  decide +kernel

end Roster

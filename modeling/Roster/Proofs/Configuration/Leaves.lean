import Mathlib.Data.List.Nodup
import Roster.Configuration.Source

/-!
The leaves of a document.

A document is a tree of mappings. Its leaves are the scalars and the sequences in it that are
reached through keys that are texts (`HasLeaf`); they can be listed (`mem_leaves_iff`), and no
two of them stand at one place (`nodup_places`). What is null, an empty mapping or a collection
with a tag has no leaves, and none stands below a key that is no text
(`PartAt.not_prefix_of_bare`, `PartAt.not_prefix_of_key`).
-/

namespace Roster

open Roster.Text Roster.Yaml

/-! ### Values -/

namespace Yaml

mutual

/-- What holds of all values but mappings, and of a mapping if it holds of the values of its
entries, holds of all values. -/
@[elab_as_elim]
theorem Value.byEntries {P : Value → Prop}
    (other : ∀ v, (∀ entries, v ≠ .map entries) → P v)
    (map : ∀ entries, (∀ entry ∈ entries, P entry.2) → P (.map entries)) : (v : Value) → P v
  | .map entries => map entries (Value.byEntries_entries other map entries)
  | .null | .bool _ | .int _ | .float _ | .text _ | .seq _ | .tagged _ _ => other _ nofun

theorem Value.byEntries_entries {P : Value → Prop}
    (other : ∀ v, (∀ entries, v ≠ .map entries) → P v)
    (map : ∀ entries, (∀ entry ∈ entries, P entry.2) → P (.map entries)) :
    (entries : List (Value × Value)) → ∀ entry ∈ entries, P entry.2
  | [] => nofun
  | (_, v) :: entries => List.forall_mem_cons.mpr
    ⟨Value.byEntries other map v, Value.byEntries_entries other map entries⟩

end

end Yaml

/-! ### Texts -/

/-- A scalar has a text; a tag of it does not count. -/
inductive ScalarText : Value → String → Prop where
  | bool (b : Bool) : ScalarText (.bool b) (if b then "true" else "false")
  | int (n : Int) : ScalarText (.int n) (.ofList (Decimal.signed n))
  | float (d : Decimal.Double) : ScalarText (.float d) (.ofList (doubleText d))
  | text (s : String) : ScalarText (.text s) s
  | tagged {tag text : String} {inner : Value} : ScalarText inner text →
      ScalarText (.tagged tag inner) text

/-- The texts of the scalars among values, in order. -/
inductive ScalarTexts : List Value → List String → Prop where
  | nil : ScalarTexts [] []
  | kept {v : Value} {vs : List Value} {text : String} {texts : List String} :
      ScalarText v text → ScalarTexts vs texts → ScalarTexts (v :: vs) (text :: texts)
  | dropped {v : Value} {vs : List Value} {texts : List String} :
      (∀ text, ¬ ScalarText v text) → ScalarTexts vs texts → ScalarTexts (v :: vs) texts

/-- What is set to a leaf: the text of a scalar, or the texts of the scalars of a sequence. -/
inductive LeafText : Value → String → Prop where
  | scalar {v : Value} {text : String} : ScalarText v text → LeafText v text
  | seq {items : List Value} {texts : List String} : ScalarTexts items texts →
      LeafText (.seq items) (writeList texts)

section Texts

variable {v : Value} {vs : List Value} {text : String} {texts : List String}

theorem scalarText_iff : ScalarText v text ↔ v.scalarText? = some text := by
  constructor
  · intro h
    induction h with
    | bool | int | float | text => rfl
    | tagged _ ih => exact ih
  · intro h
    induction v using Value.untagged.induct with
    | case1 tag inner ih => exact .tagged (ih h)
    | case2 v hv =>
      cases v with
      | null | seq | map => cases h
      | tagged tag inner => exact absurd rfl (hv tag inner)
      | bool b => exact Option.some.inj h ▸ .bool b
      | int n => exact Option.some.inj h ▸ .int n
      | float d => exact Option.some.inj h ▸ .float d
      | text s => exact Option.some.inj h ▸ .text s

theorem scalarTexts_iff : ScalarTexts vs texts ↔ vs.filterMap Value.scalarText? = texts := by
  constructor
  · intro h
    induction h with
    | nil => rfl
    | kept hv _ ih => rw [List.filterMap_cons_some (scalarText_iff.mp hv), ih]
    | dropped hv _ ih =>
      simp only [scalarText_iff, ← Option.eq_none_iff_forall_ne_some] at hv
      rw [List.filterMap_cons_none hv, ih]
  · rintro rfl
    induction vs with
    | nil => exact .nil
    | cons v vs ih =>
      cases hv : v.scalarText? with
      | some text =>
        rw [List.filterMap_cons_some hv]
        exact .kept (scalarText_iff.mpr hv) ih
      | none =>
        rw [List.filterMap_cons_none hv]
        refine .dropped (fun text h => ?_) ih
        rw [scalarText_iff.mp h] at hv
        cases hv

end Texts

/-! ### Leaves -/

/-- The part of a value at a place, which is reached through keys that are texts. The place is
given by the numbers of the entries that lead there. -/
inductive PartAt : Value → List Nat → List String → Value → Prop where
  | whole (v : Value) : PartAt v [] [] v
  | entry {entries : List (Value × Value)} {i : Nat} {key v part : Value} {name : String}
      {place : List Nat} {names : List String} :
      entries[i]? = some (key, v) → key.text? = some name → PartAt v place names part →
      PartAt (.map entries) (i :: place) (name :: names) part

/-- A leaf of a document: where it stands, the names on the way to it, and what is set to it. -/
structure Leaf where
  place : List Nat
  names : List String
  text : String
  deriving DecidableEq, Repr

/-- The key of a leaf in a layer. -/
def Leaf.key (leaf : Leaf) : String :=
  normalKey (".".intercalate leaf.names)

/-- The leaf, as one of the value that has the present one as an entry. -/
def Leaf.under (i : Nat) (name : String) (leaf : Leaf) : Leaf :=
  ⟨i :: leaf.place, name :: leaf.names, leaf.text⟩

/-- The value has the leaf. -/
def HasLeaf (v : Value) (leaf : Leaf) : Prop :=
  ∃ part, PartAt v leaf.place leaf.names part ∧ LeafText part leaf.text

/-- The part has no leaves: it is null, an empty mapping, or has a tag and is no scalar. -/
inductive Bare : Value → Prop where
  | null : Bare .null
  | empty : Bare (.map [])
  | tagged {tag : String} {inner : Value} : (∀ text, ¬ ScalarText inner text) →
      Bare (.tagged tag inner)

/-- The text that is set to a value, if it can be a leaf. -/
def leafText? : Value → Option String
  | .seq items => some (writeList (items.filterMap Value.scalarText?))
  | v => v.scalarText?

mutual

/-- All leaves of a value, in order. -/
def leaves : Value → List Leaf
  | .map entries => entryLeaves 0 entries
  | v => ((leafText? v).map (⟨[], [], ·⟩)).toList

/-- All leaves of entries that are numbered from `i` on. -/
def entryLeaves (i : Nat) : List (Value × Value) → List Leaf
  | [] => []
  | (key, v) :: entries =>
    (match key.text? with
      | some name => (leaves v).map (Leaf.under i name)
      | none => []) ++ entryLeaves (i + 1) entries

end

section Leaves

variable {v : Value} {entries : List (Value × Value)} {leaf : Leaf} {text : String} {i : Nat}

theorem leafText_iff : LeafText v text ↔ leafText? v = some text := by
  constructor
  · rintro (htext | htexts)
    · rw [scalarText_iff] at htext
      cases v with
      | seq => cases htext
      | _ => exact htext
    · rw [leafText?, scalarTexts_iff.mp htexts]
  · intro htext
    cases v with
    | seq items => exact Option.some.inj htext ▸ .seq (scalarTexts_iff.mpr rfl)
    | _ => exact .scalar (scalarText_iff.mpr htext)

theorem leaves_of_not_map (hv : ∀ entries, v ≠ .map entries) :
    leaves v = ((leafText? v).map (⟨[], [], ·⟩)).toList := by
  rw [leaves]
  exact hv

/-- A value that is no mapping has no leaf but itself. -/
theorem hasLeaf_iff_of_not_map (hv : ∀ entries, v ≠ .map entries) :
    HasLeaf v leaf ↔ ∃ text, leafText? v = some text ∧ leaf = ⟨[], [], text⟩ := by
  simp only [← leafText_iff]
  constructor
  · obtain ⟨place, names, text⟩ := leaf
    rintro ⟨part, hpart, htext⟩
    cases hpart with
    | whole => exact ⟨text, htext, rfl⟩
    | entry => exact absurd rfl (hv _)
  · rintro ⟨text, htext, rfl⟩
    exact ⟨v, .whole v, htext⟩

/-- The leaves of a mapping are those of its entries whose keys are texts. -/
theorem hasLeaf_map_iff : HasLeaf (.map entries) leaf ↔
    ∃ i key v name below, entries[i]? = some (key, v) ∧ key.text? = some name ∧
      HasLeaf v below ∧ leaf = below.under i name := by
  constructor
  · obtain ⟨place, names, text⟩ := leaf
    rintro ⟨part, hpart, htext⟩
    cases hpart with
    | whole => cases leafText_iff.mp htext
    | entry hentry hname hpart =>
      exact ⟨_, _, _, _, ⟨_, _, text⟩, hentry, hname, ⟨part, hpart, htext⟩, rfl⟩
  · rintro ⟨i, key, v, name, below, hentry, hname, ⟨part, hpart, htext⟩, rfl⟩
    exact ⟨part, .entry hentry hname hpart, htext⟩

theorem mem_entryLeaves_iff
    (hentries : ∀ entry ∈ entries, ∀ leaf, leaf ∈ leaves entry.2 ↔ HasLeaf entry.2 leaf) :
    leaf ∈ entryLeaves i entries ↔
      ∃ j key v name below, entries[j]? = some (key, v) ∧ key.text? = some name ∧
        HasLeaf v below ∧ leaf = below.under (i + j) name := by
  induction entries generalizing i with
  | nil => simp [entryLeaves]
  | cons entry entries ih =>
    obtain ⟨key, v⟩ := entry
    obtain ⟨hentry, hentries⟩ := List.forall_mem_cons.mp hentries
    rw [entryLeaves, List.mem_append, ih hentries]
    refine (or_congr ?_ ?_).trans Nat.or_exists_add_one
    · cases hname : key.text? with
      | none => simp [hname]
      | some name => simp [hname, hentry, @eq_comm _ leaf]
    · simp only [List.getElem?_cons_succ, Nat.add_right_comm i 1, Nat.add_assoc]

/-- The list has the leaves. -/
theorem mem_leaves_iff : leaf ∈ leaves v ↔ HasLeaf v leaf := by
  induction v using Value.byEntries generalizing leaf with
  | other v hv =>
    rw [leaves_of_not_map hv, hasLeaf_iff_of_not_map hv]
    simp only [Option.mem_toList, Option.map_eq_some_iff, @eq_comm _ leaf]
  | map entries ih =>
    rw [leaves, mem_entryLeaves_iff fun entry hentry _ => ih entry hentry, hasLeaf_map_iff]
    simp only [Nat.zero_add]

theorem le_place_of_mem_entryLeaves (hleaf : leaf ∈ entryLeaves i entries) :
    ∃ j below, i ≤ j ∧ leaf.place = j :: below := by
  induction entries generalizing i with
  | nil => cases hleaf
  | cons entry entries ih =>
    rw [entryLeaves, List.mem_append] at hleaf
    rcases hleaf with hleaf | hleaf
    · cases hname : entry.1.text? with
      | none => simp [hname] at hleaf
      | some name =>
        simp only [hname] at hleaf
        obtain ⟨below, -, rfl⟩ := List.mem_map.mp hleaf
        exact ⟨i, below.place, Nat.le_refl i, rfl⟩
    · obtain ⟨j, below, hj, hplace⟩ := ih hleaf
      exact ⟨j, below, by omega, hplace⟩

theorem nodup_entryPlaces
    (hentries : ∀ entry ∈ entries, ((leaves entry.2).map Leaf.place).Nodup) :
    ((entryLeaves i entries).map Leaf.place).Nodup := by
  induction entries generalizing i with
  | nil => exact List.nodup_nil
  | cons entry entries ih =>
    obtain ⟨hentry, hentries⟩ := List.forall_mem_cons.mp hentries
    rw [entryLeaves]
    cases entry.1.text? with
    | none => exact ih hentries
    | some name =>
      have hplaces : ((leaves entry.2).map (Leaf.under i name)).map Leaf.place =
          ((leaves entry.2).map Leaf.place).map (i :: ·) := by
        simp only [List.map_map]
        rfl
      dsimp only
      rw [List.map_append, hplaces]
      refine List.Nodup.append (hentry.map List.cons_injective) (ih hentries) ?_
      -- The places of later entries start with greater numbers.
      rintro place hfirst hlater
      obtain ⟨below, -, rfl⟩ := List.mem_map.mp hfirst
      obtain ⟨leaf, hleaf, hplace⟩ := List.mem_map.mp hlater
      obtain ⟨j, later, hj, hlater⟩ := le_place_of_mem_entryLeaves hleaf
      obtain ⟨rfl, -⟩ := List.cons.inj (hlater.symm.trans hplace)
      omega

/-- No two leaves stand at one place. -/
theorem nodup_places : ((leaves v).map Leaf.place).Nodup := by
  induction v using Value.byEntries with
  | other v hv =>
    rw [leaves_of_not_map hv]
    cases leafText? v <;> simp
  | map entries ih =>
    rw [leaves]
    exact nodup_entryPlaces ih

/-- A leaf is known by its place. -/
theorem HasLeaf.eq_of_place {a b : Leaf} (ha : HasLeaf v a) (hb : HasLeaf v b)
    (hplace : a.place = b.place) : a = b :=
  List.inj_on_of_nodup_map nodup_places (mem_leaves_iff.mpr ha) (mem_leaves_iff.mpr hb) hplace

end Leaves

/-! ### Parts -/

section Parts

variable {v part : Value} {leaf : Leaf} {place : List Nat} {names : List String}

/-- A leaf at or below a part is a leaf of the part. -/
theorem PartAt.exists_hasLeaf (hpart : PartAt v place names part) (hleaf : HasLeaf v leaf)
    (hbelow : place <+: leaf.place) :
    ∃ below, HasLeaf part below ∧ leaf.place = place ++ below.place := by
  induction hpart generalizing leaf with
  | whole => exact ⟨leaf, hleaf, rfl⟩
  | entry hentry _ _ ih =>
    obtain ⟨i, key, w, name, inner, hfound, -, hinner, rfl⟩ := hasLeaf_map_iff.mp hleaf
    obtain ⟨rfl, hrest⟩ := List.cons_prefix_cons.mp hbelow
    obtain ⟨-, rfl⟩ := Prod.mk.inj (Option.some.inj (hfound.symm.trans hentry))
    obtain ⟨below, hleaf, hplace⟩ := ih hinner hrest
    exact ⟨below, hleaf, congrArg (_ :: ·) hplace⟩

theorem Bare.not_hasLeaf (hv : Bare v) : ¬ HasLeaf v leaf := by
  cases hv with
  | null => simp [hasLeaf_iff_of_not_map, leafText?, Value.scalarText?, Value.untagged]
  | empty => simp [hasLeaf_map_iff]
  | tagged hinner =>
    simp only [scalarText_iff] at hinner
    rw [hasLeaf_iff_of_not_map (by simp)]
    rintro ⟨text, htext, -⟩
    exact hinner text htext

/-- Nothing stands at or below a bare part. -/
theorem PartAt.not_prefix_of_bare (hpart : PartAt v place names part) (hbare : Bare part)
    (hleaf : HasLeaf v leaf) : ¬ place <+: leaf.place := by
  intro hbelow
  obtain ⟨below, hbelow, -⟩ := hpart.exists_hasLeaf hleaf hbelow
  exact hbare.not_hasLeaf hbelow

/-- Nothing stands below a key that is no text. -/
theorem PartAt.not_prefix_of_key {entries : List (Value × Value)} {i : Nat} {key w : Value}
    (hpart : PartAt v place names (.map entries)) (hentry : entries[i]? = some (key, w))
    (hkey : key.text? = none) (hleaf : HasLeaf v leaf) : ¬ place ++ [i] <+: leaf.place := by
  intro hbelow
  obtain ⟨below, hinner, hplace⟩ :=
    hpart.exists_hasLeaf hleaf ((List.prefix_append place [i]).trans hbelow)
  obtain ⟨j, other, u, name, inner, hother, hname, -, rfl⟩ := hasLeaf_map_iff.mp hinner
  rw [hplace, List.prefix_append_right_inj] at hbelow
  obtain ⟨rfl, -⟩ := List.cons_prefix_cons.mp hbelow
  obtain ⟨rfl, -⟩ := Prod.mk.inj (Option.some.inj (hother.symm.trans hentry))
  rw [hkey] at hname
  cases hname

end Parts

end Roster

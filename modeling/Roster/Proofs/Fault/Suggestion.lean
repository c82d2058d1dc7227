import Mathlib.Data.List.Sort
import Roster.Fault.Suggestion

/-!
The best suggestions.

The names that are close to the one searched for have an order without ties: a name at a smaller
distance comes first, and names at one distance stand in the order of their code points. What is
suggested is the beginning of the close names in this order. Names are measured, sorted and only
then rid of repetitions, which is enough, as equal names have equal distances and so stand side by
side.

* `pairwise_dropRepeats` : a list in order has no repetition once no two neighbours are equal.
* `Ranks.eq` : the names in their order are found from the set of names.
* `closeNames_best` : what is suggested, and what it depends on.
-/

namespace Roster

open Roster.Text

/-! ### The order of suggestions -/

/-- As a suggestion for `searched`, `x` is better than `y`: it is closer, or as close and before it
in the order of code points. -/
def Better (searched x y : String) : Prop :=
  distance searched x < distance searched y ∨
    distance searched x = distance searched y ∧ x < y

variable {searched x y z : String}

namespace Better

theorem irrefl : ¬ Better searched x x := by
  rintro (hlt | ⟨-, hlt⟩)
  · exact Nat.lt_irrefl _ hlt
  · exact String.lt_irrefl x hlt

theorem trans (hxy : Better searched x y) (hyz : Better searched y z) : Better searched x z := by
  rcases hxy with hxy | ⟨heq, hxy⟩
  · rcases hyz with hyz | ⟨heq', -⟩
    · exact .inl (Nat.lt_trans hxy hyz)
    · exact .inl (heq' ▸ hxy)
  · rcases hyz with hyz | ⟨heq', hyz⟩
    · exact .inl (heq ▸ hyz)
    · exact .inr ⟨heq.trans heq', String.lt_trans hxy hyz⟩

theorem asymm (hxy : Better searched x y) : ¬ Better searched y x := fun hyx =>
  irrefl (hxy.trans hyx)

theorem distance_le (h : Better searched x y) : distance searched x ≤ distance searched y := by
  rcases h with hlt | ⟨heq, -⟩
  · exact Nat.le_of_lt hlt
  · exact Nat.le_of_eq heq

end Better

theorem suggestedBefore_iff {a b : Nat × String} :
    suggestedBefore a b = true ↔ a.1 < b.1 ∨ a.1 = b.1 ∧ a.2 ≤ b.2 := by
  simp [suggestedBefore, ← String.not_lt]

theorem suggestedBefore_trans (a b c : Nat × String) (hab : suggestedBefore a b = true)
    (hbc : suggestedBefore b c = true) : suggestedBefore a c = true := by
  rw [suggestedBefore_iff] at *
  rcases hab with hab | ⟨heq, hab⟩
  · rcases hbc with hbc | ⟨heq', -⟩
    · exact .inl (Nat.lt_trans hab hbc)
    · exact .inl (heq' ▸ hab)
  · rcases hbc with hbc | ⟨heq', hbc⟩
    · exact .inl (heq ▸ hbc)
    · exact .inr ⟨heq.trans heq', String.le_trans hab hbc⟩

theorem suggestedBefore_total (a b : Nat × String) :
    (suggestedBefore a b || suggestedBefore b a) = true := by
  rw [Bool.or_eq_true, suggestedBefore_iff, suggestedBefore_iff]
  rcases Nat.lt_trichotomy a.1 b.1 with hlt | heq | hgt
  · exact .inl (.inl hlt)
  · rcases String.le_total a.2 b.2 with hle | hle
    · exact .inl (.inr ⟨heq, hle⟩)
    · exact .inr (.inr ⟨heq.symm, hle⟩)
  · exact .inr (.inl hgt)

/-! ### Repetitions -/

theorem mem_dropRepeats {names : List String} : x ∈ dropRepeats names ↔ x ∈ names := by
  fun_induction dropRepeats names with
  | case1 b rest ih => simp [ih]
  | case2 a b rest hne ih => rw [List.mem_cons, ih, List.mem_cons (a := x) (b := a)]
  | case3 names => rfl

/-- Equal names of a list in order are neighbours, so that none is left twice. -/
theorem pairwise_dropRepeats {r : String → String → Prop}
    (htrans : ∀ {x y z}, r x y → r y z → r x z) {names : List String}
    (h : names.Pairwise fun x y => x = y ∨ r x y) : (dropRepeats names).Pairwise r := by
  fun_induction dropRepeats names with
  | case1 b rest ih => exact ih (List.pairwise_cons.mp h).2
  | case2 a b rest hne ih =>
    obtain ⟨hfirst, hrest⟩ := List.pairwise_cons.mp h
    have hnext : r a b := (hfirst b List.mem_cons_self).resolve_left hne
    refine List.pairwise_cons.mpr ⟨?_, ih hrest⟩
    intro c hc
    rcases List.mem_cons.mp (mem_dropRepeats.mp hc) with rfl | hc
    · exact hnext
    · rcases (List.pairwise_cons.mp hrest).1 c hc with rfl | hlater
      · exact hnext
      · exact htrans hnext hlater
  | case3 names hshort =>
    cases names with
    | nil => exact .nil
    | cons a rest =>
      cases rest with
      | nil => exact List.pairwise_singleton r a
      | cons b rest => exact absurd rfl (hshort a b rest)

/-! ### The names in order -/

/-- The names are the close ones of `existing`, each once and the better one first. -/
structure Ranks (searched : String) (existing names : List String) : Prop where
  ordered : names.Pairwise (Better searched)
  members : ∀ name, name ∈ names ↔ name ∈ existing ∧ distance searched name ≤ 3

namespace Ranks

variable {existing existing' names names' : List String}

theorem nodup (h : Ranks searched existing names) : names.Nodup := by
  refine h.ordered.imp ?_
  rintro x y hbetter rfl
  exact hbetter.irrefl

/-- The order leaves no choice. -/
theorem eq (h : Ranks searched existing names) (h' : Ranks searched existing names') :
    names = names' := by
  have hirrefl : Std.Irrefl (Better searched) := ⟨fun _ => Better.irrefl⟩
  have hantisymm : Std.Antisymm (Better searched) := ⟨fun _ _ hxy hyx => absurd hyx hxy.asymm⟩
  refine h.ordered.eq_of_mem_iff h'.ordered fun name => ?_
  rw [h.members, h'.members]

/-- Neither the order of the existing names counts nor how often they occur. -/
theorem congr (h : Ranks searched existing names)
    (hsame : ∀ name, name ∈ existing' ↔ name ∈ existing) : Ranks searched existing' names where
  ordered := h.ordered
  members name := by rw [h.members, hsame]

/-- A name that is better than one of the first is one of them. -/
theorem mem_take (h : Ranks searched existing names) {limit : Nat} (hx : x ∈ names.take limit)
    (hy : y ∈ existing) (hbetter : Better searched y x) : y ∈ names.take limit := by
  have hclose : distance searched y ≤ 3 :=
    Nat.le_trans hbetter.distance_le ((h.members x).mp (List.mem_of_mem_take hx)).2
  have hordered := h.ordered
  have hmem := (h.members y).mpr ⟨hy, hclose⟩
  rw [← List.take_append_drop limit names] at hordered hmem
  rcases List.mem_append.mp hmem with hfirst | hlater
  · exact hfirst
  · exact absurd hbetter ((List.pairwise_append.mp hordered).2.2 x hx y hlater).asymm

end Ranks

/-- The close names of `existing` with their distances. -/
def closeEntries (searched : String) (existing : List String) : List (Nat × String) :=
  (existing.map fun name => (distance searched name, name)).filter
    fun entry => entry.1 ≤ suggestionRadius

theorem mem_closeEntries {existing : List String} {entry : Nat × String} :
    entry ∈ closeEntries searched existing ↔
      entry.2 ∈ existing ∧ entry.1 = distance searched entry.2 ∧ entry.1 ≤ 3 := by
  obtain ⟨d, name⟩ := entry
  rw [closeEntries, List.mem_filter, List.mem_map, decide_eq_true_iff, suggestionRadius]
  simp only [Prod.mk.injEq]
  constructor
  · rintro ⟨⟨_, hname, rfl, rfl⟩, hclose⟩
    exact ⟨hname, rfl, hclose⟩
  · rintro ⟨hname, rfl, hclose⟩
    exact ⟨⟨name, hname, rfl, rfl⟩, hclose⟩

/-- The close names of `existing`, the best first. -/
def closestFirst (searched : String) (existing : List String) : List String :=
  dropRepeats (((closeEntries searched existing).mergeSort suggestedBefore).map Prod.snd)

theorem closeNames_eq_take (searched : String) (existing : List String) (limit : Nat) :
    closeNames searched existing limit = (closestFirst searched existing).take limit :=
  rfl

/-- Sorted by distance and name, the close names are in order but for repetitions. -/
theorem pairwise_sortedNames (searched : String) (existing : List String) :
    (((closeEntries searched existing).mergeSort suggestedBefore).map Prod.snd).Pairwise
      fun x y => x = y ∨ Better searched x y := by
  have hsorted := List.pairwise_mergeSort suggestedBefore_trans suggestedBefore_total
    (closeEntries searched existing)
  rw [List.pairwise_map]
  refine hsorted.imp_of_mem fun {a b} ha hb hab => ?_
  obtain ⟨-, hda, -⟩ := mem_closeEntries.mp (List.mem_mergeSort.mp ha)
  obtain ⟨-, hdb, -⟩ := mem_closeEntries.mp (List.mem_mergeSort.mp hb)
  rw [suggestedBefore_iff, hda, hdb] at hab
  rcases hab with hcloser | ⟨hequal, hle⟩
  · exact .inr (.inl hcloser)
  · by_cases hname : a.2 = b.2
    · exact .inl hname
    · have hlt : a.2 < b.2 := String.not_le.mp fun hge => hname (String.le_antisymm hle hge)
      exact .inr (.inr ⟨hequal, hlt⟩)

theorem ranks_closestFirst (searched : String) (existing : List String) :
    Ranks searched existing (closestFirst searched existing) := by
  constructor
  case ordered =>
    rw [closestFirst]
    apply pairwise_dropRepeats
    · intro x y z hxy hyz
      exact hxy.trans hyz
    · exact pairwise_sortedNames searched existing
  case members =>
    intro name
    rw [closestFirst, mem_dropRepeats, List.mem_map]
    constructor
    · rintro ⟨entry, hmem, rfl⟩
      obtain ⟨hname, hdistance, hclose⟩ := mem_closeEntries.mp (List.mem_mergeSort.mp hmem)
      exact ⟨hname, hdistance ▸ hclose⟩
    · rintro ⟨hname, hclose⟩
      have hmem : (distance searched name, name) ∈ closeEntries searched existing :=
        mem_closeEntries.mpr ⟨hname, rfl, hclose⟩
      exact ⟨_, List.mem_mergeSort.mpr hmem, rfl⟩

/-- **The best names are suggested.** The existing names at a distance of at most three, each once
and the better one first, have one order; what is suggested is its beginning. So no name is
suggested twice, none is left out that is better than one suggested, and the order of the existing
names and how often they occur make no difference. -/
theorem closeNames_best (searched : String) (existing : List String) :
    ∃ names, Ranks searched existing names ∧
      (∀ other, Ranks searched existing other → other = names) ∧
      ∀ limit, closeNames searched existing limit = names.take limit ∧
        (closeNames searched existing limit).Nodup ∧
        (∀ x ∈ closeNames searched existing limit, ∀ y ∈ existing, Better searched y x →
          y ∈ closeNames searched existing limit) ∧
        ∀ existing', (∀ name, name ∈ existing' ↔ name ∈ existing) →
          closeNames searched existing' limit = closeNames searched existing limit := by
  have hranks := ranks_closestFirst searched existing
  refine ⟨_, hranks, fun other hother => hother.eq hranks, ?_⟩
  intro limit
  rw [closeNames_eq_take]
  refine ⟨rfl, hranks.nodup.take, fun x hx y hy => hranks.mem_take hx hy, ?_⟩
  intro existing' hsame
  rw [closeNames_eq_take, (ranks_closestFirst searched existing').eq (hranks.congr hsame)]

/-- The heading that was meant comes first, and once. -/
example : closeNames "Log ou" ["Log on", "Log in", "Log out", "Sign up", "Log out"] 2 =
    ["Log on", "Log out"] := by
  cbv

end Roster

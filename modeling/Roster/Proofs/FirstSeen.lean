import Mathlib.Data.Finset.Card
import Mathlib.Data.List.Nodup

/-!
Elements in the order first seen.

`seenBefore xs x` counts the different elements of a list that are first seen before `x`.
It is the place of `x` in the list without repetitions (`idxOf_eraseDups`), so it tells the
elements apart (`seenBefore_inj`), keeps their order (`seenBefore_lt_iff`) and takes the numbers
from zero on without a gap (`exists_seenBefore_iff`).
-/

namespace Roster

section FirstSeen

variable {α β : Type} [DecidableEq α] [DecidableEq β] {xs ys before after : List α} {x y : α}

/-- How many different elements of a list are first seen before `x` is. -/
def seenBefore (xs : List α) (x : α) : Nat :=
  (xs.toFinset.filter fun y => xs.idxOf y < xs.idxOf x).card

/-- Up to where `x` is first seen, every element counts once. -/
theorem seenBefore_split (h : x ∉ before) :
    seenBefore (before ++ x :: after) x = before.toFinset.card := by
  have hx : (before ++ x :: after).idxOf x = before.length := by
    rw [List.idxOf_append_of_notMem h, List.idxOf_cons_self, Nat.add_zero]
  rw [seenBefore, hx]
  congr 1
  ext y
  rw [Finset.mem_filter, List.mem_toFinset, List.mem_toFinset, List.idxOf_append]
  by_cases hy : y ∈ before
  · simp [hy, List.idxOf_lt_length_of_mem hy]
  · simp [hy]

/-- One more element is new or changes nothing. -/
theorem eraseDups_concat (xs : List α) (x : α) :
    (xs ++ [x]).eraseDups = if x ∈ xs then xs.eraseDups else xs.eraseDups ++ [x] := by
  rw [List.eraseDups_append]
  by_cases hx : x ∈ xs
  · simp [List.removeAll, hx]
  · simp [List.removeAll, hx, List.eraseDups_cons]

theorem nodup_eraseDups (xs : List α) : xs.eraseDups.Nodup := by
  induction xs using List.reverseRecOn with
  | nil => exact .nil
  | append_singleton xs x ih =>
    rw [eraseDups_concat]
    by_cases hx : x ∈ xs
    · rwa [if_pos hx]
    · rw [if_neg hx]
      simpa [List.nodup_append] using ⟨ih, fun y hy heq => hx (heq ▸ hy)⟩

theorem length_eraseDups (xs : List α) : xs.eraseDups.length = xs.toFinset.card := by
  rw [← List.toFinset_card_of_nodup (nodup_eraseDups xs)]
  congr 1
  ext x
  rw [List.mem_toFinset, List.mem_toFinset, List.mem_eraseDups]

/-- The elements in the order first seen have the places that `seenBefore` counts. -/
theorem idxOf_eraseDups (h : x ∈ xs) : xs.eraseDups.idxOf x = seenBefore xs x := by
  obtain ⟨before, after, rfl, hx⟩ := List.eq_append_cons_of_mem h
  have hx' : x ∉ before.eraseDups := fun h => hx (List.mem_eraseDups.mp h)
  have hkeep : (x :: after).removeAll before = x :: after.removeAll before := by
    simp [List.removeAll, hx]
  rw [seenBefore_split hx, List.eraseDups_append, hkeep, List.eraseDups_cons,
    List.idxOf_append_of_notMem hx', List.idxOf_cons_self, Nat.add_zero, length_eraseDups]

/-- Different elements are first seen at different places. -/
theorem seenBefore_inj (hx : x ∈ xs) (hy : y ∈ xs) :
    seenBefore xs x = seenBefore xs y ↔ x = y := by
  rw [← idxOf_eraseDups hx, ← idxOf_eraseDups hy]
  exact List.idxOf_inj (List.mem_eraseDups.mpr hx)

/-- Fewer elements are seen before `x` than before `y` where `x` is first seen before `y`. -/
theorem seenBefore_lt_iff (hx : x ∈ xs) :
    seenBefore xs x < seenBefore xs y ↔ xs.idxOf x < xs.idxOf y := by
  constructor
  · intro hlt
    by_contra hle
    refine absurd hlt (not_lt.mpr (Finset.card_le_card ?_))
    intro z hz
    obtain ⟨hmem, hz⟩ := Finset.mem_filter.mp hz
    exact Finset.mem_filter.mpr ⟨hmem, hz.trans_le (not_lt.mp hle)⟩
  · intro hlt
    refine Finset.card_lt_card (Finset.ssubset_iff_subset_ne.mpr ⟨?_, ?_⟩)
    · intro z hz
      obtain ⟨hmem, hz⟩ := Finset.mem_filter.mp hz
      exact Finset.mem_filter.mpr ⟨hmem, hz.trans hlt⟩
    · intro heq
      -- The earlier element is seen before the later one, and not before itself.
      have hself : x ∈ xs.toFinset.filter fun z => xs.idxOf z < xs.idxOf y :=
        Finset.mem_filter.mpr ⟨List.mem_toFinset.mpr hx, hlt⟩
      rw [← heq] at hself
      exact absurd (Finset.mem_filter.mp hself).2 (lt_irrefl _)

/-- The elements of a list are first seen after none of them, after one, and so on. -/
theorem exists_seenBefore_iff {n : Nat} :
    (∃ x ∈ xs, seenBefore xs x = n) ↔ n < xs.toFinset.card := by
  rw [← length_eraseDups]
  constructor
  · rintro ⟨x, hx, rfl⟩
    rw [← idxOf_eraseDups hx]
    exact List.idxOf_lt_length_of_mem (List.mem_eraseDups.mpr hx)
  · intro hn
    have hmem : xs.eraseDups[n] ∈ xs := List.mem_eraseDups.mp (List.getElem_mem hn)
    refine ⟨_, hmem, ?_⟩
    rw [← idxOf_eraseDups hmem]
    exact (nodup_eraseDups xs).idxOf_getElem n hn

theorem seenBefore_of_prefix (h : xs <+: ys) (hx : x ∈ xs) :
    seenBefore ys x = seenBefore xs x := by
  obtain ⟨more, rfl⟩ := h
  obtain ⟨before, after, rfl, hbefore⟩ := List.eq_append_cons_of_mem hx
  rw [List.append_assoc, List.cons_append, seenBefore_split hbefore, seenBefore_split hbefore]

/-- A function that tells the elements of a list apart keeps the order in which they are
first seen. -/
theorem eraseDups_map {f : α → β} (hf : ∀ x ∈ xs, ∀ y ∈ xs, f x = f y → x = y) :
    (xs.map f).eraseDups = xs.eraseDups.map f := by
  induction xs using List.reverseRecOn with
  | nil => rfl
  | append_singleton xs x ih =>
    have ih := ih fun y hy z hz => hf y (List.mem_append_left _ hy) z (List.mem_append_left _ hz)
    have hmem : f x ∈ xs.map f ↔ x ∈ xs := by
      rw [List.mem_map]
      constructor
      · rintro ⟨y, hy, heq⟩
        rwa [← hf y (List.mem_append_left _ hy) x (by simp) heq]
      · intro hx
        exact ⟨x, hx, rfl⟩
    rw [List.map_append, List.map_singleton, eraseDups_concat, eraseDups_concat, ih]
    by_cases hx : x ∈ xs
    · rw [if_pos hx, if_pos (hmem.mpr hx)]
    · rw [if_neg hx, if_neg (hmem.not.mpr hx), List.map_append, List.map_singleton]

/-- A function that tells the elements of a list apart keeps their places. -/
theorem idxOf_map {f : α → β} (hf : ∀ x ∈ xs, ∀ y ∈ xs, f x = f y → x = y) (hx : x ∈ xs) :
    (xs.map f).idxOf (f x) = xs.idxOf x := by
  induction xs with
  | nil => cases hx
  | cons y xs ih =>
    rw [List.map_cons]
    by_cases hy : y = x
    · rw [hy, List.idxOf_cons_self, List.idxOf_cons_self]
    · have hfy : f y ≠ f x := fun heq => hy (hf y List.mem_cons_self x hx heq)
      have hx' : x ∈ xs := (List.mem_cons.mp hx).resolve_left (Ne.symm hy)
      have hf' : ∀ a ∈ xs, ∀ b ∈ xs, f a = f b → a = b := fun a ha b hb =>
        hf a (List.mem_cons_of_mem _ ha) b (List.mem_cons_of_mem _ hb)
      rw [List.idxOf_cons_ne _ hfy, List.idxOf_cons_ne _ hy, ih hf' hx']

theorem card_toFinset_append (h : ∀ y ∈ ys, y ∉ xs) :
    (xs ++ ys).toFinset.card = xs.toFinset.card + ys.toFinset.card := by
  rw [List.toFinset_append, Finset.card_union_of_disjoint]
  rw [Finset.disjoint_right]
  simpa using h

theorem seenBefore_append_right (h : ∀ y ∈ ys, y ∉ xs) (hx : x ∈ ys) :
    seenBefore (xs ++ ys) x = xs.toFinset.card + seenBefore ys x := by
  obtain ⟨before, after, rfl, hbefore⟩ := List.eq_append_cons_of_mem hx
  have hnew : x ∉ xs ++ before := by
    rw [List.mem_append, not_or]
    exact ⟨h x hx, hbefore⟩
  rw [← List.append_assoc, seenBefore_split hnew, seenBefore_split hbefore,
    card_toFinset_append fun y hy => h y (List.mem_append_left _ hy)]

theorem card_toFinset_map {f : α → β} (hf : f.Injective) (xs : List α) :
    (xs.map f).toFinset.card = xs.toFinset.card := by
  rw [← Finset.card_image_of_injective _ hf]
  congr 1
  ext y
  simp

theorem seenBefore_map {f : α → β} (hf : f.Injective) (h : x ∈ xs) :
    seenBefore (xs.map f) (f x) = seenBefore xs x := by
  obtain ⟨before, after, rfl, hx⟩ := List.eq_append_cons_of_mem h
  have hfx : f x ∉ before.map f := by rwa [List.mem_map_of_injective hf]
  rw [List.map_append, List.map_cons, seenBefore_split hfx, seenBefore_split hx,
    card_toFinset_map hf]

end FirstSeen

end Roster

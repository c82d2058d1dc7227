import Mathlib.Data.List.Nodup

/-!
The first element that counts.

`First P xs b` says that the first element of a list for which `P` gives anything is given
`b`. An element behind such a one does not count (`first_congr_of_hidden`).
-/

namespace Roster

section First

variable {α β γ : Type} {P : α → β → Prop} {xs ys : List α} {x : α} {b : β}

/-- `P` gives `b` for the first element of the list for which it gives anything. -/
def First (P : α → β → Prop) (xs : List α) (b : β) : Prop :=
  ∃ before x after, xs = before ++ x :: after ∧ (∀ y ∈ before, ∀ c, ¬ P y c) ∧ P x b

theorem not_first_nil : ¬ First P [] b := by
  rintro ⟨before, x, after, hnil, -⟩
  simp at hnil

theorem first_cons : First P (x :: xs) b ↔ P x b ∨ (∀ c, ¬ P x c) ∧ First P xs b := by
  constructor
  · rintro ⟨before, y, after, hsplit, hbefore, hy⟩
    cases before with
    | nil =>
      obtain ⟨rfl, -⟩ := List.cons.inj hsplit
      exact .inl hy
    | cons z before =>
      obtain ⟨rfl, rfl⟩ := List.cons.inj hsplit
      obtain ⟨hz, hbefore⟩ := List.forall_mem_cons.mp hbefore
      exact .inr ⟨hz, before, y, after, rfl, hbefore, hy⟩
  · rintro (hx | ⟨hx, before, y, after, rfl, hbefore, hy⟩)
    · exact ⟨[], x, xs, rfl, by simp, hx⟩
    · exact ⟨x :: before, y, after, rfl, List.forall_mem_cons.mpr ⟨hx, hbefore⟩, hy⟩

theorem first_append : First P (xs ++ ys) b ↔
    First P xs b ∨ (∀ x ∈ xs, ∀ c, ¬ P x c) ∧ First P ys b := by
  induction xs with
  | nil => simp [not_first_nil]
  | cons x xs ih =>
    rw [List.cons_append, first_cons, first_cons, ih, List.forall_mem_cons, and_or_left, or_assoc,
      and_assoc]

theorem first_map {f : γ → α} {zs : List γ} :
    First P (zs.map f) b ↔ First (fun z => P (f z)) zs b := by
  induction zs with
  | nil => simp [not_first_nil]
  | cons z zs ih => rw [List.map_cons, first_cons, first_cons, ih]

theorem first_filter {keeps : α → Bool} :
    First P (xs.filter keeps) b ↔ First (fun x c => keeps x = true ∧ P x c) xs b := by
  induction xs with
  | nil => simp [not_first_nil]
  | cons x xs ih =>
    by_cases hx : keeps x = true
    · rw [List.filter_cons_of_pos hx, first_cons, first_cons, ih]
      simp [hx]
    · rw [List.filter_cons_of_neg hx, first_cons, ih]
      simp [hx]

/-- Something is given for the first element if for any. -/
theorem exists_first_iff : (∃ b, First P xs b) ↔ ∃ x ∈ xs, ∃ b, P x b := by
  induction xs with
  | nil => simp [not_first_nil]
  | cons x xs ih =>
    simp only [first_cons, exists_or, exists_and_left, ih, List.mem_cons, exists_eq_or_imp]
    by_cases hx : ∃ b, P x b
    · simp only [hx, true_or]
    · simp only [not_exists.mp hx, exists_false, false_or, not_false_eq_true, implies_true,
        true_and]

theorem first_iff_findSome? {f : α → Option β} :
    First (fun x c => f x = some c) xs b ↔ xs.findSome? f = some b := by
  rw [List.findSome?_eq_some_iff]
  simp only [First, Option.eq_none_iff_forall_ne_some]
  constructor
  · rintro ⟨before, x, after, hsplit, hbefore, hx⟩
    exact ⟨before, x, after, hsplit, hx, hbefore⟩
  · rintro ⟨before, x, after, hsplit, hx, hbefore⟩
    exact ⟨before, x, after, hsplit, hbefore, hx⟩

/-- What is given for an element does not count if something is given for one before it. -/
theorem first_congr_of_hidden [DecidableEq α] {Q : α → β → Prop} (hxs : xs.Nodup)
    (h : ∀ x ∈ xs, (∃ y ∈ xs.takeWhile (· ≠ x), ∃ c, P y c) ∨ ∀ c, Q x c ↔ P x c) :
    First Q xs b ↔ First P xs b := by
  induction xs with
  | nil => simp [not_first_nil]
  | cons x xs ih =>
    obtain ⟨hnotMem, hxs⟩ := List.nodup_cons.mp hxs
    have hx : ∀ c, Q x c ↔ P x c := by
      simpa using h x List.mem_cons_self
    rw [first_cons, first_cons, hx b]
    simp only [hx]
    by_cases hgives : ∃ c, P x c
    · simp only [← not_exists, hgives, not_true_eq_false, false_and]
    · -- The element gives nothing, so it hides nothing behind it.
      rw [ih hxs fun z hz => ?_]
      have hne : x ≠ z := fun heq => hnotMem (heq ▸ hz)
      have hz := h z (List.mem_cons_of_mem x hz)
      rw [List.takeWhile_cons_of_pos (by simpa using hne), List.exists_mem_cons_iff] at hz
      exact hz.imp_left fun hidden => hidden.resolve_left hgives

end First

end Roster

import Mathlib.Data.Nat.Basic
import Mathlib.Order.Bounds.Defs
import Mathlib.Order.MinMax
import Roster.Text.Distance

/-!
Edit distance and edits.

An edit inserts, deletes or replaces one character anywhere in a text, and a distance should be the
least number of edits after which one text is the other. `leastEdits` finds that number from what
becomes of the two first characters. It is enough, as the edits can be read off it
(`edits_leastEdits`), and no fewer will do, as one edit changes it by one at most
(`leastEdits_le_succ_of_edit`). The rows of the distance hold its values for the beginnings of the
texts, which are the ends of the texts read backwards.

* `distanceRow_eq` : what the row of a text holds.
* `distance_eq_leastEdits` : the distance is the least number of edits of the texts backwards.
* `distance_least` : the distance is the least number of edits, and a metric.
-/

namespace Roster.Text

/-! ### Edits -/

/-- One character is inserted, deleted, or replaced by another one. -/
inductive Edit : List Char → List Char → Prop where
  | insert (before after : List Char) (c : Char) : Edit (before ++ after) (before ++ c :: after)
  | delete (before after : List Char) (c : Char) : Edit (before ++ c :: after) (before ++ after)
  | replace (before after : List Char) {c d : Char} : c ≠ d →
      Edit (before ++ c :: after) (before ++ d :: after)

/-- The first text becomes the second one by this number of edits, one after another. -/
inductive Edits : Nat → List Char → List Char → Prop where
  | none (a : List Char) : Edits 0 a a
  | cons {n : Nat} {a b c : List Char} : Edit a b → Edits n b c → Edits (n + 1) a c

variable {a b a' : List Char} {m n : Nat}

namespace Edit

theorem symm (h : Edit a b) : Edit b a := by
  cases h with
  | insert before after c => exact .delete before after c
  | delete before after c => exact .insert before after c
  | replace before after hne => exact .replace before after hne.symm

theorem after_cons (c : Char) (h : Edit a b) : Edit (c :: a) (c :: b) := by
  cases h with
  | insert before after d => exact .insert (c :: before) after d
  | delete before after d => exact .delete (c :: before) after d
  | replace before after hne => exact .replace (c :: before) after hne

theorem reverse (h : Edit a b) : Edit a.reverse b.reverse := by
  cases h with
  | insert before after c => simpa using insert after.reverse before.reverse c
  | delete before after c => simpa using delete after.reverse before.reverse c
  | replace before after hne => simpa using replace after.reverse before.reverse hne

end Edit

namespace Edits

theorem trans {c : List Char} (h : Edits m a b) (h' : Edits n b c) : Edits (m + n) a c := by
  induction h with
  | none => rwa [Nat.zero_add]
  | cons hedit _ ih =>
    rw [Nat.succ_add]
    exact .cons hedit (ih h')

theorem symm (h : Edits n a b) : Edits n b a := by
  induction h with
  | none a => exact .none a
  | cons hedit _ ih => exact ih.trans (.cons hedit.symm (.none _))

theorem after_cons (c : Char) (h : Edits n a b) : Edits n (c :: a) (c :: b) := by
  induction h with
  | none a => exact .none (c :: a)
  | cons hedit _ ih => exact .cons (hedit.after_cons c) ih

theorem reverse (h : Edits n a b) : Edits n a.reverse b.reverse := by
  induction h with
  | none a => exact .none a.reverse
  | cons hedit _ ih => exact .cons hedit.reverse ih

theorem eq_of_zero (h : Edits 0 a b) : a = b := by
  cases h
  rfl

end Edits

/-! ### The least number of edits -/

/-- The least number of edits: the first character of the one text is deleted, or that of the
other one inserted, or the one becomes the other. -/
def leastEdits : List Char → List Char → Nat
  | [], b => b.length
  | a, [] => a.length
  | c :: a, d :: b =>
    min (min (leastEdits a (d :: b) + 1) (leastEdits (c :: a) b + 1))
      (leastEdits a b + if c = d then 0 else 1)
termination_by a b => a.length + b.length

@[simp] theorem leastEdits_nil_left (b : List Char) : leastEdits [] b = b.length := by
  rw [leastEdits]

@[simp] theorem leastEdits_nil_right (a : List Char) : leastEdits a [] = a.length := by
  cases a with
  | nil => rw [leastEdits]
  | cons c a => rw [leastEdits]; exact List.cons_ne_nil c a

theorem leastEdits_cons_cons (c d : Char) (a b : List Char) : leastEdits (c :: a) (d :: b) =
    min (min (leastEdits a (d :: b) + 1) (leastEdits (c :: a) b + 1))
      (leastEdits a b + if c = d then 0 else 1) := by
  rw [leastEdits]

/-- As many edits are enough. -/
theorem edits_leastEdits (a b : List Char) : Edits (leastEdits a b) a b := by
  induction a generalizing b with
  | nil =>
    rw [leastEdits_nil_left]
    induction b with
    | nil => exact .none []
    | cons d b ih => exact .cons (.insert [] [] d) (ih.after_cons d)
  | cons c a ihDelete =>
    induction b with
    | nil =>
      have hdelete : Edits (leastEdits a [] + 1) (c :: a) [] := .cons (.delete [] a c) (ihDelete [])
      rwa [leastEdits_nil_right] at hdelete ⊢
    | cons d b ihInsert =>
      have hdelete : Edits (leastEdits a (d :: b) + 1) (c :: a) (d :: b) :=
        .cons (.delete [] a c) (ihDelete (d :: b))
      have hinsert : Edits (leastEdits (c :: a) b + 1) (c :: a) (d :: b) :=
        .cons (.insert [] (c :: a) d) (ihInsert.after_cons d)
      have hreplace : Edits (leastEdits a b + if c = d then 0 else 1) (c :: a) (d :: b) := by
        by_cases hcd : c = d
        · subst hcd
          rw [if_pos rfl]
          exact (ihDelete b).after_cons c
        · rw [if_neg hcd]
          exact .cons (.replace [] a hcd) ((ihDelete b).after_cons d)
      rw [leastEdits_cons_cons]
      exact min_rec' (Edits · (c :: a) (d :: b))
        (min_rec' (Edits · (c :: a) (d :: b)) hdelete hinsert) hreplace

/-! ### No fewer edits -/

theorem leastEdits_self (a : List Char) : leastEdits a a = 0 := by
  induction a with
  | nil => simp
  | cons c a ih => simp [leastEdits_cons_cons, ih]

theorem leastEdits_cons_left_le (c : Char) (a b : List Char) :
    leastEdits (c :: a) b ≤ leastEdits a b + 1 := by
  cases b with
  | nil => simp
  | cons d b =>
    rw [leastEdits_cons_cons]
    omega

theorem leastEdits_cons_right_le (d : Char) (a b : List Char) :
    leastEdits a (d :: b) ≤ leastEdits a b + 1 := by
  cases a with
  | nil => simp
  | cons c a =>
    rw [leastEdits_cons_cons]
    omega

theorem leastEdits_cons_cons_le (c d : Char) (a b : List Char) :
    leastEdits (c :: a) (d :: b) ≤ leastEdits a b + 1 := by
  rw [leastEdits_cons_cons]
  split <;> omega

/-- Inserting a first character changes the number by one at most. -/
theorem leastEdits_le_cons_left (c : Char) (a b : List Char) :
    leastEdits a b ≤ leastEdits (c :: a) b + 1 := by
  induction b with
  | nil =>
    rw [leastEdits_nil_right, leastEdits_nil_right, List.length_cons]
    omega
  | cons d b ih =>
    have hinsert := leastEdits_cons_right_le d a b
    rw [leastEdits_cons_cons]
    omega

/-- So does replacing it. -/
theorem leastEdits_replace_le (c d : Char) (a b : List Char) :
    leastEdits (c :: a) b ≤ leastEdits (d :: a) b + 1 := by
  induction b with
  | nil => simp
  | cons e b ih =>
    have hdelete := leastEdits_cons_left_le c a (e :: b)
    have hinsert := leastEdits_cons_right_le e (c :: a) b
    have hreplace := leastEdits_cons_cons_le c e a b
    rw [leastEdits_cons_cons d]
    omega

/-- What changes the number by one at most does so behind one more character. -/
theorem leastEdits_after_cons_le (c : Char) (h : ∀ b, leastEdits a b ≤ leastEdits a' b + 1)
    (b : List Char) : leastEdits (c :: a) b ≤ leastEdits (c :: a') b + 1 := by
  induction b with
  | nil => simpa using h []
  | cons d b ih =>
    have hdelete := h (d :: b)
    have hreplace := h b
    rw [leastEdits_cons_cons, leastEdits_cons_cons]
    omega

theorem leastEdits_append_le (before : List Char)
    (h : ∀ b, leastEdits a b ≤ leastEdits a' b + 1) (b : List Char) :
    leastEdits (before ++ a) b ≤ leastEdits (before ++ a') b + 1 := by
  induction before generalizing b with
  | nil => exact h b
  | cons c before ih => exact leastEdits_after_cons_le c ih b

/-- One edit changes the number by one at most, wherever it is made. -/
theorem leastEdits_le_succ_of_edit (h : Edit a a') (b : List Char) :
    leastEdits a b ≤ leastEdits a' b + 1 := by
  -- an edit is made at the beginning of what follows, and the characters before it are kept
  cases h with
  | insert before after c => exact leastEdits_append_le before (leastEdits_le_cons_left c after) b
  | delete before after c => exact leastEdits_append_le before (leastEdits_cons_left_le c after) b
  | replace before after => exact leastEdits_append_le before (leastEdits_replace_le _ _ after) b

theorem leastEdits_le_of_edits (h : Edits n a b) : leastEdits a b ≤ n := by
  induction h with
  | none a => exact Nat.le_of_eq (leastEdits_self a)
  | cons hedit _ ih => exact Nat.le_trans (leastEdits_le_succ_of_edit hedit _) (Nat.succ_le_succ ih)

/-! ### Rows -/

/-- The entries of a row that follow the one for `before`, where the texts are read backwards. -/
def laterEntries (a before : List Char) : List Char → List Nat
  | [] => []
  | d :: b => leastEdits a (d :: before) :: laterEntries a (d :: before) b

theorem fillRow_laterEntries (c : Char) (a before b : List Char) :
    fillRow c (leastEdits (c :: a) before) (leastEdits a before) b (laterEntries a before b) =
      laterEntries (c :: a) before b := by
  induction b generalizing before with
  | nil => rfl
  | cons d b ih => rw [laterEntries, fillRow, ← leastEdits_cons_cons, ih, laterEntries]

theorem nextRow_laterEntries (c : Char) (a b : List Char) :
    nextRow b (leastEdits a [] :: laterEntries a [] b) c =
      leastEdits (c :: a) [] :: laterEntries (c :: a) [] b := by
  have hfirst : leastEdits a [] + 1 = leastEdits (c :: a) [] := by simp
  rw [nextRow, hfirst, fillRow_laterEntries]

/-- The first row counts the characters. -/
theorem range'_eq_laterEntries (before b : List Char) :
    List.range' (before.length + 1) b.length = laterEntries [] before b := by
  induction b generalizing before with
  | nil => rfl
  | cons d b ih =>
    rw [laterEntries, leastEdits_nil_left, ← ih, List.length_cons, List.range'_succ,
      List.length_cons]

theorem foldl_nextRow (a a' b : List Char) :
    a'.foldl (nextRow b) (leastEdits a [] :: laterEntries a [] b) =
      leastEdits (a'.reverse ++ a) [] :: laterEntries (a'.reverse ++ a) [] b := by
  induction a' generalizing a with
  | nil => rfl
  | cons c a' ih =>
    rw [List.foldl_cons, nextRow_laterEntries, ih, List.reverse_cons, List.append_assoc]
    rfl

/-- The row of a text holds the least numbers of edits from the text to every beginning of the
other one. -/
theorem distanceRow_eq (a b : List Char) :
    distanceRow a b = leastEdits a.reverse [] :: laterEntries a.reverse [] b := by
  have hfirst : List.range (b.length + 1) = leastEdits [] [] :: laterEntries [] [] b := by
    rw [List.range_eq_range', List.range'_succ, ← range'_eq_laterEntries, leastEdits_nil_left]
    rfl
  rw [distanceRow, hfirst, foldl_nextRow, List.append_nil]

theorem getLast?_laterEntries (a before b : List Char) :
    (leastEdits a before :: laterEntries a before b).getLast? =
      some (leastEdits a (b.reverse ++ before)) := by
  induction b generalizing before with
  | nil => rfl
  | cons d b ih =>
    rw [laterEntries, List.getLast?_cons_cons, ih, List.reverse_cons, List.append_assoc]
    rfl

theorem distance_eq_leastEdits (a b : String) :
    distance a b = leastEdits a.toList.reverse b.toList.reverse := by
  rw [distance, distanceRow_eq, getLast?_laterEntries, List.append_nil]
  rfl

/-! ### The distance -/

/-- The distance is a number of edits that is enough, and no fewer are. -/
theorem isLeast_distance (a b : String) :
    IsLeast {n | Edits n a.toList b.toList} (distance a b) := by
  -- the rows read the texts backwards, and so are the edits made
  rw [distance_eq_leastEdits]
  constructor
  · have hedits := (edits_leastEdits a.toList.reverse b.toList.reverse).reverse
    rwa [List.reverse_reverse, List.reverse_reverse] at hedits
  · intro n hedits
    exact leastEdits_le_of_edits (Edits.reverse hedits)

/-- **The distance is the edit distance.** It is the least number of insertions, deletions and
replacements of one character that make the second text out of the first. So it is zero for equal
texts only, the same in either direction, and no greater than the way over a third text. -/
theorem distance_least :
    (∀ a b : String, IsLeast {n | Edits n a.toList b.toList} (distance a b)) ∧
      (∀ a b : String, distance a b = 0 ↔ a = b) ∧
      (∀ a b : String, distance a b = distance b a) ∧
      ∀ a b c : String, distance a c ≤ distance a b + distance b c := by
  have hle : ∀ a b : String, distance a b ≤ distance b a := fun a b =>
    (isLeast_distance a b).2 (Edits.symm (isLeast_distance b a).1)
  refine ⟨isLeast_distance, ?_, ?_, ?_⟩
  · intro a b
    constructor
    · intro hzero
      have hedits := (isLeast_distance a b).1
      rw [hzero] at hedits
      exact String.toList_inj.mp (Edits.eq_of_zero hedits)
    · rintro rfl
      exact Nat.le_zero.mp ((isLeast_distance a a).2 (Edits.none _))
  · intro a b
    exact Nat.le_antisymm (hle a b) (hle b a)
  · intro a b c
    exact (isLeast_distance a c).2 (Edits.trans (isLeast_distance a b).1 (isLeast_distance b c).1)

end Roster.Text

import Mathlib.Algebra.Ring.Nat
import Mathlib.Data.List.Flatten
import Roster.Stream.Deal

/-!
Shares of a deal.

The shares of a deal are sublists of what is dealt (`share_sublist`), and together they
are all of it, each specification as often as it was dealt (`flatMap_share_perm`).
`groupShare` is the share of a group, and none for a group that is not there;
`pickGroup_eq_ok` says that picking a group gives it.
-/

namespace Roster

variable {specs : List Specification} {streams : Nat}

/-! ### Shares -/

theorem share_sublist (specs : List Specification) (streams j : Nat) :
    (share specs streams j).Sublist specs := by
  have h := (List.filter_sublist (p := fun entry => entry.2 % streams == j)
    (l := specs.zipIdx)).map Prod.fst
  rwa [List.zipIdx_map_fst] at h

/-- The parts of a list by the value of `key`, for the values below `n`, make up the
elements with these values. -/
theorem flatMap_filter_perm {α : Type} (key : α → Nat) (xs : List α) (n : Nat) :
    ((List.range n).flatMap fun j => xs.filter fun x => key x == j).Perm
      (xs.filter fun x => key x < n) := by
  induction n with
  | zero => simp
  | succ n ih =>
    rw [List.range_succ, List.flatMap_append, List.flatMap_singleton]
    refine (ih.append_right _).trans ?_
    -- The elements below `n + 1` are those below `n` and those at `n`.
    have hlow : xs.filter (fun x => key x < n) =
        (xs.filter fun x => key x < n + 1).filter fun x => key x < n := by
      rw [List.filter_filter]
      refine List.filter_congr fun x _ => ?_
      rw [Bool.eq_iff_iff, Bool.and_eq_true, decide_eq_true_iff, decide_eq_true_iff]
      omega
    have hnext : xs.filter (fun x => key x == n) =
        (xs.filter fun x => key x < n + 1).filter fun x => !(decide (key x < n)) := by
      rw [List.filter_filter]
      refine List.filter_congr fun x _ => ?_
      rw [Bool.eq_iff_iff, Bool.and_eq_true, beq_iff_eq, Bool.not_eq_true', decide_eq_true_iff,
        decide_eq_false_iff_not]
      omega
    rw [hlow, hnext]
    exact List.filter_append_perm _ _

/-- The elements at the places `j`, `n + j`, `2 * n + j` and so on. -/
def atTurns {α : Type} (xs : List α) (n j : Nat) : List α :=
  (xs.zipIdx.filter fun entry => entry.2 % n == j).map Prod.fst

theorem share_eq_atTurns (specs : List Specification) (streams j : Nat) :
    share specs streams j = atTurns specs streams j :=
  rfl

/-- The elements at the places of all turns together are the list. -/
theorem flatMap_atTurns_perm {α : Type} {n : Nat} (h : n ≠ 0) (xs : List α) :
    ((List.range n).flatMap (atTurns xs n)).Perm xs := by
  have hall : xs.zipIdx.filter (fun entry => entry.2 % n < n) = xs.zipIdx :=
    List.filter_eq_self.mpr fun entry _ =>
      decide_eq_true (Nat.mod_lt _ (Nat.pos_of_ne_zero h))
  have hperm := (flatMap_filter_perm (fun entry => entry.2 % n) xs.zipIdx n).map Prod.fst
  rw [hall, List.zipIdx_map_fst, List.map_flatMap] at hperm
  exact hperm

/-- The shares of all streams together are what is dealt. -/
theorem flatMap_share_perm (specs : List Specification) (h : streams ≠ 0) :
    ((List.range streams).flatMap (share specs streams)).Perm specs :=
  flatMap_atTurns_perm h specs

/-- The numbered elements of one turn, where the next of them is `d` places away. -/
theorem getElem?_filter_zipIdx {α : Type} {n j : Nat} (xs : List α) (start d k : Nat)
    (hnext : (start + d) % n = j) (hd : d < n) :
    ((xs.zipIdx start).filter fun entry => entry.2 % n == j)[k]? =
      (xs.zipIdx start)[k * n + d]? := by
  induction xs generalizing start d k with
  | nil => simp
  | cons x xs ih =>
    rw [List.zipIdx_cons]
    cases d with
    | zero =>
      rw [List.filter_cons_of_pos (by simpa using hnext)]
      cases k with
      | zero => simp
      | succ k =>
        -- The next element of the turn is a whole round on.
        have hround : (start + 1 + (n - 1)) % n = j := by
          rw [show start + 1 + (n - 1) = start + n by omega, Nat.add_mod_right]
          exact hnext
        have hplace : (k + 1) * n + 0 = k * n + (n - 1) + 1 := by
          rw [Nat.succ_mul]
          omega
        rw [List.getElem?_cons_succ, ih (start + 1) (n - 1) k hround (by omega), hplace,
          List.getElem?_cons_succ]
    | succ d =>
      have hother : start % n ≠ j := by
        intro hsame
        have hzero := Nat.sub_mod_eq_zero_of_mod_eq (hnext.trans hsame.symm)
        rw [Nat.add_sub_cancel_left, Nat.mod_eq_of_lt hd] at hzero
        omega
      have hnext' : (start + 1 + d) % n = j := by
        rw [← hnext]
        congr 1
        omega
      rw [List.filter_cons_of_neg (by simpa using hother), ih (start + 1) d k hnext' (by omega),
        ← Nat.add_assoc, List.getElem?_cons_succ]

/-- Place `k` of a turn is place `k * n + j` of the list. -/
theorem getElem?_atTurns {α : Type} {n j : Nat} (h : j < n) (xs : List α) (k : Nat) :
    (atTurns xs n j)[k]? = xs[k * n + j]? := by
  have hturn : (0 + j) % n = j := by
    rw [Nat.zero_add, Nat.mod_eq_of_lt h]
  rw [atTurns, List.getElem?_map, getElem?_filter_zipIdx xs 0 j k hturn h, ← List.getElem?_map,
    List.zipIdx_map_fst]

/-! ### Buckets -/

theorem deal_eq_ok (h : streams ≠ 0) :
    deal specs streams = .ok ((List.range streams).map fun j => ⟨share specs streams j⟩) :=
  if_neg h

/-- The share of a group, counted from one; nothing for a group that is not there. -/
def groupShare (specs : List Specification) (streams group : Nat) : List Specification :=
  if 1 ≤ group ∧ group ≤ streams then share specs streams (group - 1) else []

theorem groupShare_sublist (specs : List Specification) (streams group : Nat) :
    (groupShare specs streams group).Sublist specs := by
  rw [groupShare]
  split
  · exact share_sublist ..
  · exact List.nil_sublist _

/-- Picking a group fails for no group and no strategy. -/
theorem pickGroup_eq_ok (h : streams ≠ 0) (specs : List Specification) (group : Nat)
    (configured : Strategy) : ∃ notice events,
      pickGroup specs group streams configured =
        .ok ⟨⟨group, groupShare specs streams group, .eager, notice⟩, events⟩ := by
  rw [pickGroup, if_neg h]
  by_cases heager : configured = .eager
  · exact ⟨_, _, if_pos heager⟩
  · exact ⟨_, _, if_neg heager⟩

/-! ### Counting scenarios -/

theorem scenarioTotal_eq_sum (specs : List Specification) :
    scenarioTotal specs = (specs.map Specification.scenarioCount).sum := by
  induction specs with
  | nil => rfl
  | cons spec specs ih => rw [scenarioTotal, List.map_cons, List.sum_cons, ih]

/-- The order of the specifications does not count. -/
theorem scenarioTotal_perm {xs ys : List Specification} (h : xs.Perm ys) :
    scenarioTotal xs = scenarioTotal ys := by
  rw [scenarioTotal_eq_sum, scenarioTotal_eq_sum]
  exact (h.map _).sum_nat

theorem scenarioTotal_flatMap {α : Type} (f : α → List Specification) (xs : List α) :
    scenarioTotal (xs.flatMap f) = (xs.map fun x => scenarioTotal (f x)).sum := by
  induction xs with
  | nil => rfl
  | cons x xs ih =>
    rw [List.flatMap_cons, scenarioTotal_eq_sum, List.map_append, List.sum_append_nat,
      ← scenarioTotal_eq_sum, ← scenarioTotal_eq_sum, ih, List.map_cons, List.sum_cons]

end Roster

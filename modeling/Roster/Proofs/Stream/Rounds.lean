import Mathlib.Data.List.Basic
import Mathlib.Data.List.Induction
import Mathlib.Data.Nat.Basic
import Mathlib.Logic.ExistsUnique
import Roster.Proofs.Stream.Share

/-!
A deal, round by round.

The specifications are handed out in turn, so the place of a specification in its bucket is the
round in which it was handed out: place `k` of bucket `j` has the specification at index
`k * streams + j`. The sizes of the buckets and the order in them follow from that.

* `lt_length_atTurns_iff` : how many rounds reach a bucket.
* `rounds_atTurns` : read round by round, the buckets are what was dealt.
* `foldl_handOut` : handing out one specification after another fills the buckets so.
* `deal_in_turn` : what a deal gives, and when it fails.
-/

namespace Roster

section Turns

variable {α : Type} {xs : List α} {n i j k : Nat}

/-! ### The size of a bucket -/

/-- A round reaches a bucket if there is something left for it. -/
theorem lt_length_atTurns_iff (h : j < n) :
    k < (atTurns xs n j).length ↔ k * n + j < xs.length := by
  have hplace := getElem?_atTurns h xs k
  rw [← not_iff_not, not_lt, not_lt, ← List.getElem?_eq_none_iff, hplace,
    List.getElem?_eq_none_iff]

/-- A bucket is not smaller than a later one, and has at most one element more. -/
theorem length_atTurns_balanced (hij : i < j) (hj : j < n) (xs : List α) :
    (atTurns xs n j).length ≤ (atTurns xs n i).length ∧
      (atTurns xs n i).length ≤ (atTurns xs n j).length + 1 := by
  have hi : i < n := by omega
  constructor
  · by_contra hlt
    rw [not_le, lt_length_atTurns_iff hj] at hlt
    -- A round that reaches the later bucket has passed the earlier one.
    have hpassed : (atTurns xs n i).length < (atTurns xs n i).length := by
      rw [lt_length_atTurns_iff hi]
      omega
    exact lt_irrefl _ hpassed
  · by_contra hlt
    rw [not_le, lt_length_atTurns_iff hi, Nat.succ_mul] at hlt
    -- A round that reaches the earlier bucket comes after the one before at the later bucket.
    have hreached : (atTurns xs n j).length < (atTurns xs n j).length := by
      rw [lt_length_atTurns_iff hj]
      omega
    exact lt_irrefl _ hreached

/-! ### Reading round by round -/

/-- The elements of some lists, round by round: the first ones of all lists, then the second ones,
and so on up to the end of the longest. -/
def rounds (lists : List (List α)) : List α :=
  (List.range ((lists.map List.length).foldr max 0)).flatMap fun k =>
    lists.filterMap fun xs => xs[k]?

theorem length_le_longest {lists : List (List α)} (h : xs ∈ lists) :
    xs.length ≤ (lists.map List.length).foldr max 0 := by
  induction lists with
  | nil => cases h
  | cons ys lists ih =>
    rw [List.map_cons, List.foldr_cons]
    rcases List.mem_cons.mp h with rfl | h
    · exact Nat.le_max_left _ _
    · exact Nat.le_trans (ih h) (Nat.le_max_right _ _)

/-- One round of a list. -/
theorem filterMap_getElem?_range (xs : List α) (start n : Nat) :
    (List.range n).filterMap (fun j => xs[start + j]?) = (xs.drop start).take n := by
  induction n with
  | zero => rfl
  | succ n ih =>
    rw [List.range_succ, List.filterMap_append, ih, List.take_add_one, List.getElem?_drop]
    rfl

/-- The rounds of a list, one after another. -/
theorem flatMap_take_drop (xs : List α) (n count : Nat) :
    ((List.range count).flatMap fun k => (xs.drop (k * n)).take n) = xs.take (count * n) := by
  induction count with
  | zero => simp
  | succ count ih =>
    rw [List.range_succ, List.flatMap_append, ih, List.flatMap_singleton, Nat.succ_mul,
      List.take_add]

/-- Read round by round, the turns are the list again. -/
theorem rounds_atTurns (h : n ≠ 0) (xs : List α) :
    rounds ((List.range n).map (atTurns xs n)) = xs := by
  have hround : ∀ k, ((List.range n).map (atTurns xs n)).filterMap (fun turn => turn[k]?) =
      (xs.drop (k * n)).take n := by
    intro k
    rw [List.filterMap_map, ← filterMap_getElem?_range]
    apply List.filterMap_congr
    intro j hj
    exact getElem?_atTurns (List.mem_range.mp hj) xs k
  simp only [rounds, hround, flatMap_take_drop]
  -- The last round reaches the first turn, so there are as many rounds as the list needs.
  have hzero : 0 < n := Nat.pos_of_ne_zero h
  have hfirst : (atTurns xs n 0).length ≤
      (((List.range n).map (atTurns xs n)).map List.length).foldr max 0 :=
    length_le_longest (List.mem_map_of_mem (List.mem_range.mpr hzero))
  rw [← not_lt, lt_length_atTurns_iff hzero] at hfirst
  exact List.take_of_length_le (by omega)

/-! ### Handing out -/

/-- One more element at the end falls to the turn that is next. -/
theorem atTurns_concat (xs : List α) (x : α) (n j : Nat) :
    atTurns (xs ++ [x]) n j =
      if xs.length % n = j then atTurns xs n j ++ [x] else atTurns xs n j := by
  rw [atTurns, List.zipIdx_append, List.filter_append, List.map_append, atTurns]
  by_cases h : xs.length % n = j
  · simp [h]
  · simp [h]

end Turns

/-- The buckets after a specification has been handed out, given with its index. -/
def handOut (buckets : List Bucket) (entry : Specification × Nat) : List Bucket :=
  buckets.modify (entry.2 % buckets.length) fun bucket => ⟨bucket.specs ++ [entry.1]⟩

/-- Handed out one after another, the specifications fill the buckets with their shares. -/
theorem foldl_handOut (specs : List Specification) (streams : Nat) :
    specs.zipIdx.foldl handOut (List.replicate streams {}) =
      (List.range streams).map fun j => ⟨share specs streams j⟩ := by
  induction specs using List.reverseRecOn with
  | nil => simp [share, List.map_const']
  | append_singleton specs spec ih =>
    rw [List.zipIdx_append, List.foldl_append, ih]
    simp only [List.zipIdx_singleton, List.foldl_cons, List.foldl_nil, handOut, List.length_map,
      List.length_range, share_eq_atTurns, atTurns_concat]
    apply List.ext_getElem?
    intro j
    rw [List.getElem?_modify]
    by_cases hj : j < streams
    · by_cases hturn : specs.length % streams = j
      · simp [hj, hturn]
      · simp [hj, hturn]
    · simp [hj]

/-! ### The deal -/

/-- The buckets of a deal in turn. -/
structure DealtInTurn (specs : List Specification) (streams : Nat) (buckets : List Bucket) :
    Prop where
  /-- Every stream has a bucket. -/
  length_eq : buckets.length = streams
  /-- The buckets are filled by handing out one specification after another. -/
  handed_out : buckets = specs.zipIdx.foldl handOut (List.replicate streams {})
  /-- A bucket has the specifications at the indices of its turn, in their order. -/
  share_eq : ∀ j bucket, buckets[j]? = some bucket →
    bucket.specs = (specs.zipIdx.filter fun entry => entry.2 % streams = j).map Prod.fst
  /-- The place of a specification in its bucket is the round in which it is dealt. -/
  place_eq : ∀ j bucket, buckets[j]? = some bucket →
    ∀ k, bucket.specs[k]? = specs[k * streams + j]?
  /-- Every index is that of one place in one bucket. -/
  once : ∀ i < specs.length, ∃! place : Nat × Nat, ∃ bucket, buckets[place.1]? = some bucket ∧
    place.2 < bucket.specs.length ∧ place.2 * streams + place.1 = i
  /-- Together the buckets have every specification as often as it is dealt. -/
  perm : (buckets.flatMap Bucket.specs).Perm specs
  /-- Read round by round, the buckets are what is dealt, in its order. -/
  rounds_eq : rounds (buckets.map Bucket.specs) = specs
  /-- A bucket is not smaller than a later one, and has at most one specification more. -/
  balanced : buckets.Pairwise fun earlier later =>
    later.specs.length ≤ earlier.specs.length ∧
      earlier.specs.length ≤ later.specs.length + 1

/-- An index is that of one place: the round is its quotient, and the turn its remainder. -/
theorem existsUnique_place {streams index total : Nat} (hstreams : streams ≠ 0)
    (hindex : index < total) : ∃! place : Nat × Nat,
      place.1 < streams ∧ place.2 * streams + place.1 < total ∧
        place.2 * streams + place.1 = index := by
  have hdivide : index / streams * streams + index % streams = index := Nat.div_add_mod' _ _
  have hturn : index % streams < streams := Nat.mod_lt _ (Nat.pos_of_ne_zero hstreams)
  refine ⟨(index % streams, index / streams), ⟨hturn, ?_, hdivide⟩, ?_⟩
  · rwa [hdivide]
  · rintro ⟨turn, round⟩ ⟨hlt, -, hplace⟩
    have hsplit : turn + streams * round = index := by
      rw [← hplace, Nat.add_comm, Nat.mul_comm]
    obtain ⟨hround, hturn⟩ :=
      (Nat.div_mod_unique (Nat.pos_of_ne_zero hstreams)).mpr ⟨hsplit, hlt⟩
    rw [hround, hturn]

/-- The shares make a deal in turn. -/
theorem dealtInTurn_shares {streams : Nat} (hstreams : streams ≠ 0) (specs : List Specification) :
    DealtInTurn specs streams ((List.range streams).map fun j => ⟨share specs streams j⟩) := by
  have hget : ∀ {j bucket}, ((List.range streams).map fun j =>
      (⟨share specs streams j⟩ : Bucket))[j]? = some bucket ↔
        j < streams ∧ bucket = ⟨atTurns specs streams j⟩ := by
    intro j bucket
    by_cases hj : j < streams
    · simp [hj, share_eq_atTurns, eq_comm]
    · simp [hj]
  constructor
  case length_eq => simp
  case handed_out => exact (foldl_handOut specs streams).symm
  case share_eq =>
    intro j bucket hbucket
    obtain ⟨-, rfl⟩ := hget.mp hbucket
    rfl
  case place_eq =>
    intro j bucket hbucket
    obtain ⟨hj, rfl⟩ := hget.mp hbucket
    exact getElem?_atTurns hj specs
  case once =>
    intro i hi
    refine (existsUnique_congr fun place => ?_).mp (existsUnique_place hstreams hi)
    constructor
    · rintro ⟨hj, hk, hplace⟩
      exact ⟨_, hget.mpr ⟨hj, rfl⟩, (lt_length_atTurns_iff hj).mpr hk, hplace⟩
    · rintro ⟨bucket, hbucket, hk, hplace⟩
      obtain ⟨hj, rfl⟩ := hget.mp hbucket
      exact ⟨hj, (lt_length_atTurns_iff hj).mp hk, hplace⟩
  case perm =>
    rw [List.flatMap_map]
    exact flatMap_share_perm specs hstreams
  case rounds_eq =>
    rw [List.map_map]
    exact rounds_atTurns hstreams specs
  case balanced =>
    rw [List.pairwise_map]
    refine List.pairwise_lt_range.imp_of_mem fun _ hj hij => ?_
    exact length_atTurns_balanced hij (List.mem_range.mp hj) specs

/-- **A deal in turn.** To no stream at all nothing can be dealt, and no group be picked; these
are the only failures. Otherwise the buckets are those of a deal in turn. -/
theorem deal_in_turn (specs : List Specification) (streams : Nat) :
    (∀ fault, deal specs streams = .error fault ↔ streams = 0 ∧ fault = .streamCount 0) ∧
      (∀ group configured fault, pickGroup specs group streams configured = .error fault ↔
        streams = 0 ∧ fault = .streamCount 0) ∧
      (1 ≤ streams → ∃ buckets, deal specs streams = .ok buckets ∧
        DealtInTurn specs streams buckets) := by
  by_cases hstreams : streams = 0
  · subst hstreams
    simp [deal, pickGroup, eq_comm]
  · refine ⟨?_, ?_, fun _ => ⟨_, deal_eq_ok hstreams, dealtInTurn_shares hstreams specs⟩⟩
    · intro fault
      simp [deal_eq_ok hstreams, hstreams]
    · intro group configured fault
      obtain ⟨notice, events, hpick⟩ := pickGroup_eq_ok hstreams specs group configured
      simp [hpick, hstreams]

namespace Sample

/-- Five specifications, the last one like the first. -/
def hand : List Specification :=
  ["Accounts", "Orders", "Returns", "Sessions", "Accounts"].map fun heading => { heading }

end Sample

/-- Five specifications dealt to three streams: the last stream gets only one. -/
theorem deal_in_turn_sample :
    1 ≤ 3 ∧ ∃ buckets, deal Sample.hand 3 = .ok buckets ∧ DealtInTurn Sample.hand 3 buckets ∧
      buckets.map (fun bucket => bucket.specs.map Specification.heading) =
        [["Accounts", "Sessions"], ["Orders", "Accounts"], ["Returns"]] := by
  obtain ⟨buckets, hdeal, hbuckets⟩ := (deal_in_turn Sample.hand 3).2.2 (by decide)
  refine ⟨by decide, buckets, hdeal, hbuckets, ?_⟩
  rw [hbuckets.handed_out]
  decide +kernel

end Roster

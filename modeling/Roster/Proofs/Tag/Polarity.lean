import Mathlib.Algebra.Group.Nat.Even
import Roster.Proofs.Tag.Operands

/-!
More tags.

A name that stands under an even number of `!` can only help a tree to hold where its tag is
added, and one under an odd number can only hinder it (`holds_of_places`). Every `!` of a tree is
one of the text (`negations_of_parse`), so without any the names of an expression only help.

* `matchesTags_of_more` : what an expression without `!` selects stays selected when there are
  more tags; with `!` it does if the tags that are new stand under an even number of them.
-/

namespace Roster.Tag

/-! ### Names under negations -/

namespace Tree

/-- How often a tree negates. -/
def negations : Tree → Nat
  | .tag _ => 0
  | .not inner => inner.negations + 1
  | .and left right | .or left right => left.negations + right.negations

/-- The names in a tree, from left to right, each with the number of negations that it stands
under. The tree itself stands under `depth`. -/
def places (depth : Nat) : Tree → List (String × Nat)
  | .tag name => [(name, depth)]
  | .not inner => inner.places (depth + 1)
  | .and left right | .or left right => left.places depth ++ right.places depth

/-- They are the names that occur. -/
theorem map_fst_places (depth : Nat) (tree : Tree) :
    (tree.places depth).map Prod.fst = tree.occurrences := by
  induction tree generalizing depth with
  | tag name => rfl
  | not inner ih => exact ih _
  | and left right ihLeft ihRight | or left right ihLeft ihRight =>
    rw [places, List.map_append, ihLeft, ihRight]
    rfl

theorem le_of_mem_places {tree : Tree} {depth n : Nat} {name : String}
    (h : (name, n) ∈ tree.places depth) : n ≤ depth + tree.negations := by
  induction tree generalizing depth with
  | tag name =>
    cases List.mem_singleton.mp h
    exact Nat.le_refl _
  | not inner ih =>
    have hle := ih h
    rw [negations]
    omega
  | and left right ihLeft ihRight | or left right ihLeft ihRight =>
    rw [negations]
    rcases List.mem_append.mp h with h | h
    · have hle := ihLeft h
      omega
    · have hle := ihRight h
      omega

section More

variable {present present' : String → Bool}

/-- Let the tags of `present'` be those of `present` and more, and let the additional ones stand
under an even number of negations. Where the tree stands under an even number itself, it still
holds; and where it stands under an odd number, it did hold if it holds. -/
theorem holds_of_places (hsub : ∀ name, present name = true → present' name = true) {tree : Tree}
    {depth : Nat}
    (hnew : ∀ entry ∈ tree.places depth, present' entry.1 = true → present entry.1 = false →
      Even entry.2) :
    (Even depth → tree.holds present = true → tree.holds present' = true) ∧
      (¬ Even depth → tree.holds present' = true → tree.holds present = true) := by
  induction tree generalizing depth with
  | tag name =>
    refine ⟨fun _ => hsub name, ?_⟩
    intro hodd hpresent'
    by_contra habsent
    exact hodd (hnew (name, depth) List.mem_cons_self hpresent' (Bool.eq_false_iff.mpr habsent))
  | not inner ih =>
    obtain ⟨heven, hodd⟩ := ih hnew
    rw [Nat.even_add_one] at heven hodd
    simp only [holds, Bool.not_eq_true', ← Bool.not_eq_true]
    exact ⟨fun h hfails hholds => hfails (hodd (not_not.mpr h) hholds),
      fun h hfails hholds => hfails (heven h hholds)⟩
  | and left right ihLeft ihRight =>
    obtain ⟨hleft, hright⟩ := List.forall_mem_append.mp hnew
    obtain ⟨hleftEven, hleftOdd⟩ := ihLeft hleft
    obtain ⟨hrightEven, hrightOdd⟩ := ihRight hright
    simp only [holds, Bool.and_eq_true]
    exact ⟨fun h => And.imp (hleftEven h) (hrightEven h),
      fun h => And.imp (hleftOdd h) (hrightOdd h)⟩
  | or left right ihLeft ihRight =>
    obtain ⟨hleft, hright⟩ := List.forall_mem_append.mp hnew
    obtain ⟨hleftEven, hleftOdd⟩ := ihLeft hleft
    obtain ⟨hrightEven, hrightOdd⟩ := ihRight hright
    simp only [holds, Bool.or_eq_true]
    exact ⟨fun h => Or.imp (hleftEven h) (hrightEven h),
      fun h => Or.imp (hleftOdd h) (hrightOdd h)⟩

end More

end Tree

/-- A derived tree negates once for each `!` among its tokens. -/
theorem negations_of_derives {part : Part} {ts : List Token} {tree : Tree}
    (h : Derives part ts tree) : tree.negations = ts.count .not := by
  induction h with
  | orFirst _ ih | andFirst _ ih | primary _ ih => exact ih
  | orMore _ _ ihLeft ihRight | andMore _ _ ihLeft ihRight =>
    rw [Tree.negations, ihLeft, ihRight, List.count_append, List.count_cons]
    rfl
  | not _ ih => rw [Tree.negations, ih, List.count_cons_self]
  | tag name => rfl
  | group _ ih =>
    rw [ih, List.count_cons, List.count_append]
    rfl

/-! ### Expressions -/

namespace Expression

/-- How often an expression negates. -/
def negations (e : Expression) : Nat :=
  e.tree.elim 0 Tree.negations

/-- The names in the tree of an expression, each with the number of negations that it
stands under. -/
def places (e : Expression) : List (String × Nat) :=
  e.tree.elim [] (Tree.places 0)

variable {raw : String} {e : Expression}

/-- An expression negates once for each `!` in its text. -/
theorem negations_of_parse (h : parse raw = .ok e) : e.negations = raw.toList.count '!' := by
  have hcount : (Token.ofText raw).count .not = raw.toList.count '!' := by
    rw [Token.ofText, Token.scan, Token.count_scanFrom (c := '!') rfl,
      Token.count_canonical rfl (by decide) rfl]
  rw [← hcount]
  obtain ⟨-, ⟨hnil, rfl⟩ | ⟨tree, hderives, rfl⟩⟩ := parse_eq_ok_iff.mp h
  · rw [hnil]
    rfl
  · exact negations_of_derives hderives

theorem le_negations {name : String} {n : Nat} (h : (name, n) ∈ e.places) : n ≤ e.negations := by
  obtain ⟨raw, tree, operands⟩ := e
  cases tree with
  | none => cases h
  | some tree =>
    have hle := Tree.le_of_mem_places h
    rwa [Nat.zero_add] at hle

theorem map_fst_places (e : Expression) : e.places.map Prod.fst = e.occurrences := by
  obtain ⟨raw, tree, operands⟩ := e
  cases tree with
  | none => rfl
  | some tree => exact Tree.map_fst_places 0 tree

theorem matchesTags_of_places {tags more : TagSet}
    (hsub : ∀ name, tags.has name = true → more.has name = true)
    (hnew : ∀ entry ∈ e.places, more.has entry.1 = true → tags.has entry.1 = false → Even entry.2)
    (hmatches : e.matchesTags tags = true) : e.matchesTags more = true := by
  obtain ⟨raw, tree, operands⟩ := e
  cases tree with
  | none => rfl
  | some tree => exact (Tree.holds_of_places hsub hnew).1 Even.zero hmatches

end Expression

/-- **More tags deselect only through a negation.** Let a set of tags have all names of another
one. If the text of an expression has no `!`, the expression matches the larger set where it
matches the smaller one; and so does any expression of which the operands that only the larger
set has stand under an even number of negations, wherever they occur. -/
theorem matchesTags_of_more {raw : String} {e : Expression} (h : Expression.parse raw = .ok e)
    {tags more : TagSet} (hsub : ∀ name ∈ tags.names, name ∈ more.names) :
    ('!' ∉ raw.toList → e.matchesTags tags = true → e.matchesTags more = true) ∧
      ((∀ name ∈ e.operands, name ∈ more.names → name ∉ tags.names →
          ∀ n, (name, n) ∈ e.places → Even n) →
        e.matchesTags tags = true → e.matchesTags more = true) := by
  have hsub' : ∀ name, tags.has name = true → more.has name = true := by
    intro name hname
    exact TagSet.has_iff.mpr (hsub name (TagSet.has_iff.mp hname))
  refine ⟨fun hnone => ?_, fun heven => ?_⟩
  · refine Expression.matchesTags_of_places hsub' ?_
    intro entry hentry _ _
    have hle := Expression.le_negations hentry
    rw [Expression.negations_of_parse h, List.count_eq_zero.mpr hnone] at hle
    rw [Nat.le_zero.mp hle]
    exact Even.zero
  · refine Expression.matchesTags_of_places hsub' ?_
    intro entry hentry hmore habsent
    have hoccurs : entry.1 ∈ e.occurrences := by
      rw [← Expression.map_fst_places]
      exact List.mem_map_of_mem hentry
    have hnew : entry.1 ∉ tags.names := by
      rw [← TagSet.has_iff, habsent]
      exact Bool.false_ne_true
    exact heven entry.1 ((Expression.mem_operands_iff h).mpr hoccurs) (TagSet.has_iff.mp hmore) hnew
      entry.2 hentry

/-- Without a `!` in the text, and with names that stand under none and under two. -/
theorem matchesTags_of_more_sample :
    (∃ e, Expression.parse "(smoke | ui), web" = .ok e ∧ '!' ∉ "(smoke | ui), web".toList ∧
        e.matchesTags (.ofList ["web", "ui"]) = true ∧
        e.matchesTags (.ofList ["web", "ui", "slow"]) = true) ∧
      ∃ e, Expression.parse "smoke & !(slow & !ui)" = .ok e ∧
        e.places = [("smoke", 0), ("slow", 1), ("ui", 2)] ∧
        e.matchesTags (.ofList ["smoke"]) = true ∧
        e.matchesTags (.ofList ["smoke", "ui"]) = true := by
  have hplain : Expression.parse "(smoke | ui), web" = .ok ⟨"(smoke | ui), web",
      some (.and (.or (.tag "smoke") (.tag "ui")) (.tag "web")), ["smoke", "ui", "web"]⟩ := by
    decide +kernel
  have hnegated : Expression.parse "smoke & !(slow & !ui)" = .ok ⟨"smoke & !(slow & !ui)",
      some (.and (.tag "smoke") (.not (.and (.tag "slow") (.not (.tag "ui"))))),
      ["smoke", "slow", "ui"]⟩ := by
    decide +kernel
  have hnone : '!' ∉ "(smoke | ui), web".toList := by decide +kernel
  have hfirst := (@matchesTags_of_more _ _ hplain (.ofList ["web", "ui"])
    (.ofList ["web", "ui", "slow"]) (by decide +kernel)).1 hnone
  have hsecond := (@matchesTags_of_more _ _ hnegated (.ofList ["smoke"])
    (.ofList ["smoke", "ui"]) (by decide +kernel)).2
  have heven : ∀ name ∈ ["smoke", "slow", "ui"],
      name ∈ (TagSet.ofList ["smoke", "ui"]).names → name ∉ (TagSet.ofList ["smoke"]).names →
        ∀ entry ∈ [("smoke", 0), ("slow", 1), ("ui", 2)], entry.1 = name → Even entry.2 := by
    decide +kernel
  refine ⟨⟨_, hplain, hnone, by decide +kernel, hfirst (by decide +kernel)⟩,
    ⟨_, hnegated, rfl, by decide +kernel, hsecond ?_ (by decide +kernel)⟩⟩
  intro name hname hmore hnew n hn
  exact heven name hname hmore hnew (name, n) hn rfl

end Roster.Tag

import Mathlib.Logic.ExistsUnique
import Roster.Proofs.Except
import Roster.Proofs.Tag.Canonical
import Roster.Tag.Expression

/-!
The grammar of tag expressions.

`Derives` is the grammar as a relation between a rule, the tokens that the rule
spells and their tree. It says nothing of how an expression is read: a repetition is
a rule that takes one operand more at its right end, which is what groups a chain of
equal operators to the left.

* `ofTokens_eq_ok_iff` : the readers accept the token lists that the grammar derives,
  and no others, and give the tree of the derivation.
* `derives_unique` : a token list has one tree at most.
* `accepted_iff_derives` : the same of whole texts, where a caret is refused and a blank
  text is an expression without a tree.
-/

namespace Roster.Tag

open Roster.Text

/-- The rules of the grammar. -/
inductive Part where
  | or
  | and
  | unary
  | primary
  deriving DecidableEq, Repr

/-- The rule `part` derives the tokens, and their tree is `tree`. -/
inductive Derives : Part → List Token → Tree → Prop where
  | orFirst {ts tree} : Derives .and ts tree → Derives .or ts tree
  | orMore {ts us left right} : Derives .or ts left → Derives .and us right →
      Derives .or (ts ++ .or :: us) (.or left right)
  | andFirst {ts tree} : Derives .unary ts tree → Derives .and ts tree
  | andMore {ts us left right} : Derives .and ts left → Derives .unary us right →
      Derives .and (ts ++ .and :: us) (.and left right)
  | not {ts inner} : Derives .unary ts inner → Derives .unary (.not :: ts) (.not inner)
  | primary {ts tree} : Derives .primary ts tree → Derives .unary ts tree
  | tag (name) : Derives .primary [.tag name] (.tag name)
  | group {ts inner} : Derives .or ts inner →
      Derives .primary (.opening :: (ts ++ [.closing])) inner

namespace Tree

/-! ### Where a repetition ends -/

theorem extendOr_or (fuel : Nat) (left : Tree) (ts : List Token) :
    extendOr (fuel + 1) left (.or :: ts) = (do
      let (right, rest) ← readAnd fuel ts
      extendOr fuel (.or left right) rest) :=
  rfl

theorem extendAnd_and (fuel : Nat) (left : Tree) (ts : List Token) :
    extendAnd (fuel + 1) left (.and :: ts) = (do
      let (right, rest) ← readUnary fuel ts
      extendAnd fuel (.and left right) rest) :=
  rfl

/-- Alternatives end where no `|` follows. -/
theorem extendOr_of_ne {ts : List Token} (h : ts.head? ≠ some .or) (fuel : Nat) (left : Tree) :
    extendOr fuel left ts = .ok (left, ts) := by
  cases fuel with
  | zero => simp only [extendOr]
  | succ fuel =>
    cases ts with
    | nil => simp only [extendOr]
    | cons t ts => cases t <;> simp_all [extendOr]

/-- Conjuncts end where no `&` follows. -/
theorem extendAnd_of_ne {ts : List Token} (h : ts.head? ≠ some .and) (fuel : Nat)
    (left : Tree) : extendAnd fuel left ts = .ok (left, ts) := by
  cases fuel with
  | zero => simp only [extendAnd]
  | succ fuel =>
    cases ts with
    | nil => simp only [extendAnd]
    | cons t ts => cases t <;> simp_all [extendAnd]

/-! ### What the readers read is derived -/

/-- The tokens that a reader has used up, those of `ts` before `rest`, are derived when
`before` comes first. -/
def Used (part : Part) (before ts rest : List Token) (tree : Tree) : Prop :=
  ∃ us, ts = us ++ rest ∧ Derives part (before ++ us) tree

/-- What each reader says of its result when it has `fuel`. A reader that extends an
operand speaks of the tokens `before` of that operand too. -/
structure Sound (fuel : Nat) : Prop where
  or : ∀ {ts tree rest}, readOr fuel ts = .ok (tree, rest) → Used .or [] ts rest tree
  moreOr : ∀ {before left ts tree rest}, Derives .or before left →
    extendOr fuel left ts = .ok (tree, rest) → Used .or before ts rest tree
  and : ∀ {ts tree rest}, readAnd fuel ts = .ok (tree, rest) → Used .and [] ts rest tree
  moreAnd : ∀ {before left ts tree rest}, Derives .and before left →
    extendAnd fuel left ts = .ok (tree, rest) → Used .and before ts rest tree
  unary : ∀ {ts tree rest}, readUnary fuel ts = .ok (tree, rest) → Used .unary [] ts rest tree

/-- A reader that stops at once uses up no token. -/
theorem Used.none {part : Part} {before ts : List Token} {tree : Tree}
    (derived : Derives part before tree) : Used part before ts ts tree :=
  ⟨[], rfl, by rwa [List.append_nil]⟩

/-- The tokens `us` are used up, and then those that `more` speaks of. -/
theorem Used.trans {part : Part} {before : List Token} (us : List Token)
    {mid rest : List Token} {tree : Tree} (more : Used part (before ++ us) mid rest tree) :
    Used part before (us ++ mid) rest tree := by
  obtain ⟨vs, rfl, derived⟩ := more
  exact ⟨us ++ vs, (List.append_assoc ..).symm, by rwa [← List.append_assoc]⟩

theorem sound_zero : Sound 0 where
  or h := by simp [readOr] at h
  moreOr derived h := by
    obtain ⟨rfl, rfl⟩ : _ = _ ∧ _ = _ := by simpa [extendOr] using h
    exact .none derived
  and h := by simp [readAnd] at h
  moreAnd derived h := by
    obtain ⟨rfl, rfl⟩ : _ = _ ∧ _ = _ := by simpa [extendAnd] using h
    exact .none derived
  unary h := by simp [readUnary] at h

theorem sound_succ {fuel : Nat} (ih : Sound fuel) : Sound (fuel + 1) where
  or {ts tree rest} h := by
    rw [readOr, bind_eq_ok_iff] at h
    obtain ⟨⟨left, mid⟩, hleft, hmore⟩ := h
    obtain ⟨us, rfl, derived⟩ := ih.and hleft
    exact .trans us (ih.moreOr (.orFirst derived) hmore)
  moreOr {before left ts tree rest} derived h := by
    -- One alternative more makes the derivation longer at its right end.
    by_cases hhead : ts.head? = some .or
    · obtain ⟨ts, rfl⟩ := List.head?_eq_some_iff.mp hhead
      rw [extendOr_or, bind_eq_ok_iff] at h
      obtain ⟨⟨right, mid⟩, hright, hmore⟩ := h
      obtain ⟨us, rfl, derivedRight⟩ := ih.and hright
      exact .trans (.or :: us) (ih.moreOr (.orMore derived derivedRight) hmore)
    · rw [extendOr_of_ne hhead, Except.ok.injEq, Prod.mk.injEq] at h
      obtain ⟨rfl, rfl⟩ := h
      exact .none derived
  and {ts tree rest} h := by
    rw [readAnd, bind_eq_ok_iff] at h
    obtain ⟨⟨left, mid⟩, hleft, hmore⟩ := h
    obtain ⟨us, rfl, derived⟩ := ih.unary hleft
    exact .trans us (ih.moreAnd (.andFirst derived) hmore)
  moreAnd {before left ts tree rest} derived h := by
    by_cases hhead : ts.head? = some .and
    · obtain ⟨ts, rfl⟩ := List.head?_eq_some_iff.mp hhead
      rw [extendAnd_and, bind_eq_ok_iff] at h
      obtain ⟨⟨right, mid⟩, hright, hmore⟩ := h
      obtain ⟨us, rfl, derivedRight⟩ := ih.unary hright
      exact .trans (.and :: us) (ih.moreAnd (.andMore derived derivedRight) hmore)
    · rw [extendAnd_of_ne hhead, Except.ok.injEq, Prod.mk.injEq] at h
      obtain ⟨rfl, rfl⟩ := h
      exact .none derived
  unary {ts tree rest} h := by
    cases ts with
    | nil => simp [readUnary] at h
    | cons t ts =>
      cases t with
      | not =>
        rw [readUnary, bind_eq_ok_iff] at h
        obtain ⟨⟨inner, mid⟩, hinner, hend⟩ := h
        obtain ⟨us, rfl, derived⟩ := ih.unary hinner
        obtain ⟨rfl, rfl⟩ : _ = _ ∧ _ = _ := by simpa using hend
        exact ⟨.not :: us, rfl, .not derived⟩
      | tag name =>
        obtain ⟨rfl, rfl⟩ : _ = _ ∧ _ = _ := by simpa [readUnary] using h
        exact ⟨[.tag name], rfl, .primary (.tag name)⟩
      | opening =>
        rw [readUnary, bind_eq_ok_iff] at h
        obtain ⟨⟨inner, mid⟩, hinner, hend⟩ := h
        obtain ⟨us, rfl, (derived : Derives .or us inner)⟩ := ih.or hinner
        cases mid with
        | nil => simp at hend
        | cons t mid =>
          cases t with
          | closing =>
            obtain ⟨rfl, rfl⟩ : _ = _ ∧ _ = _ := by simpa using hend
            have whole : Derives .unary (.opening :: (us ++ [.closing])) inner :=
              .primary (.group derived)
            exact ⟨_, by simp, whole⟩
          | _ => simp at hend
      | _ => simp [readUnary] at h

/-- Whatever the fuel, a reader uses up tokens that its rule derives. -/
theorem sound (fuel : Nat) : Sound fuel := by
  induction fuel with
  | zero => exact sound_zero
  | succ fuel ih => exact sound_succ ih

/-! ### What is derived is read -/

/-- The tokens `us` are read as `tree`, whatever follows them and with any fuel that is
enough for all that is left to read. The rules with a repetition go on with the
repetition, so they are described by the call that extends `tree`; that call has enough
fuel for the tokens after `us`. -/
def Reads (us : List Token) (tree : Tree) : Part → Prop
  | .or => ∀ rest fuel, rest.head? ≠ some .and → 3 * (us.length + rest.length) + 3 ≤ fuel →
      ∃ spare, 3 * rest.length ≤ spare ∧ readOr fuel (us ++ rest) = extendOr spare tree rest
  | .and => ∀ rest fuel, 3 * (us.length + rest.length) + 2 ≤ fuel →
      ∃ spare, 3 * rest.length ≤ spare ∧ readAnd fuel (us ++ rest) = extendAnd spare tree rest
  | .unary | .primary => ∀ rest fuel, 3 * (us.length + rest.length) + 1 ≤ fuel →
      readUnary fuel (us ++ rest) = .ok (tree, rest)

theorem reads_orFirst {us : List Token} {tree : Tree} (h : Reads us tree .and) :
    Reads us tree .or := by
  intro rest fuel hhead hfuel
  obtain ⟨fuel, rfl⟩ := Nat.exists_eq_add_one_of_ne_zero (n := fuel) (by omega)
  obtain ⟨spare, -, hread⟩ := h rest fuel (by omega)
  refine ⟨fuel, by omega, ?_⟩
  rw [readOr, hread, extendAnd_of_ne hhead, ok_bind]

theorem reads_orMore {ts us : List Token} {left right : Tree} (hleft : Reads ts left .or)
    (hright : Reads us right .and) : Reads (ts ++ .or :: us) (.or left right) .or := by
  intro rest fuel hhead hfuel
  simp only [List.length_append, List.length_cons] at hfuel
  obtain ⟨spare, hspare, hread⟩ := hleft (.or :: us ++ rest) fuel (by simp)
    (by simp only [List.length_append, List.length_cons]; omega)
  simp only [List.length_append, List.length_cons] at hspare
  obtain ⟨spare, rfl⟩ := Nat.exists_eq_add_one_of_ne_zero (n := spare) (by omega)
  obtain ⟨spare', -, hread'⟩ := hright rest spare (by omega)
  refine ⟨spare, by omega, ?_⟩
  rw [List.append_assoc, hread, List.cons_append, extendOr_or, hread', extendAnd_of_ne hhead,
    ok_bind]

theorem reads_andFirst {us : List Token} {tree : Tree} (h : Reads us tree .unary) :
    Reads us tree .and := by
  intro rest fuel hfuel
  obtain ⟨fuel, rfl⟩ := Nat.exists_eq_add_one_of_ne_zero (n := fuel) (by omega)
  refine ⟨fuel, by omega, ?_⟩
  rw [readAnd, h rest fuel (by omega), ok_bind]

theorem reads_andMore {ts us : List Token} {left right : Tree} (hleft : Reads ts left .and)
    (hright : Reads us right .unary) : Reads (ts ++ .and :: us) (.and left right) .and := by
  intro rest fuel hfuel
  simp only [List.length_append, List.length_cons] at hfuel
  obtain ⟨spare, hspare, hread⟩ := hleft (.and :: us ++ rest) fuel
    (by simp only [List.length_append, List.length_cons]; omega)
  simp only [List.length_append, List.length_cons] at hspare
  obtain ⟨spare, rfl⟩ := Nat.exists_eq_add_one_of_ne_zero (n := spare) (by omega)
  refine ⟨spare, by omega, ?_⟩
  rw [List.append_assoc, hread, List.cons_append, extendAnd_and, hright rest spare (by omega),
    ok_bind]

theorem reads_not {us : List Token} {inner : Tree} (h : Reads us inner .unary) :
    Reads (.not :: us) (.not inner) .unary := by
  intro rest fuel hfuel
  simp only [List.length_cons] at hfuel
  obtain ⟨fuel, rfl⟩ := Nat.exists_eq_add_one_of_ne_zero (n := fuel) (by omega)
  rw [List.cons_append, readUnary, h rest fuel (by omega), ok_bind]

theorem reads_tag (name : String) : Reads [.tag name] (.tag name) .primary := by
  intro rest fuel hfuel
  obtain ⟨fuel, rfl⟩ := Nat.exists_eq_add_one_of_ne_zero (n := fuel) (by omega)
  rfl

theorem reads_group {us : List Token} {inner : Tree} (h : Reads us inner .or) :
    Reads (.opening :: (us ++ [.closing])) inner .primary := by
  intro rest fuel hfuel
  simp only [List.length_append, List.length_cons, List.length_nil] at hfuel
  obtain ⟨fuel, rfl⟩ := Nat.exists_eq_add_one_of_ne_zero (n := fuel) (by omega)
  -- Inside a group the rest starts with the parenthesis, which ends every repetition.
  obtain ⟨spare, -, hread⟩ := h (.closing :: rest) fuel (by simp)
    (by simp only [List.length_cons]; omega)
  rw [List.cons_append, List.append_assoc, List.singleton_append, readUnary, hread,
    extendOr_of_ne (by simp), ok_bind]

/-- Whatever is derived is read, by induction on the derivation. -/
theorem reads_of_derives {part : Part} {us : List Token} {tree : Tree}
    (h : Derives part us tree) : Reads us tree part := by
  induction h with
  | orFirst _ ih => exact reads_orFirst ih
  | orMore _ _ ihLeft ihRight => exact reads_orMore ihLeft ihRight
  | andFirst _ ih => exact reads_andFirst ih
  | andMore _ _ ihLeft ihRight => exact reads_andMore ihLeft ihRight
  | not _ ih => exact reads_not ih
  | primary _ ih => exact ih
  | tag name => exact reads_tag name
  | group _ ih => exact reads_group ih

/-! ### Whole token lists -/

/-- A token list is accepted with the tree that the grammar gives it, and only then. -/
theorem ofTokens_eq_ok_iff {ts : List Token} {tree : Tree} :
    ofTokens ts = .ok tree ↔ Derives .or ts tree := by
  constructor
  · intro h
    rw [ofTokens, bind_eq_ok_iff] at h
    obtain ⟨⟨tree', rest⟩, hread, hend⟩ := h
    obtain ⟨us, rfl, (derived : Derives .or us tree')⟩ := (sound _).or hread
    cases rest with
    | nil =>
      obtain rfl : tree' = tree := by simpa using hend
      rwa [List.append_nil]
    | cons t rest => cases t <;> simp at hend
  · intro h
    obtain ⟨spare, -, hread⟩ := reads_of_derives h [] (fuelFor ts.length) (by simp)
      (by simp only [fuelFor, List.length_nil]; omega)
    rw [List.append_nil] at hread
    rw [ofTokens, hread, extendOr_of_ne (by simp), ok_bind]

end Tree

/-- The grammar is unambiguous: a token list has one tree at most. -/
theorem derives_unique {ts : List Token} {tree tree' : Tree} (h : Derives .or ts tree)
    (h' : Derives .or ts tree') : tree = tree' := by
  have hok := Tree.ofTokens_eq_ok_iff.mpr h
  rw [Tree.ofTokens_eq_ok_iff.mpr h'] at hok
  exact (Except.ok.inj hok).symm

theorem derives_ne_nil {part : Part} {ts : List Token} {tree : Tree}
    (h : Derives part ts tree) : ts ≠ [] := by
  induction h with
  | orFirst _ ih | andFirst _ ih | primary _ ih => exact ih
  | orMore | andMore => simp
  | not | tag | group => simp

/-! ### Whole texts -/

/-- A text with a caret is refused for it, whatever else is wrong. -/
theorem Expression.parse_of_caret {raw : String} (h : '^' ∈ raw.toList) :
    Expression.parse raw = .error .caret := by
  rw [Expression.parse, if_pos]
  rwa [List.contains_iff_mem, Token.caret_mem_canonical_iff]

/-- A text without a caret is as good as its tokens. -/
theorem Expression.parse_of_no_caret {raw : String} (h : '^' ∉ raw.toList) :
    Expression.parse raw =
      if Token.ofText raw = [] then .ok ⟨raw, none, []⟩
      else (Tree.ofTokens (Token.ofText raw)).map fun tree =>
        ⟨raw, some tree, Token.names (Token.ofText raw)⟩ := by
  have hcaret : ¬ (Token.canonical raw.toList).contains '^' = true := by
    rwa [List.contains_iff_mem, Token.caret_mem_canonical_iff]
  rw [Expression.parse, if_neg hcaret]
  split
  · rename_i hscan
    rw [if_pos (show Token.ofText raw = [] from hscan)]
  · rename_i t ts hscan
    rw [show Token.ofText raw = t :: ts from hscan, if_neg (List.cons_ne_nil t ts)]
    cases Tree.ofTokens (t :: ts) with
    | error e => rfl
    | ok tree => rfl

/-- A text spells an expression when it has no caret and is blank or derived by the
grammar. Then it has the tree of its derivation, and none if it is blank. -/
theorem Expression.parse_eq_ok_iff {raw : String} {e : Expression} :
    Expression.parse raw = .ok e ↔
      '^' ∉ raw.toList ∧
        ((Token.ofText raw = [] ∧ e = ⟨raw, none, []⟩) ∨
          ∃ tree, Derives .or (Token.ofText raw) tree ∧
            e = ⟨raw, some tree, Token.names (Token.ofText raw)⟩) := by
  by_cases hcaret : '^' ∈ raw.toList
  · simp [Expression.parse_of_caret hcaret, hcaret]
  rw [Expression.parse_of_no_caret hcaret]
  by_cases hnil : Token.ofText raw = []
  · rw [if_pos hnil]
    constructor
    · intro h
      exact ⟨hcaret, .inl ⟨hnil, (Except.ok.inj h).symm⟩⟩
    · rintro ⟨-, ⟨-, rfl⟩ | ⟨tree, derived, -⟩⟩
      · rfl
      · exact absurd hnil (derives_ne_nil derived)
  · rw [if_neg hnil, map_eq_ok_iff]
    constructor
    · rintro ⟨tree, hread, rfl⟩
      exact ⟨hcaret, .inr ⟨tree, Tree.ofTokens_eq_ok_iff.mp hread, rfl⟩⟩
    · rintro ⟨-, ⟨hnil', -⟩ | ⟨tree, derived, rfl⟩⟩
      · exact absurd hnil' hnil
      · exact ⟨tree, Tree.ofTokens_eq_ok_iff.mpr derived, rfl⟩

/-- **The readers decide the grammar.** A token list is accepted with a tree exactly when
the grammar derives it with that tree, which is then the only one; a text is accepted
exactly when it has no caret and is blank or spells tokens that the grammar derives. -/
theorem accepted_iff_derives :
    (∀ ts tree, Tree.ofTokens ts = .ok tree ↔ Derives .or ts tree) ∧
      (∀ ts, (∃ tree, Derives .or ts tree) ↔ ∃! tree, Derives .or ts tree) ∧
      ∀ raw : String, (∃ e, Expression.parse raw = .ok e) ↔
        '^' ∉ raw.toList ∧
          ((∀ c ∈ raw.toList, isBlank c = true) ∨
            ∃ tree, Derives .or (Token.scan (Token.canonical raw.toList)) tree) := by
  refine ⟨fun ts tree => Tree.ofTokens_eq_ok_iff, fun ts => ?_, fun raw => ?_⟩
  · constructor
    · rintro ⟨tree, derived⟩
      exact ⟨tree, derived, fun tree' derived' => derives_unique derived' derived⟩
    · exact ExistsUnique.exists
  · simp only [Expression.parse_eq_ok_iff, ← Token.ofText_eq_nil_iff]
    constructor
    · rintro ⟨e, hcaret, ⟨hnil, -⟩ | ⟨tree, derived, -⟩⟩
      · exact ⟨hcaret, .inl hnil⟩
      · exact ⟨hcaret, .inr ⟨tree, derived⟩⟩
    · rintro ⟨hcaret, hnil | ⟨tree, derived⟩⟩
      · exact ⟨_, hcaret, .inl ⟨hnil, rfl⟩⟩
      · exact ⟨_, hcaret, .inr ⟨tree, derived, rfl⟩⟩

end Roster.Tag

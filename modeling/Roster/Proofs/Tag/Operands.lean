import Roster.Proofs.FirstSeen
import Roster.Proofs.Tag.Name

/-!
The operands of an expression.

The names in a tree are those of the tokens that it was read from, in the same order
(`occurrences_of_derives`). So the operands, which are found among the tokens, are the names that
the tree asks for, and nothing else counts for its value (`holds_congr`).

* `operands_exact` : the operands of an expression are the names in its tree, each once, in the
  order of their first occurrence; they are normal forms; and sets with the same operands among
  their tags satisfy the expression alike.
-/

namespace Roster.Tag

open Roster.Text

/-! ### The names in a tree -/

namespace Tree

/-- The names in a tree, from left to right. -/
def occurrences : Tree → List String
  | .tag name => [name]
  | .not inner => inner.occurrences
  | .and left right | .or left right => left.occurrences ++ right.occurrences

/-- Only the names in a tree count for its value. -/
theorem holds_congr {present present' : String → Bool} {tree : Tree}
    (h : ∀ name ∈ tree.occurrences, present name = present' name) :
    tree.holds present = tree.holds present' := by
  induction tree with
  | tag name => exact h name List.mem_cons_self
  | not inner ih => rw [holds, holds, ih h]
  | and left right ihLeft ihRight =>
    obtain ⟨hleft, hright⟩ := List.forall_mem_append.mp h
    rw [holds, holds, ihLeft hleft, ihRight hright]
  | or left right ihLeft ihRight =>
    obtain ⟨hleft, hright⟩ := List.forall_mem_append.mp h
    rw [holds, holds, ihLeft hleft, ihRight hright]

end Tree

/-- A derived tree has the names of its tokens, in their order. -/
theorem occurrences_of_derives {part : Part} {ts : List Token} {tree : Tree}
    (h : Derives part ts tree) : tree.occurrences = ts.filterMap Token.name? := by
  induction h with
  | orFirst _ ih | andFirst _ ih | primary _ ih => exact ih
  | orMore _ _ ihLeft ihRight | andMore _ _ ihLeft ihRight =>
    rw [Tree.occurrences, ihLeft, ihRight, List.filterMap_append, List.filterMap_cons]
    rfl
  | not _ ih =>
    rw [Tree.occurrences, ih, List.filterMap_cons]
    rfl
  | tag name => rfl
  | group _ ih =>
    -- The two parentheses have no names.
    rw [ih, List.filterMap_cons, List.filterMap_append]
    exact (List.append_nil _).symm

/-! ### The names among the tokens of a text -/

namespace Token

/-- The names among the tokens of an expression are normal forms, and none is empty. -/
theorem normal_of_mem_ofText {name raw : String} (h : .tag name ∈ ofText raw) :
    name ≠ "" ∧ normalName name = name := by
  obtain ⟨w, hne, rfl, hw⟩ := exists_word_of_mem_scanFrom h
  have hblank : ∀ c ∈ w, isBlank c = false := by
    intro c hc
    rcases hw c hc with hnil | ⟨hmem, -⟩
    · cases hnil
    · exact isBlank_of_mem_canonical hmem
  refine ⟨?_, normalName_ofList_shield hblank⟩
  intro hempty
  have hnil := congrArg String.toList hempty
  rw [String.toList_ofList] at hnil
  exact shield_ne_nil hne hnil

theorem mem_filterMap_name?_iff {name : String} {ts : List Token} :
    name ∈ ts.filterMap name? ↔ .tag name ∈ ts := by
  rw [List.mem_filterMap]
  constructor
  · rintro ⟨t, ht, hname⟩
    cases t <;> cases hname
    exact ht
  · intro h
    exact ⟨_, h, rfl⟩

end Token

/-! ### The operands of an expression -/

/-- The names in the tree of an expression, from left to right. -/
def Expression.occurrences (e : Expression) : List String :=
  e.tree.elim [] Tree.occurrences

/-- Sets that agree on the names in an expression satisfy it alike. -/
theorem Expression.matchesTags_congr {e : Expression} {tags tags' : TagSet}
    (h : ∀ name ∈ e.occurrences, tags.has name = tags'.has name) :
    e.matchesTags tags = e.matchesTags tags' := by
  obtain ⟨raw, tree, operands⟩ := e
  cases tree with
  | none => rfl
  | some tree => exact Tree.holds_congr h

section Parsed

variable {raw : String} {e : Expression}

/-- The names among the tokens of an expression are those in its tree. -/
theorem Expression.occurrences_of_parse (h : Expression.parse raw = .ok e) :
    e.occurrences = (Token.ofText raw).filterMap Token.name? := by
  obtain ⟨-, ⟨hnil, rfl⟩ | ⟨tree, hderives, rfl⟩⟩ := Expression.parse_eq_ok_iff.mp h
  · rw [hnil]
    rfl
  · exact occurrences_of_derives hderives

/-- The operands are the names in the tree without repetitions. -/
theorem Expression.operands_of_parse (h : Expression.parse raw = .ok e) :
    e.operands = e.occurrences.eraseDups := by
  rw [Expression.occurrences_of_parse h]
  obtain ⟨-, ⟨hnil, rfl⟩ | ⟨tree, -, rfl⟩⟩ := Expression.parse_eq_ok_iff.mp h
  · rw [hnil]
    rfl
  · rfl

theorem Expression.mem_operands_iff (h : Expression.parse raw = .ok e) {name : String} :
    name ∈ e.operands ↔ name ∈ e.occurrences := by
  rw [Expression.operands_of_parse h, List.mem_eraseDups]

theorem Expression.normal_of_mem_operands (h : Expression.parse raw = .ok e) {name : String}
    (hname : name ∈ e.operands) : name ≠ "" ∧ normalName name = name := by
  rw [Expression.mem_operands_iff h, Expression.occurrences_of_parse h,
    Token.mem_filterMap_name?_iff] at hname
  exact Token.normal_of_mem_ofText hname

/-- Sets that have the same operands among their tags satisfy an expression alike. -/
theorem Expression.matchesTags_of_operands (h : Expression.parse raw = .ok e)
    {tags tags' : TagSet}
    (hagree : ∀ name ∈ e.operands, tags.contains name = tags'.contains name) :
    e.matchesTags tags = e.matchesTags tags' := by
  apply Expression.matchesTags_congr
  intro name hname
  have hoperand := (Expression.mem_operands_iff h).mpr hname
  have hcontains := hagree name hoperand
  rwa [TagSet.contains, TagSet.contains, (Expression.normal_of_mem_operands h hoperand).2]
    at hcontains

end Parsed

/-- **The operands say what an expression reads.** They are the names in its tree, each once, in
the order of their first occurrence; each of them is a normal form and not empty; and two sets of
tags that have the same operands among them both satisfy the expression or neither does. So on
lists of tags only the operands that are named count, in whatever order and spelling. -/
theorem operands_exact {raw : String} {e : Expression} (h : Expression.parse raw = .ok e) :
    e.operands.Nodup ∧ (∀ name, name ∈ e.operands ↔ name ∈ e.occurrences) ∧
      (∀ first ∈ e.operands, ∀ second ∈ e.operands,
        e.operands.idxOf first < e.operands.idxOf second ↔
          e.occurrences.idxOf first < e.occurrences.idxOf second) ∧
      (∀ name ∈ e.operands, name ≠ "" ∧ normalName name = name) ∧
      (∀ tags tags' : TagSet, (∀ name ∈ e.operands, tags.contains name = tags'.contains name) →
        e.matchesTags tags = e.matchesTags tags') ∧
      ∀ names names' : List String,
        (∀ operand ∈ e.operands,
          (∃ name ∈ names, normalName name = operand) ↔
            ∃ name ∈ names', normalName name = operand) →
          evaluate raw names = evaluate raw names' := by
  refine ⟨?_, fun name => Expression.mem_operands_iff h, ?_, ?_, ?_, ?_⟩
  · rw [Expression.operands_of_parse h]
    exact nodup_eraseDups e.occurrences
  · intro first hfirst second hsecond
    rw [Expression.mem_operands_iff h] at hfirst hsecond
    rw [Expression.operands_of_parse h, idxOf_eraseDups hfirst, idxOf_eraseDups hsecond,
      seenBefore_lt_iff hfirst]
  · intro name hname
    exact Expression.normal_of_mem_operands h hname
  · intro tags tags' hagree
    exact Expression.matchesTags_of_operands h hagree
  · intro names names' hagree
    rw [evaluate_of_parse h, evaluate_of_parse h]
    refine congrArg Except.ok (Expression.matchesTags_of_operands h ?_)
    intro operand hoperand
    rw [Bool.eq_iff_iff, TagSet.contains, TagSet.contains, TagSet.has_ofList, TagSet.has_ofList,
      (Expression.normal_of_mem_operands h hoperand).2]
    simpa only [eq_comm] using hagree operand hoperand

/-- An expression with a name twice, a truth word and a tag in another spelling. -/
theorem operands_exact_sample :
    ∃ e, Expression.parse "u i | !(true & ui)" = .ok e ∧ e.operands = ["ui", "\x7btrue\x7d"] ∧
      e.occurrences = ["ui", "\x7btrue\x7d", "ui"] ∧ e.operands.Nodup ∧
      (∀ name ∈ e.operands, name ≠ "" ∧ normalName name = name) ∧
      evaluate "u i | !(true & ui)" ["slow", "true"] =
        evaluate "u i | !(true & ui)" [" tr ue", "true", "fast"] := by
  have hparse : Expression.parse "u i | !(true & ui)" = .ok ⟨"u i | !(true & ui)",
      some (.or (.tag "ui") (.not (.and (.tag "\x7btrue\x7d") (.tag "ui")))),
      ["ui", "\x7btrue\x7d"]⟩ := by decide +kernel
  obtain ⟨hnodup, -, -, hnormal, -, hevaluate⟩ := operands_exact hparse
  exact ⟨_, hparse, rfl, rfl, hnodup, hnormal, hevaluate _ _ (by decide +kernel)⟩

end Roster.Tag

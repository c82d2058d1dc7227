import Mathlib.Data.List.Infix
import Roster.Proofs.Tag.Diagnosis

/-!
Missing parentheses.

The report of missing parentheses has three causes. Two of them are parentheses without a
partner: a group that the end of the text leaves open (`LeavesOpen`), and a parenthesis that
closes no group (`ClosesNone`). The third one is no matter of parentheses: in an open group
an operand follows another one, where the pass waits for an operator or the end of the group
(`LacksOperator`). Outside of all groups the same slip is reported as what it is.

* `missing_parentheses_iff` : there are no other causes, and the report is made of balanced
  parentheses exactly where an operator is missing in a group.
* `balanced_reported_unbalanced` : so the report may be made of balanced parentheses.
-/

namespace Roster.Tag

open Roster.Text

/-! ### Where a pass stops -/

namespace Counter

/-- A pass stops at the first token that is out of place. -/
theorem after_eq_error_iff {c : Counter} {ts : List Token} {reason : Malformed} :
    c.after ts = .error reason ↔ ∃ before t rest c', ts = before ++ t :: rest ∧
      c.after before = .ok c' ∧ c'.next t = .error reason := by
  induction ts generalizing c with
  | nil =>
    constructor
    · intro h
      cases h
    · rintro ⟨before, t, rest, c', hsplit, -⟩
      exact absurd hsplit.symm (by simp)
  | cons t ts ih =>
    rw [after_cons, bind_eq_error_iff]
    constructor
    · rintro (hnext | ⟨c', hnext, hafter⟩)
      · exact ⟨[], t, ts, c, rfl, rfl, hnext⟩
      · obtain ⟨before, u, rest, c'', rfl, hbefore, hstop⟩ := ih.mp hafter
        refine ⟨t :: before, u, rest, c'', rfl, ?_, hstop⟩
        rwa [after_cons, hnext]
    · rintro ⟨before, u, rest, c'', hsplit, hbefore, hstop⟩
      cases before with
      | nil =>
        obtain ⟨rfl, rfl⟩ := List.cons.inj hsplit
        cases hbefore
        exact .inl hstop
      | cons t' before =>
        obtain ⟨rfl, rfl⟩ := List.cons.inj hsplit
        rw [after_cons, bind_eq_ok_iff] at hbefore
        obtain ⟨c', hnext, hbefore⟩ := hbefore
        exact .inr ⟨c', hnext, ih.mpr ⟨before, u, rest, c'', rfl, hbefore, hstop⟩⟩

/-- One token more changes the depth by the parenthesis that it is. -/
theorem depth_next {c c' : Counter} {t : Token} (h : c.next t = .ok c') :
    c'.depth + [t].count .closing = c.depth + [t].count .opening := by
  obtain ⟨mode, depth⟩ := c
  cases mode with
  | expected => cases t <;> cases h <;> rfl
  | complete =>
    cases depth with
    | zero => cases t <;> cases h <;> rfl
    | succ depth => cases t <;> cases h <;> rfl

/-- The depth of a pass is the number of parentheses that are open. -/
theorem depth_after {c c' : Counter} {ts : List Token} (h : c.after ts = .ok c') :
    c'.depth + ts.count .closing = c.depth + ts.count .opening := by
  induction ts generalizing c with
  | nil =>
    cases h
    rfl
  | cons t ts ih =>
    rw [after_cons, bind_eq_ok_iff] at h
    obtain ⟨mid, hnext, hafter⟩ := h
    have htoken := depth_next hnext
    have hrest := ih hafter
    rw [List.count_cons, List.count_cons]
    rw [List.count_singleton, List.count_singleton] at htoken
    omega

end Counter

/-! ### The causes of the report -/

/-- The tokens end with a complete operand in `depth` open groups. -/
def Completes (ts : List Token) (depth : Nat) : Prop :=
  Counter.start.after ts = .ok ⟨.complete, depth⟩

/-- The token can only begin an operand. -/
def Token.beginsOperand : Token → Bool
  | .tag _ | .not | .opening => true
  | .and | .or | .closing => false

/-- A group is open where the tokens end. -/
def LeavesOpen (ts : List Token) : Prop :=
  ∃ depth, Completes ts (depth + 1)

/-- A parenthesis closes, and no group is open. -/
def ClosesNone (ts : List Token) : Prop :=
  ∃ before rest, ts = before ++ .closing :: rest ∧ Completes before 0

/-- In an open group an operand follows another one. -/
def LacksOperator (ts : List Token) : Prop :=
  ∃ before t rest depth, ts = before ++ t :: rest ∧ t.beginsOperand = true ∧
    Completes before (depth + 1)

namespace Counter

theorem finish_eq_parentheses_iff {c : Counter} :
    c.finish = .error .parentheses ↔ ∃ depth, c = ⟨.complete, depth + 1⟩ := by
  obtain ⟨mode, depth⟩ := c
  cases mode with
  | expected => simp [finish]
  | complete => cases depth <;> simp [finish]

/-- A token is reported for the parentheses where it closes no group, and where it begins an
operand that follows another one in a group. -/
theorem next_eq_parentheses_iff {c : Counter} {t : Token} :
    c.next t = .error .parentheses ↔ (t = .closing ∧ c = ⟨.complete, 0⟩) ∨
      (t.beginsOperand = true ∧ ∃ depth, c = ⟨.complete, depth + 1⟩) := by
  obtain ⟨mode, depth⟩ := c
  cases mode with
  | expected => cases t <;> simp [next]
  | complete => cases depth <;> cases t <;> simp [next, Token.beginsOperand]

theorem run_eq_parentheses_iff {ts : List Token} :
    start.run ts = .error .parentheses ↔ LeavesOpen ts ∨ ClosesNone ts ∨ LacksOperator ts := by
  rw [run, bind_eq_error_iff, after_eq_error_iff]
  constructor
  · rintro (⟨before, t, rest, c, hsplit, hbefore, hnext⟩ | ⟨c, hafter, hfinish⟩)
    · rcases next_eq_parentheses_iff.mp hnext with ⟨rfl, rfl⟩ | ⟨hbegins, depth, rfl⟩
      · exact .inr (.inl ⟨before, rest, hsplit, hbefore⟩)
      · exact .inr (.inr ⟨before, t, rest, depth, hsplit, hbegins, hbefore⟩)
    · obtain ⟨depth, rfl⟩ := finish_eq_parentheses_iff.mp hfinish
      exact .inl ⟨depth, hafter⟩
  · rintro (⟨depth, hafter⟩ | ⟨before, rest, hsplit, hbefore⟩ |
      ⟨before, t, rest, depth, hsplit, hbegins, hbefore⟩)
    · exact .inr ⟨_, hafter, rfl⟩
    · exact .inl ⟨before, .closing, rest, _, hsplit, hbefore, rfl⟩
    · have hnext := next_eq_parentheses_iff.mpr (.inr ⟨hbegins, depth, rfl⟩)
      exact .inl ⟨before, t, rest, _, hsplit, hbefore, hnext⟩

end Counter

/-! ### Balanced texts -/

/-- Every parenthesis of the text has a partner. -/
structure Balanced (cs : List Char) : Prop where
  /-- As many are opened as are closed. -/
  equal : cs.count '(' = cs.count ')'
  /-- None is closed before it is opened. -/
  ordered : ∀ before, before <+: cs → before.count ')' ≤ before.count '('

/-- A parenthesis. -/
def isParen (c : Char) : Bool :=
  c == '(' || c == ')'

/-- The parenthesis that a token is. -/
def Token.paren? : Token → Option Char
  | .opening => some '('
  | .closing => some ')'
  | _ => none

namespace Token

theorem isParen_iff {c : Char} : isParen c = true ↔ c = '(' ∨ c = ')' := by
  simp [isParen]

theorem filterMap_ofWord (word : List Char) : (ofWord word).filterMap paren? = [] := by
  cases word <;> rfl

/-- The parentheses among the tokens of a text are those of the text. -/
theorem filterMap_scanFrom (word cs : List Char) :
    (scanFrom word cs).filterMap paren? = cs.filter isParen := by
  induction cs generalizing word with
  | nil => exact filterMap_ofWord word
  | cons c cs ih =>
    have hparen : (ofChar? c).bind paren? = if isParen c then some c else none := by
      unfold ofChar?
      split
      · rfl
      · rfl
      · rfl
      · rfl
      · rfl
      · rename_i hopening hclosing
        rw [if_neg]
        · rfl
        · rw [isParen_iff]
          rintro (h | h)
          · exact hopening h
          · exact hclosing h
    by_cases hc : isParen c = true
    · rw [if_pos hc] at hparen
      obtain ⟨t, ht, htc⟩ := Option.bind_eq_some_iff.mp hparen
      rw [scanFrom_cons_mark ht, List.filter_cons_of_pos hc, List.filterMap_append,
        filterMap_ofWord, List.nil_append, List.filterMap_cons_some htc, scan, ih]
    · rw [if_neg hc] at hparen
      rw [List.filter_cons_of_neg hc]
      cases ht : ofChar? c with
      | none => rw [scanFrom_cons_plain ht, ih]
      | some t =>
        rw [ht, Option.bind_some] at hparen
        rw [scanFrom_cons_mark ht, List.filterMap_append, filterMap_ofWord, List.nil_append,
          List.filterMap_cons_none hparen, scan, ih]

theorem filterMap_ofText (raw : String) :
    (ofText raw).filterMap paren? = raw.toList.filter isParen := by
  rw [ofText, scan, filterMap_scanFrom]
  refine filter_canonical ?_ rfl rfl rfl raw.toList
  intro c hc
  rcases isParen_iff.mp hc with rfl | rfl
  · rfl
  · rfl

/-- Characters and tokens with the same parentheses have as many of each kind. -/
theorem count_of_parens {cs : List Char} {ts : List Token}
    (h : ts.filterMap paren? = cs.filter isParen) :
    cs.count '(' = ts.count .opening ∧ cs.count ')' = ts.count .closing := by
  have hcount : ∀ (t : Token) (c : Char), isParen c = true →
      (∀ u : Token, (u.paren? == some c) = (u == t)) → cs.count c = ts.count t := by
    intro t c hc hpartner
    rw [← List.count_filter hc, ← h, List.count_filterMap, List.count]
    simp only [hpartner]
  constructor
  · refine hcount .opening '(' rfl ?_
    intro u
    cases u <;> rfl
  · refine hcount .closing ')' rfl ?_
    intro u
    cases u <;> rfl

/-- Tokens at the beginning of a text have the parentheses of a beginning of the text. -/
theorem exists_prefix_counts {raw : String} {ts : List Token} (h : ts <+: ofText raw) :
    ∃ cs, cs <+: raw.toList ∧ cs.count '(' = ts.count .opening ∧
      cs.count ')' = ts.count .closing := by
  have hparens := h.filterMap paren?
  rw [filterMap_ofText, List.prefix_filter_iff] at hparens
  obtain ⟨cs, hcs, heq⟩ := hparens
  exact ⟨cs, hcs, count_of_parens heq⟩

end Token

/-- A text that leaves a group open has more parentheses that open one than that close one. -/
theorem not_balanced_of_leavesOpen {raw : String} (h : LeavesOpen (Token.ofText raw)) :
    ¬ Balanced raw.toList := by
  intro hbalanced
  obtain ⟨depth, hcompletes⟩ := h
  have hdepth : depth + 1 + (Token.ofText raw).count .closing =
      0 + (Token.ofText raw).count .opening := Counter.depth_after hcompletes
  obtain ⟨hopen, hclose⟩ := Token.count_of_parens (Token.filterMap_ofText raw)
  have hequal := hbalanced.equal
  omega

/-- Where a parenthesis closes no group, the text up to it closes more than it opens. -/
theorem not_balanced_of_closesNone {raw : String} (h : ClosesNone (Token.ofText raw)) :
    ¬ Balanced raw.toList := by
  intro hbalanced
  obtain ⟨before, rest, hsplit, hcompletes⟩ := h
  have hdepth : 0 + before.count .closing = 0 + before.count .opening :=
    Counter.depth_after hcompletes
  have hprefix : before ++ [.closing] <+: Token.ofText raw := by
    rw [hsplit]
    exact ⟨rest, by simp⟩
  obtain ⟨cs, hcs, hopen, hclose⟩ := Token.exists_prefix_counts hprefix
  have hordered := hbalanced.ordered cs hcs
  simp only [List.count_append, List.count_singleton, beq_self_eq_true, if_true,
    reduceCtorEq, beq_iff_eq, if_false, Nat.add_zero] at hopen hclose
  omega

/-! ### The report -/

theorem Malformed.message_eq_parentheses_iff {reason : Malformed} :
    reason.message = "missing parentheses" ↔ reason = .parentheses := by
  -- Every other message begins in another way.
  have hbegins : ∀ first rest : String, ¬ first.toList <+: "missing parentheses".toList →
      first ++ rest ≠ "missing parentheses" := by
    intro first rest hfirst heq
    refine hfirst ⟨rest.toList, ?_⟩
    rw [← heq, String.toList_append]
  constructor
  · intro h
    cases reason with
    | parentheses => rfl
    | caret => exact absurd h (by decide)
    | expectedTagAtEnd => exact absurd h (by decide)
    | missingOperator before =>
      rw [message_missingOperator, String.append_assoc] at h
      exact absurd h (hbegins _ _ (by decide))
    | expectedTag found =>
      rw [message_expectedTag, String.append_assoc] at h
      exact absurd h (hbegins _ _ (by decide))
  · rintro rfl
    rfl

theorem Expression.parse_eq_parentheses_iff {raw : String} :
    Expression.parse raw = .error .parentheses ↔
      '^' ∉ raw.toList ∧ (LeavesOpen (Token.ofText raw) ∨ ClosesNone (Token.ofText raw) ∨
        LacksOperator (Token.ofText raw)) := by
  rw [← Counter.run_eq_parentheses_iff, ← Tree.map_ofTokens, map_eq_error_iff]
  by_cases hcaret : '^' ∈ raw.toList
  · simp [Expression.parse_of_caret hcaret, hcaret]
  rw [Expression.parse_of_no_caret hcaret, and_iff_right hcaret]
  by_cases hnil : Token.ofText raw = []
  · -- A blank text is an expression, and no tokens are reported as an end too early.
    have hread : Tree.ofTokens [] = .error .expectedTagAtEnd := rfl
    rw [if_pos hnil, hnil, hread]
    simp
  · rw [if_neg hnil, map_eq_error_iff]

/-- **Missing parentheses are reported where an operator is missing in a group.** A text is
refused for missing parentheses when it leaves a group open, when a parenthesis closes none,
and when in an open group an operand follows another one; in no other case. The first two
are not balanced, so of balanced parentheses the report is made exactly in the third. -/
theorem missing_parentheses_iff (raw : String) :
    ((∃ reason, Expression.parse raw = .error reason ∧
        reason.message = "missing parentheses") ↔
      '^' ∉ raw.toList ∧ (LeavesOpen (Token.ofText raw) ∨ ClosesNone (Token.ofText raw) ∨
        LacksOperator (Token.ofText raw))) ∧
    ((∃ reason, Expression.parse raw = .error reason ∧
        reason.message = "missing parentheses") ∧ Balanced raw.toList ↔
      '^' ∉ raw.toList ∧ LacksOperator (Token.ofText raw) ∧ Balanced raw.toList) := by
  simp only [Malformed.message_eq_parentheses_iff, exists_eq_right,
    Expression.parse_eq_parentheses_iff, true_and]
  constructor
  · rintro ⟨⟨hcaret, hopen | hnone | hlacks⟩, hbalanced⟩
    · exact absurd hbalanced (not_balanced_of_leavesOpen hopen)
    · exact absurd hbalanced (not_balanced_of_closesNone hnone)
    · exact ⟨hcaret, hlacks, hbalanced⟩
  · rintro ⟨hcaret, hlacks, hbalanced⟩
    exact ⟨⟨hcaret, .inr (.inr hlacks)⟩, hbalanced⟩

/-- Parentheses may be reported as missing where each has its partner: here an operator is
missing in a group. -/
theorem balanced_reported_unbalanced :
    ¬ ∀ raw reason, Expression.parse raw = .error reason →
      reason.message = "missing parentheses" → ¬ Balanced raw.toList := by
  intro hunbalanced
  have hparse : Expression.parse "(smoke !slow)" = .error .parentheses := by
    decide +kernel
  refine hunbalanced _ _ hparse rfl ⟨by decide, ?_⟩
  intro before hbefore
  have hall : ∀ before ∈ "(smoke !slow)".toList.inits, before.count ')' ≤ before.count '(' := by
    decide +kernel
  exact hall before ((List.mem_inits _ _).mpr hbefore)

end Roster.Tag

import Mathlib.Data.List.Basic
import Roster.Proofs.Tag.Grammar

/-!
Expressions made of expressions.

Texts that spell expressions can be put together as texts: in parentheses, after a `!`, with `&`,
a comma or `|` between groups, and with `|` alone, which binds weakest. No part is read in
another way in the whole, so the value of the whole is found from those of the parts.

* `scan_canonical_append_mark` : a mark between two texts keeps their tokens apart, unless it
  extends a run of its kind.
* `derives_or_append` : a chain of alternatives behind another one makes one chain.
* `means_compound` : the texts that are put together, and what they mean.
-/

namespace Roster.Tag

open Roster.Text

/-! ### Tokens of texts put together -/

namespace Token

/-- An operator or parenthesis is neither blank nor a comma. -/
theorem mark_of_ofChar? {c : Char} {t : Token} (h : ofChar? c = some t) :
    isBlank c = false ∧ c ≠ ',' := by
  unfold ofChar? at h
  split at h
  case h_6 => cases h
  all_goals exact ⟨by decide, by decide⟩

/-- A mark between two texts keeps their tokens apart. -/
theorem scan_canonical_append_mark {c : Char} {t : Token} {as bs : List Char}
    (hmark : ofChar? c = some t)
    (hbefore : (canonical as).getLast? = some c → isRepeatable c = false)
    (hafter : (canonical bs).head? = some c → isRepeatable c = false) :
    scan (canonical (as ++ c :: bs)) = scan (canonical as) ++ t :: scan (canonical bs) := by
  obtain ⟨hblank, hcomma⟩ := mark_of_ofChar? hmark
  rw [canonical_append_mark hblank hcomma hbefore hafter]
  exact scanFrom_append_mark hmark [] (canonical as) (canonical bs)

theorem scan_canonical_mark {c : Char} {t : Token} {bs : List Char} (hmark : ofChar? c = some t)
    (hafter : (canonical bs).head? = some c → isRepeatable c = false) :
    scan (canonical (c :: bs)) = t :: scan (canonical bs) :=
  @scan_canonical_append_mark c t [] bs hmark nofun hafter

/-- The tokens of a group, with what follows it. -/
theorem scan_canonical_group (as bs : List Char) :
    scan (canonical ('(' :: (as ++ ')' :: bs))) =
      .opening :: (scan (canonical as) ++ .closing :: scan (canonical bs)) := by
  rw [scan_canonical_mark rfl fun _ => rfl,
    scan_canonical_append_mark rfl (fun _ => rfl) fun _ => rfl]

/-- An operator in front of a group is a token of its own. -/
theorem scan_canonical_before_group {c : Char} {t : Token} (hmark : ofChar? c = some t)
    (bs : List Char) :
    scan (canonical (c :: '(' :: bs)) = t :: scan (canonical ('(' :: bs)) := by
  refine scan_canonical_mark hmark ?_
  intro hhead
  rw [canonical_cons rfl (by decide), prepend_of_alone fun _ => rfl] at hhead
  cases hhead
  rfl

/-- A comma in front of a group is an `&`. -/
theorem scan_canonical_comma_before_group (bs : List Char) :
    scan (canonical (',' :: '(' :: bs)) = .and :: scan (canonical ('(' :: bs)) := by
  rw [canonical_comma_cons, scan_canonical_before_group rfl]

theorem ofText_group (x : String) :
    ofText ("(" ++ x ++ ")") = .opening :: (ofText x ++ [.closing]) := by
  have htext : ("(" ++ x ++ ")").toList = '(' :: (x.toList ++ ')' :: []) := by simp
  rw [ofText, htext, scan_canonical_group]
  rfl

theorem ofText_not_group (x : String) :
    ofText ("!(" ++ x ++ ")") = .not :: .opening :: (ofText x ++ [.closing]) := by
  have htext : ("!(" ++ x ++ ")").toList = '!' :: '(' :: (x.toList ++ ')' :: []) := by simp
  rw [ofText, htext, scan_canonical_before_group rfl, scan_canonical_group]
  rfl

/-- The tokens of two groups with a character in between that is read as the operator `t`. -/
theorem ofText_groups {c : Char} {t : Token} {between : String}
    (hbetween : between.toList = [')', c, '('])
    (hmark : ∀ cs, scan (canonical (c :: '(' :: cs)) = t :: scan (canonical ('(' :: cs)))
    (x y : String) : ofText ("(" ++ x ++ between ++ y ++ ")") =
      (.opening :: (ofText x ++ [.closing])) ++ t :: .opening :: (ofText y ++ [.closing]) := by
  have htext : ("(" ++ x ++ between ++ y ++ ")").toList =
      '(' :: (x.toList ++ ')' :: c :: '(' :: (y.toList ++ ')' :: [])) := by
    simp [hbetween]
  rw [ofText, htext, scan_canonical_group, hmark, scan_canonical_group, List.cons_append,
    List.append_assoc]
  rfl

/-- A `|` keeps the tokens apart of texts that do not have one there themselves. -/
theorem ofText_or {x y : String} (hbefore : (ofText x).getLast? ≠ some .or)
    (hafter : (ofText y).head? ≠ some .or) :
    ofText (x ++ "|" ++ y) = ofText x ++ .or :: ofText y := by
  have htext : (x ++ "|" ++ y).toList = x.toList ++ '|' :: y.toList := by simp
  rw [ofText, htext]
  apply scan_canonical_append_mark rfl
  · intro h
    exact absurd (getLast?_scan rfl h) hbefore
  · intro h
    exact absurd (head?_scan rfl h) hafter

end Token

/-! ### Derivations of token lists put together -/

/-- Derived tokens have no `|` at either end. -/
theorem derives_ends {part : Part} {ts : List Token} {tree : Tree} (h : Derives part ts tree) :
    ts.head? ≠ some .or ∧ ts.getLast? ≠ some .or := by
  induction h with
  | orFirst _ ih | andFirst _ ih | primary _ ih => exact ih
  | orMore hleft hright ihLeft ihRight | andMore hleft hright ihLeft ihRight =>
    obtain ⟨t, ts, rfl⟩ := List.exists_cons_of_ne_nil (derives_ne_nil hleft)
    obtain ⟨u, us, rfl⟩ := List.exists_cons_of_ne_nil (derives_ne_nil hright)
    refine ⟨ihLeft.1, ?_⟩
    rw [List.getLast?_append_cons, List.getLast?_cons_cons]
    exact ihRight.2
  | not h ih =>
    obtain ⟨t, ts, rfl⟩ := List.exists_cons_of_ne_nil (derives_ne_nil h)
    exact ⟨nofun, ih.2⟩
  | tag name => exact ⟨nofun, nofun⟩
  | group h ih =>
    refine ⟨nofun, ?_⟩
    rw [← List.cons_append, List.getLast?_concat]
    nofun

/-- A chain of alternatives behind another one makes one chain. It groups in another way than
the two do, and has the value of the two. -/
theorem derives_or_append {ts us : List Token} {left right : Tree} (hleft : Derives .or ts left) :
    Derives .or us right → ∃ tree, Derives .or (ts ++ .or :: us) tree ∧
      ∀ present, tree.holds present = (left.holds present || right.holds present)
  | .orFirst hright => ⟨.or left right, .orMore hleft hright, fun _ => rfl⟩
  | @Derives.orMore _ _ _ last hmore hlast => by
    obtain ⟨tree, hderives, hholds⟩ := derives_or_append hleft hmore
    refine ⟨.or tree last, ?_, ?_⟩
    · have hchain := Derives.orMore hderives hlast
      rwa [List.append_assoc, List.cons_append] at hchain
    · intro present
      rw [Tree.holds, hholds, Tree.holds, Bool.or_assoc]

theorem derives_group {ts : List Token} {tree : Tree} (h : Derives .or ts tree) :
    Derives .unary (.opening :: (ts ++ [.closing])) tree :=
  .primary (.group h)

/-! ### What texts mean -/

namespace Expression

/-- The text spells an expression that matches the sets of tags for which `meaning` is true. -/
def Means (raw : String) (meaning : TagSet → Bool) : Prop :=
  ∃ e, parse raw = .ok e ∧ ∀ tags, e.matchesTags tags = meaning tags

theorem means_of_derives {raw : String} {ts : List Token} {tree : Tree}
    (hcaret : '^' ∉ raw.toList) (hts : Token.ofText raw = ts) (h : Derives .or ts tree) :
    Means raw fun tags => tree.holds tags.has := by
  subst hts
  exact ⟨_, parse_eq_ok_iff.mpr ⟨hcaret, .inr ⟨tree, h, rfl⟩⟩, fun _ => rfl⟩

/-- A text that is not blank and spells an expression is derived, and its tree has the value of
the expression. -/
theorem exists_derives {raw : String} {e : Expression} (h : parse raw = .ok e)
    (htext : ∃ c ∈ raw.toList, isBlank c = false) :
    '^' ∉ raw.toList ∧ ∃ tree, Derives .or (Token.ofText raw) tree ∧
      e.matchesTags = fun tags => tree.holds tags.has := by
  obtain ⟨hcaret, ⟨hnil, -⟩ | ⟨tree, hderives, rfl⟩⟩ := parse_eq_ok_iff.mp h
  · obtain ⟨c, hc, hblank⟩ := htext
    rw [Token.ofText_eq_nil_iff.mp hnil c hc] at hblank
    cases hblank
  · exact ⟨hcaret, tree, hderives, rfl⟩

/-- A `!` before the parentheses around an expression turns what it means. -/
theorem means_not_group {raw : String} {e : Expression} (hparse : parse raw = .ok e)
    (htext : ∃ c ∈ raw.toList, isBlank c = false) :
    Means ("!(" ++ raw ++ ")") fun tags => !e.matchesTags tags := by
  obtain ⟨hcaret, tree, hderives, hmeans⟩ := exists_derives hparse htext
  rw [hmeans]
  have hnot := Derives.orFirst (.andFirst (.not (derives_group hderives)))
  exact means_of_derives (by simp [hcaret]) (Token.ofText_not_group raw) hnot

/-- **Expressions may be put together as texts.** Of two expressions that are not blank, the
first one in parentheses means the same, and with a `!` in front the contrary; the two in
parentheses with `&` or a comma in between mean both, and with `|` in between one of them at
least, for which the parentheses may be left out. -/
theorem means_compound {x y : String} {ex ey : Expression} (hx : parse x = .ok ex)
    (hy : parse y = .ok ey) (hxText : ∃ c ∈ x.toList, isBlank c = false)
    (hyText : ∃ c ∈ y.toList, isBlank c = false) :
    Means ("(" ++ x ++ ")") ex.matchesTags ∧
      Means ("!(" ++ x ++ ")") (fun tags => !ex.matchesTags tags) ∧
      Means ("(" ++ x ++ ")&(" ++ y ++ ")")
        (fun tags => ex.matchesTags tags && ey.matchesTags tags) ∧
      Means ("(" ++ x ++ "),(" ++ y ++ ")")
        (fun tags => ex.matchesTags tags && ey.matchesTags tags) ∧
      Means ("(" ++ x ++ ")|(" ++ y ++ ")")
        (fun tags => ex.matchesTags tags || ey.matchesTags tags) ∧
      Means (x ++ "|" ++ y) (fun tags => ex.matchesTags tags || ey.matchesTags tags) := by
  obtain ⟨hxCaret, left, hleft, hxMeans⟩ := exists_derives hx hxText
  obtain ⟨hyCaret, right, hright, hyMeans⟩ := exists_derives hy hyText
  rw [hxMeans, hyMeans]
  have hxGroup := derives_group hleft
  have hyGroup := derives_group hright
  have hand := Derives.orFirst (.andMore (.andFirst hxGroup) hyGroup)
  have hor := Derives.orMore (.orFirst (.andFirst hxGroup)) (.andFirst hyGroup)
  refine ⟨?_, ?_, ?_, ?_, ?_, ?_⟩
  · exact means_of_derives (by simp [hxCaret]) (Token.ofText_group x) (.orFirst (.andFirst hxGroup))
  · exact means_of_derives (by simp [hxCaret]) (Token.ofText_not_group x)
      (.orFirst (.andFirst (.not hxGroup)))
  · exact means_of_derives (by simp [hxCaret, hyCaret])
      (Token.ofText_groups rfl (Token.scan_canonical_before_group rfl) x y) hand
  · exact means_of_derives (by simp [hxCaret, hyCaret])
      (Token.ofText_groups rfl Token.scan_canonical_comma_before_group x y) hand
  · exact means_of_derives (by simp [hxCaret, hyCaret])
      (Token.ofText_groups rfl (Token.scan_canonical_before_group rfl) x y) hor
  · -- Without parentheses the alternatives of both are one chain.
    obtain ⟨tree, hderives, hholds⟩ := derives_or_append hleft hright
    have hmeans := means_of_derives (by simp [hxCaret, hyCaret])
      (Token.ofText_or (derives_ends hleft).2 (derives_ends hright).1) hderives
    simpa only [hholds] using hmeans

/-- Two texts with alternatives of their own, one with a truth word in it. -/
theorem means_compound_sample :
    ∃ ex ey, parse "smoke | !slow" = .ok ex ∧ parse "true | u i" = .ok ey ∧
      (∃ c ∈ "smoke | !slow".toList, isBlank c = false) ∧
      (∃ c ∈ "true | u i".toList, isBlank c = false) ∧
      Means ("(" ++ "smoke | !slow" ++ "),(" ++ "true | u i" ++ ")")
        (fun tags => ex.matchesTags tags && ey.matchesTags tags) ∧
      Means ("smoke | !slow" ++ "|" ++ "true | u i")
        (fun tags => ex.matchesTags tags || ey.matchesTags tags) := by
  have hx : parse "smoke | !slow" = .ok ⟨"smoke | !slow",
      some (.or (.tag "smoke") (.not (.tag "slow"))), ["smoke", "slow"]⟩ := by decide +kernel
  have hy : parse "true | u i" = .ok ⟨"true | u i",
      some (.or (.tag "\x7btrue\x7d") (.tag "ui")), ["\x7btrue\x7d", "ui"]⟩ := by decide +kernel
  have hxText : ∃ c ∈ "smoke | !slow".toList, isBlank c = false := ⟨'s', by decide, rfl⟩
  have hyText : ∃ c ∈ "true | u i".toList, isBlank c = false := ⟨'t', by decide, rfl⟩
  obtain ⟨-, -, -, hcomma, -, hor⟩ := means_compound hx hy hxText hyText
  exact ⟨_, _, hx, hy, hxText, hyText, hcomma, hor⟩

end Expression

end Roster.Tag

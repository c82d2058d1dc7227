import Roster.Tag.Token

/-!
The canonical text of a tag expression.

Canonical text loses blanks and the repetition of `&` and `|`, and a comma becomes an
`&`. It loses nothing else: it is empty only for a blank text, it has a caret only where
the text has one, and all other marks stay in their order (`filter_canonical`). Its tokens
cover it: a text that is not empty has a token.

It is made from the end of the text on (`prepend`), so a part of a text counts by its canonical
text alone (`canonical_append_congr`), and what stands on the two sides of a mark that extends no
run is made canonical, and split into tokens, apart from the other (`canonical_append_mark`,
`scanFrom_append_mark`).
-/

namespace Roster.Tag.Token

open Roster.Text

/-- The tokens of an expression. -/
def ofText (raw : String) : List Token :=
  scan (canonical raw.toList)

/-- Cutting runs down drops no character altogether. -/
@[simp] theorem mem_collapseRuns {c : Char} {cs : List Char} :
    c ∈ collapseRuns cs ↔ c ∈ cs := by
  fun_induction collapseRuns cs with
  | case1 a b cs hrun ih =>
    obtain ⟨hab, -⟩ : a = b ∧ isRepeatable a = true := by simpa using hrun
    rw [ih, hab]
    simp
  | case2 a b cs hrun ih => rw [List.mem_cons, ih, List.mem_cons (a := c) (b := a)]
  | case3 cs hshort => rfl

theorem mem_canonical {c : Char} {raw : List Char} :
    c ∈ canonical raw ↔ ∃ d ∈ raw, isBlank d = false ∧ (if d = ',' then '&' else d) = c := by
  simp [canonical, squeezeChars, and_assoc]

theorem isBlank_of_mem_canonical {c : Char} {raw : List Char} (h : c ∈ canonical raw) :
    isBlank c = false := by
  obtain ⟨d, -, hblank, hread⟩ := mem_canonical.mp h
  split at hread
  · rw [← hread]
    rfl
  · rwa [← hread]

/-- Canonical text has a caret only where the text has one. -/
theorem caret_mem_canonical_iff {raw : List Char} : '^' ∈ canonical raw ↔ '^' ∈ raw := by
  rw [mem_canonical]
  constructor
  · rintro ⟨d, hd, -, hcaret⟩
    split at hcaret
    · exact absurd hcaret (by decide)
    · rwa [← hcaret]
  · intro h
    exact ⟨'^', h, by decide, by decide⟩

/-- Only a blank text has an empty canonical text. -/
theorem canonical_eq_nil_iff {raw : List Char} :
    canonical raw = [] ↔ ∀ c ∈ raw, isBlank c = true := by
  rw [List.eq_nil_iff_forall_not_mem]
  constructor
  · intro h c hc
    cases hblank : isBlank c with
    | true => rfl
    | false => exact absurd (mem_canonical.mpr ⟨c, hc, hblank, rfl⟩) (h _)
  · intro h c hc
    obtain ⟨d, hd, hblank, -⟩ := mem_canonical.mp hc
    rw [h d hd] at hblank
    cases hblank

/-! ### Character by character -/

/-- A character in front of canonical text, where it may only repeat the mark that stands
there. -/
def prepend (c : Char) (cs : List Char) : List Char :=
  if cs.head? = some c ∧ isRepeatable c = true then cs else c :: cs

theorem prepend_of_alone {c : Char} {cs : List Char}
    (h : cs.head? = some c → isRepeatable c = false) : prepend c cs = c :: cs := by
  unfold prepend
  rw [if_neg]
  rintro ⟨hhead, hrepeat⟩
  rw [h hhead] at hrepeat
  cases hrepeat

@[simp] theorem prepend_prepend {c : Char} (h : isRepeatable c = true) (cs : List Char) :
    prepend c (prepend c cs) = prepend c cs := by
  have hhead : (prepend c cs).head? = some c := by
    unfold prepend
    split
    · rename_i hrun
      exact hrun.1
    · rfl
  rw [prepend, if_pos ⟨hhead, h⟩]

@[simp] theorem head?_collapseRuns (cs : List Char) : (collapseRuns cs).head? = cs.head? := by
  fun_induction collapseRuns cs with
  | case1 a b cs hrun ih =>
    obtain ⟨rfl, -⟩ : a = b ∧ isRepeatable a = true := by simpa using hrun
    rw [ih]
    rfl
  | case2 a b cs hrun ih => rfl
  | case3 cs hshort => rfl

theorem collapseRuns_cons (c : Char) (cs : List Char) :
    collapseRuns (c :: cs) = prepend c (collapseRuns cs) := by
  unfold prepend
  rw [head?_collapseRuns]
  cases cs with
  | nil => rfl
  | cons d cs =>
    rw [collapseRuns, List.head?_cons]
    by_cases hrun : c = d ∧ isRepeatable c = true
    · obtain ⟨rfl, hrepeat⟩ := hrun
      rw [if_pos (by simp [hrepeat]), if_pos ⟨rfl, hrepeat⟩]
    · rw [if_neg (by simpa using hrun), if_neg]
      rintro ⟨hd, hrepeat⟩
      exact hrun ⟨(Option.some.inj hd).symm, hrepeat⟩

theorem canonical_blank_cons {c : Char} (h : isBlank c = true) (cs : List Char) :
    canonical (c :: cs) = canonical cs := by
  simp [canonical, squeezeChars, h]

theorem canonical_comma_cons (cs : List Char) : canonical (',' :: cs) = canonical ('&' :: cs) :=
  rfl

theorem canonical_cons {c : Char} (hblank : isBlank c = false) (hcomma : c ≠ ',')
    (cs : List Char) : canonical (c :: cs) = prepend c (canonical cs) := by
  rw [canonical, squeezeChars, List.filter_cons_of_pos (by simp [hblank]), List.map_cons,
    collapseRuns_cons, if_neg (by simpa using hcomma)]
  rfl

/-- What follows a character counts by its canonical text alone. -/
theorem canonical_cons_congr {bs bs' : List Char} (h : canonical bs = canonical bs') (c : Char) :
    canonical (c :: bs) = canonical (c :: bs') := by
  cases hblank : isBlank c with
  | true => rw [canonical_blank_cons hblank, canonical_blank_cons hblank, h]
  | false =>
    by_cases hcomma : c = ','
    · rw [hcomma, canonical_comma_cons, canonical_comma_cons, canonical_cons rfl (by decide),
        canonical_cons rfl (by decide), h]
    · rw [canonical_cons hblank hcomma, canonical_cons hblank hcomma, h]

theorem canonical_append_congr {bs bs' : List Char} (h : canonical bs = canonical bs')
    (as : List Char) : canonical (as ++ bs) = canonical (as ++ bs') := by
  induction as with
  | nil => exact h
  | cons a as ih => exact canonical_cons_congr ih a

@[simp] theorem getLast?_collapseRuns (cs : List Char) :
    (collapseRuns cs).getLast? = cs.getLast? := by
  fun_induction collapseRuns cs with
  | case1 a b cs hrun ih => rw [ih, List.getLast?_cons_cons]
  | case2 a b cs hrun ih => rw [List.getLast?_cons, ih, ← List.getLast?_cons]
  | case3 cs hshort => rfl

theorem prepend_append {xs : List Char} (h : xs ≠ []) (c : Char) (ys : List Char) :
    prepend c (xs ++ ys) = prepend c xs ++ ys := by
  have hhead : (xs ++ ys).head? = xs.head? := by
    cases xs with
    | nil => exact absurd rfl h
    | cons x xs => rfl
  unfold prepend
  rw [hhead]
  split
  · rfl
  · rfl

/-- A mark that extends no run on either side is no part of one. -/
theorem collapseRuns_append_cons {c : Char} {as bs : List Char}
    (hbefore : as.getLast? = some c → isRepeatable c = false)
    (hafter : bs.head? = some c → isRepeatable c = false) :
    collapseRuns (as ++ c :: bs) = collapseRuns as ++ c :: collapseRuns bs := by
  have hmark : collapseRuns (c :: bs) = c :: collapseRuns bs := by
    rw [collapseRuns_cons, prepend_of_alone]
    rwa [head?_collapseRuns]
  induction as with
  | nil => exact hmark
  | cons a as ih =>
    rw [List.cons_append, collapseRuns_cons, collapseRuns_cons]
    cases as with
    | nil =>
      rw [List.nil_append, hmark, prepend_of_alone]
      · rfl
      · intro hhead
        cases hhead
        exact hbefore rfl
    | cons b as =>
      rw [ih (by rwa [List.getLast?_cons_cons] at hbefore), prepend_append]
      intro hnil
      have hmem := mem_collapseRuns.mpr (List.mem_cons_self (a := b) (l := as))
      rw [hnil] at hmem
      cases hmem

/-- A mark that extends no run on either side stands in the canonical text as it is. -/
theorem canonical_append_mark {c : Char} {as bs : List Char} (hblank : isBlank c = false)
    (hcomma : c ≠ ',') (hbefore : (canonical as).getLast? = some c → isRepeatable c = false)
    (hafter : (canonical bs).head? = some c → isRepeatable c = false) :
    canonical (as ++ c :: bs) = canonical as ++ c :: canonical bs := by
  unfold canonical at hbefore hafter ⊢
  rw [getLast?_collapseRuns] at hbefore
  rw [head?_collapseRuns] at hafter
  have hkept : squeezeChars (c :: bs) = c :: squeezeChars bs :=
    List.filter_cons_of_pos (by simp [hblank])
  rw [squeezeChars_append, hkept, List.map_append, List.map_cons, if_neg (by simpa using hcomma),
    collapseRuns_append_cons hbefore hafter]

/-! ### Marks that stay -/

/-- Cutting runs down leaves the characters alone that do not repeat. -/
theorem filter_collapseRuns {p : Char → Bool} (hand : p '&' = false) (hor : p '|' = false)
    (cs : List Char) : (collapseRuns cs).filter p = cs.filter p := by
  fun_induction collapseRuns cs with
  | case1 a b cs hrun ih =>
    obtain ⟨rfl, hrepeat⟩ : a = b ∧ isRepeatable a = true := by simpa using hrun
    have hp : p a = false := by
      rcases (by simpa [isRepeatable] using hrepeat : a = '&' ∨ a = '|') with rfl | rfl
      · exact hand
      · exact hor
    rw [ih, List.filter_cons_of_neg (a := a) (l := a :: cs) (by simp [hp])]
  | case2 a b cs hrun ih => rw [List.filter_cons, List.filter_cons (x := a), ih]
  | case3 cs hshort => rfl

/-- What is neither blank nor a comma nor part of a run stays in the canonical text, in the
order of the text. -/
theorem filter_canonical {p : Char → Bool} (hblank : ∀ c, p c = true → isBlank c = false)
    (hcomma : p ',' = false) (hand : p '&' = false) (hor : p '|' = false) (raw : List Char) :
    (canonical raw).filter p = raw.filter p := by
  have hsqueeze : (squeezeChars raw).filter p = raw.filter p := by
    rw [squeezeChars, List.filter_filter]
    apply List.filter_congr
    intro c _
    cases hp : p c with
    | false => rfl
    | true => rw [hblank c hp]; rfl
  have hcommas : ∀ cs : List Char,
      (cs.map fun c => if c == ',' then '&' else c).filter p = cs.filter p := by
    intro cs
    induction cs with
    | nil => rfl
    | cons c cs ih =>
      rw [List.map_cons, List.filter_cons, List.filter_cons, ih]
      by_cases hc : c = ','
      · simp [hc, hcomma, hand]
      · simp [hc]
  rw [canonical, filter_collapseRuns hand hor, hcommas, hsqueeze]

/-- A character that is neither blank nor a comma nor part of a run stays where it is. -/
theorem count_canonical {c : Char} (hblank : isBlank c = false) (hcomma : c ≠ ',')
    (hrepeat : isRepeatable c = false) (raw : List Char) :
    (canonical raw).count c = raw.count c := by
  obtain ⟨hand, hor⟩ : c ≠ '&' ∧ c ≠ '|' := by simpa [isRepeatable] using hrepeat
  have hkeep := filter_canonical (p := (· == c)) (fun d hd => by rwa [beq_iff_eq.mp hd])
    (beq_false_of_ne hcomma.symm) (beq_false_of_ne hand.symm) (beq_false_of_ne hor.symm) raw
  rw [List.count_eq_length_filter, List.count_eq_length_filter, hkeep]

/-! ### Tokens -/

theorem ofWord_eq_nil_iff {word : List Char} : ofWord word = [] ↔ word = [] := by
  simp [ofWord]

theorem scanFrom_nil (word : List Char) : scanFrom word [] = ofWord word :=
  rfl

/-- An operator ends the word in front of it. -/
theorem scanFrom_cons_mark {c : Char} {t : Token} (h : ofChar? c = some t)
    (word cs : List Char) : scanFrom word (c :: cs) = ofWord word ++ t :: scan cs := by
  rw [scanFrom, h]
  rfl

/-- What is no operator goes on with the word. -/
theorem scanFrom_cons_plain {c : Char} (h : ofChar? c = none) (word cs : List Char) :
    scanFrom word (c :: cs) = scanFrom (word ++ [c]) cs := by
  rw [scanFrom, h]

/-- Nothing but the empty text after no word at all has no tokens. -/
theorem scanFrom_eq_nil_iff {word cs : List Char} :
    scanFrom word cs = [] ↔ word = [] ∧ cs = [] := by
  induction cs generalizing word with
  | nil => simp [scanFrom_nil, ofWord_eq_nil_iff]
  | cons c cs ih =>
    cases hc : ofChar? c with
    | some t => simp [scanFrom_cons_mark hc]
    | none => simp [scanFrom_cons_plain hc, ih]

/-- An expression has no tokens when it is blank, and only then. -/
theorem ofText_eq_nil_iff {raw : String} :
    ofText raw = [] ↔ ∀ c ∈ raw.toList, isBlank c = true := by
  rw [ofText, scan, scanFrom_eq_nil_iff, canonical_eq_nil_iff]
  simp

/-- A text without operators is one word. -/
theorem scanFrom_of_plain {cs : List Char} (h : ∀ c ∈ cs, ofChar? c = none) (word : List Char) :
    scanFrom word cs = ofWord (word ++ cs) := by
  induction cs generalizing word with
  | nil => rw [scanFrom_nil, List.append_nil]
  | cons c cs ih =>
    obtain ⟨hc, hcs⟩ := List.forall_mem_cons.mp h
    rw [scanFrom_cons_plain hc, ih hcs, List.append_assoc, List.singleton_append]

/-- An operator is written as its character. -/
theorem toList_text_of_ofChar? {c : Char} {t : Token} (h : ofChar? c = some t) :
    t.text.toList = [c] := by
  unfold ofChar? at h
  split at h
  case h_6 => cases h
  all_goals
    cases h
    rfl

/-- Different characters are different operators. -/
theorem ofChar?_inj {c d : Char} {t : Token} (hc : ofChar? c = some t) (hd : ofChar? d = some t) :
    c = d := by
  have hsame := toList_text_of_ofChar? hc
  rw [toList_text_of_ofChar? hd] at hsame
  exact (List.head_eq_of_cons_eq hsame).symm

/-- No operator is a name. -/
theorem ofChar?_ne_tag (c : Char) (name : String) : ofChar? c ≠ some (.tag name) := by
  unfold ofChar?
  split <;> simp

theorem tag_mem_ofWord {name : String} {word : List Char} (h : .tag name ∈ ofWord word) :
    word ≠ [] ∧ name = .ofList (shield word) := by
  unfold ofWord at h
  split at h
  · cases h
  · rename_i hne
    exact ⟨by simpa using hne, Token.tag.inj (List.mem_singleton.mp h)⟩

/-- A name among the tokens of a text is a word of the text, without operators, that is
shielded. -/
theorem exists_word_of_mem_scanFrom {name : String} {word cs : List Char}
    (h : .tag name ∈ scanFrom word cs) : ∃ w, w ≠ [] ∧ name = .ofList (shield w) ∧
      ∀ c ∈ w, c ∈ word ∨ (c ∈ cs ∧ ofChar? c = none) := by
  induction cs generalizing word with
  | nil =>
    obtain ⟨hne, hname⟩ := tag_mem_ofWord h
    exact ⟨word, hne, hname, fun c hc => .inl hc⟩
  | cons c cs ih =>
    cases hc : ofChar? c with
    | some t =>
      rw [scanFrom_cons_mark hc, List.mem_append, List.mem_cons] at h
      rcases h with hend | rfl | hmore
      · obtain ⟨hne, hname⟩ := tag_mem_ofWord hend
        exact ⟨word, hne, hname, fun c hc => .inl hc⟩
      · exact absurd hc (ofChar?_ne_tag c name)
      · obtain ⟨w, hne, hname, hw⟩ := ih hmore
        refine ⟨w, hne, hname, ?_⟩
        intro d hd
        rcases hw d hd with hnil | ⟨hmem, hplain⟩
        · cases hnil
        · exact .inr ⟨List.mem_cons_of_mem c hmem, hplain⟩
    | none =>
      rw [scanFrom_cons_plain hc] at h
      obtain ⟨w, hne, hname, hw⟩ := ih h
      refine ⟨w, hne, hname, ?_⟩
      intro d hd
      rcases hw d hd with hmem | ⟨hmem, hplain⟩
      · rcases List.mem_append.mp hmem with hmem | hlast
        · exact .inl hmem
        · obtain rfl := List.mem_singleton.mp hlast
          exact .inr ⟨List.mem_cons_self, hc⟩
      · exact .inr ⟨List.mem_cons_of_mem c hmem, hplain⟩

/-- The tokens on the two sides of an operator are found apart from each other. -/
theorem scanFrom_append_mark {c : Char} {t : Token} (h : ofChar? c = some t)
    (word as bs : List Char) :
    scanFrom word (as ++ c :: bs) = scanFrom word as ++ t :: scan bs := by
  induction as generalizing word with
  | nil => rw [List.nil_append, scanFrom_cons_mark h, scanFrom_nil]
  | cons a as ih =>
    rw [List.cons_append]
    cases ha : ofChar? a with
    | none => rw [scanFrom_cons_plain ha, scanFrom_cons_plain ha, ih]
    | some u =>
      rw [scanFrom_cons_mark ha, scanFrom_cons_mark ha, scan, ih, List.append_assoc]
      rfl

/-- A text has an operator as often as its tokens. -/
theorem count_scanFrom {c : Char} {t : Token} (h : ofChar? c = some t) (word cs : List Char) :
    (scanFrom word cs).count t = cs.count c := by
  have hword : ∀ word, (ofWord word).count t = 0 := by
    intro word
    refine List.count_eq_zero.mpr fun hmem => ?_
    unfold ofWord at hmem
    split at hmem
    · cases hmem
    · rw [List.mem_singleton.mp hmem] at h
      exact ofChar?_ne_tag c _ h
  induction cs generalizing word with
  | nil => exact hword word
  | cons d cs ih =>
    cases hd : ofChar? d with
    | none =>
      have hne : d ≠ c := by
        rintro rfl
        rw [h] at hd
        cases hd
      rw [scanFrom_cons_plain hd, List.count_cons_of_ne hne, ih]
    | some u =>
      have hsame : u = t ↔ d = c := by
        constructor
        · rintro rfl
          exact ofChar?_inj hd h
        · rintro rfl
          exact Option.some.inj (hd.symm.trans h)
      rw [scanFrom_cons_mark hd, List.count_append, hword, Nat.zero_add, List.count_cons,
        List.count_cons, scan, ih]
      simp only [beq_iff_eq, hsame]

theorem head?_scan {c : Char} {t : Token} {cs : List Char} (hmark : ofChar? c = some t)
    (h : cs.head? = some c) : (scan cs).head? = some t := by
  obtain ⟨cs, rfl⟩ := List.head?_eq_some_iff.mp h
  rw [scan, ← List.nil_append (c :: cs), scanFrom_append_mark hmark]
  rfl

theorem getLast?_scan {c : Char} {t : Token} {cs : List Char} (hmark : ofChar? c = some t)
    (h : cs.getLast? = some c) : (scan cs).getLast? = some t := by
  obtain ⟨cs, rfl⟩ := List.getLast?_eq_some_iff.mp h
  rw [scan, scanFrom_append_mark hmark]
  exact List.getLast?_concat

end Roster.Tag.Token

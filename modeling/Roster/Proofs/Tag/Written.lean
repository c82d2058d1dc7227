import Mathlib.Data.List.Chain
import Roster.Proofs.Tag.Name

/-!
Tokens written out.

The texts of the tokens of an expression, one after another, make the canonical text of the
expression with every truth word in braces (`BracedWords`). That is canonical text again
(`IsCanonical`), and its words are those of the tokens, as nothing is shielded twice. So what is
written out is read back.

* `bracedWords_iff` : written out, the tokens of a text are the text with its truth words in
  braces.
* `written_ofText` : the tokens of an expression, written out, are canonical text, and are read
  back with the same operands.
-/

namespace Roster.Tag.Token

open Roster.Text

/-- Tokens as they are written, one after another. -/
def written (ts : List Token) : String :=
  String.join (ts.map text)

/-! ### Canonical text -/

/-- Side by side the two characters make no run. -/
def Apart (c d : Char) : Prop :=
  c = d → isRepeatable c = false

/-- The text has no blank, no comma, and no run of `&` or of `|`. -/
structure IsCanonical (cs : List Char) : Prop where
  blank : ∀ c ∈ cs, isBlank c = false
  comma : ',' ∉ cs
  runs : cs.IsChain Apart

/-- Such a text is its own canonical text. -/
theorem canonical_eq_self {cs : List Char} (h : IsCanonical cs) : canonical cs = cs := by
  obtain ⟨hblank, hcomma, hruns⟩ := h
  induction cs with
  | nil => rfl
  | cons c cs ih =>
    obtain ⟨hc, hblank⟩ := List.forall_mem_cons.mp hblank
    obtain ⟨hne, hcomma⟩ := not_or.mp (List.mem_cons.not.mp hcomma)
    obtain ⟨hnext, hruns⟩ := List.isChain_cons.mp hruns
    rw [canonical_cons hc (Ne.symm hne), ih hblank hcomma hruns, prepend_of_alone]
    intro hhead
    exact hnext c hhead rfl

theorem isChain_collapseRuns (cs : List Char) : (collapseRuns cs).IsChain Apart := by
  induction cs with
  | nil => exact .nil
  | cons c cs ih =>
    rw [collapseRuns_cons, prepend]
    split
    · exact ih
    · rename_i halone
      refine List.isChain_cons.mpr ⟨?_, ih⟩
      rintro d hd rfl
      exact Bool.eq_false_iff.mpr fun hrepeat => halone ⟨hd, hrepeat⟩

/-- Canonical texts are such texts. -/
theorem isCanonical_canonical (raw : List Char) : IsCanonical (canonical raw) where
  blank _ := isBlank_of_mem_canonical
  comma h := by
    obtain ⟨d, -, -, hread⟩ := mem_canonical.mp h
    split at hread
    · exact absurd hread (by decide)
    · contradiction
  runs := isChain_collapseRuns _

/-! ### Words in braces -/

/-- A word that reads as a truth value is shown in braces, and any other as it is. -/
def ShownAs (word shown : List Char) : Prop :=
  if .ofList word ∈ truthWords then shown = '{' :: word ++ ['}'] else shown = word

/-- No operator and no parenthesis is among the characters. -/
def IsPlain (cs : List Char) : Prop :=
  ∀ c ∈ cs, ofChar? c = none

/-- The second text is the first one with its truth words in braces. The words of a text are what
its operators and parentheses leave between them. -/
inductive BracedWords : List Char → List Char → Prop where
  | word {word shown : List Char} :
      IsPlain word → ShownAs word shown → BracedWords word shown
  | mark {word shown cs ds : List Char} {c : Char} {t : Token} :
      IsPlain word → ShownAs word shown → ofChar? c = some t → BracedWords cs ds →
        BracedWords (word ++ c :: cs) (shown ++ c :: ds)

theorem shownAs_iff {word shown : List Char} : ShownAs word shown ↔ shown = shield word := by
  unfold ShownAs
  split
  · rename_i htruth
    rw [shield_of_mem htruth]
    rfl
  · rename_i htruth
    rw [shield_of_notMem htruth]

theorem isPlain_nil : IsPlain [] :=
  List.forall_mem_nil _

theorem isPlain_shield {word : List Char} (h : IsPlain word) : IsPlain (shield word) :=
  forall_mem_shield rfl rfl h

theorem notMem_of_isPlain {cs : List Char} (h : IsPlain cs) {c : Char} {t : Token}
    (hmark : ofChar? c = some t) : c ∉ cs := by
  intro hc
  rw [h c hc] at hmark
  cases hmark

theorem apart_of_isPlain {cs : List Char} (h : IsPlain cs) {c : Char} (hc : c ∈ cs) (d : Char) :
    Apart c d := by
  intro _
  rw [Bool.eq_false_iff]
  intro hrepeat
  rcases (by simpa [isRepeatable] using hrepeat : c = '&' ∨ c = '|') with rfl | rfl
  · cases h _ hc
  · cases h _ hc

theorem isChain_of_isPlain {cs : List Char} (h : IsPlain cs) : cs.IsChain Apart :=
  (List.pairwise_of_forall_mem_list fun _ hc d _ => apart_of_isPlain h hc d).isChain

section BracedWords

variable {cs ds : List Char}

/-- With its truth words in braces a text has its own characters and braces. -/
theorem BracedWords.mem {c : Char} (h : BracedWords cs ds) (hc : c ∈ ds) :
    c ∈ cs ∨ c = '{' ∨ c = '}' := by
  induction h with
  | word _ hshown =>
    obtain rfl := shownAs_iff.mp hshown
    exact mem_of_mem_shield hc
  | mark _ hshown _ _ ih =>
    obtain rfl := shownAs_iff.mp hshown
    rcases List.mem_append.mp hc with hword | hrest
    · exact (mem_of_mem_shield hword).imp_left (List.mem_append_left _)
    · rcases List.mem_cons.mp hrest with rfl | hrest
      · exact .inl (List.mem_append_right _ List.mem_cons_self)
      · exact (ih hrest).imp_left fun hmem => List.mem_append_right _ (List.mem_cons_of_mem _ hmem)

/-- It begins with an operator only where the text does. -/
theorem BracedWords.head?_eq {c : Char} {t : Token} (h : BracedWords cs ds)
    (hmark : ofChar? c = some t) (hhead : ds.head? = some c) : cs.head? = some c := by
  cases h with
  | word hplain hshown =>
    obtain rfl := shownAs_iff.mp hshown
    have hnone := notMem_of_isPlain (isPlain_shield hplain) hmark
    exact absurd (List.mem_of_mem_head? hhead) hnone
  | @mark word _ _ _ _ _ hplain hshown _ _ =>
    obtain rfl := shownAs_iff.mp hshown
    have hnone := notMem_of_isPlain (isPlain_shield hplain) hmark
    by_cases hnil : word = []
    · subst hnil
      exact hhead
    · rw [List.head?_append_of_ne_nil _ (shield_ne_nil hnil)] at hhead
      exact absurd (List.mem_of_mem_head? hhead) hnone

/-- Braces extend no run. -/
theorem BracedWords.runs (h : BracedWords cs ds) (hruns : cs.IsChain Apart) :
    ds.IsChain Apart := by
  induction h with
  | word hplain hshown =>
    obtain rfl := shownAs_iff.mp hshown
    exact isChain_of_isPlain (isPlain_shield hplain)
  | mark hplain hshown hmark hrest ih =>
    obtain rfl := shownAs_iff.mp hshown
    have hword := isPlain_shield hplain
    obtain ⟨-, hruns, -⟩ := List.isChain_append.mp hruns
    obtain ⟨hnext, hruns⟩ := List.isChain_cons.mp hruns
    refine List.isChain_append.mpr
      ⟨isChain_of_isPlain hword, List.isChain_cons.mpr ⟨?_, ih hruns⟩, ?_⟩
    · rintro d hd rfl
      exact hnext _ (hrest.head?_eq hmark hd) rfl
    · intro d hd e _
      exact apart_of_isPlain hword (List.mem_of_getLast? hd) e

theorem BracedWords.isCanonical (h : BracedWords cs ds) (hcanonical : IsCanonical cs) :
    IsCanonical ds where
  blank c hc := by
    rcases h.mem hc with hc | rfl | rfl
    · exact hcanonical.blank c hc
    · rfl
    · rfl
  comma hc := by
    rcases h.mem hc with hc | hc | hc
    · exact hcanonical.comma hc
    · exact absurd hc (by decide)
    · exact absurd hc (by decide)
  runs := h.runs hcanonical.runs

/-- Braces change no token, as a truth word has them in its token anyway. -/
theorem BracedWords.scan_eq (h : BracedWords cs ds) : scan ds = scan cs := by
  induction h with
  | @word word _ hplain hshown =>
    obtain rfl := shownAs_iff.mp hshown
    rw [scan, scan, scanFrom_of_plain hplain, scanFrom_of_plain (isPlain_shield hplain),
      List.nil_append, List.nil_append, ofWord_shield]
  | @mark word _ _ _ _ _ hplain hshown hmark _ ih =>
    obtain rfl := shownAs_iff.mp hshown
    rw [scan, scan, scanFrom_append_mark hmark, scanFrom_append_mark hmark,
      scanFrom_of_plain hplain, scanFrom_of_plain (isPlain_shield hplain), List.nil_append,
      List.nil_append, ofWord_shield, ih]

end BracedWords

/-! ### Tokens written out -/

theorem toList_written (ts : List Token) :
    (written ts).toList = ts.flatMap fun t => t.text.toList := by
  rw [written, String.toList_join, List.flatMap_map]

theorem toList_written_ofWord (word : List Char) :
    (written (ofWord word)).toList = shield word := by
  rw [toList_written, ofWord]
  split
  · rename_i hnil
    rw [List.isEmpty_iff.mp hnil]
    rfl
  · simp [text]

/-- A word and the operator after it, written out. -/
theorem toList_written_mark {c : Char} {t : Token} (hmark : ofChar? c = some t)
    (word : List Char) (ts : List Token) :
    (written (ofWord word ++ t :: ts)).toList = shield word ++ c :: (written ts).toList := by
  rw [toList_written, List.flatMap_append, List.flatMap_cons, ← toList_written, ← toList_written,
    toList_written_ofWord, toList_text_of_ofChar? hmark]
  rfl

theorem bracedWords_written {word : List Char} (hplain : IsPlain word) (cs : List Char) :
    BracedWords (word ++ cs) (written (scanFrom word cs)).toList := by
  induction cs generalizing word with
  | nil =>
    rw [List.append_nil, scanFrom_nil, toList_written_ofWord]
    exact .word hplain (shownAs_iff.mpr rfl)
  | cons c cs ih =>
    cases hc : ofChar? c with
    | some t =>
      rw [scanFrom_cons_mark hc, toList_written_mark hc]
      exact .mark hplain (shownAs_iff.mpr rfl) hc (ih isPlain_nil)
    | none =>
      have hlonger : IsPlain (word ++ [c]) :=
        List.forall_mem_append.mpr ⟨hplain, List.forall_mem_singleton.mpr hc⟩
      rw [scanFrom_cons_plain hc, List.append_cons]
      exact ih hlonger

/-- Written out, the tokens of a text are the text with its truth words in braces, and nothing
else is. -/
theorem bracedWords_iff {cs ds : List Char} :
    BracedWords cs ds ↔ ds = (written (scan cs)).toList := by
  constructor
  · intro h
    induction h with
    | @word word _ hplain hshown =>
      obtain rfl := shownAs_iff.mp hshown
      rw [scan, scanFrom_of_plain hplain, List.nil_append, toList_written_ofWord]
    | @mark word _ _ _ _ _ hplain hshown hmark _ ih =>
      obtain rfl := shownAs_iff.mp hshown
      rw [scan, scanFrom_append_mark hmark, scanFrom_of_plain hplain, List.nil_append,
        toList_written_mark hmark, ih]
  · rintro rfl
    exact bracedWords_written isPlain_nil cs

/-- **What is written out is read back.** Let the tokens of an expression be written out, one
after another. The text is its own canonical text, it has the same tokens and the same operands,
and it is the canonical text of the expression but for the braces around its truth words. -/
theorem written_ofText (raw : String) :
    canonical (written (ofText raw)).toList = (written (ofText raw)).toList ∧
      scan (written (ofText raw)).toList = ofText raw ∧
      names (scan (written (ofText raw)).toList) = names (ofText raw) ∧
      ∀ text, BracedWords (canonical raw.toList) text ↔ text = (written (ofText raw)).toList := by
  have hbraced : BracedWords (canonical raw.toList) (written (ofText raw)).toList :=
    bracedWords_iff.mpr rfl
  have hscan : scan (written (ofText raw)).toList = ofText raw := hbraced.scan_eq
  refine ⟨?_, hscan, ?_, fun text => bracedWords_iff⟩
  · exact canonical_eq_self (hbraced.isCanonical (isCanonical_canonical raw.toList))
  · rw [hscan]

example : written (ofText "smoke test , !(true || ui)") = "smoketest&!(\x7btrue\x7d|ui)" := by
  decide +kernel

end Roster.Tag.Token

import Mathlib.Logic.Relation
import Roster.Fault.Basic
import Roster.Proofs.Tag.Grammar

/-!
Other spellings of an expression.

Blanks may stand anywhere or nowhere, a comma is another `&`, and an operator `&` or `|` may be
written more than once. `Respelled` relates two texts that one such change tells apart.

* `canonical_respelled` : no change reaches the canonical text, so neither does a chain of them.
* `readAlike_of_respelled` : texts that are linked by changes of spelling are read as one
  expression, or refused for one reason; each of them is named in its own words.
-/

namespace Roster.Tag

open Roster.Text

/-- The characters that spell the operator `&`. -/
def spellsAnd (c : Char) : Bool :=
  c == '&' || c == ','

/-- The characters that spell the operator `|`. -/
def spellsOr (c : Char) : Bool :=
  c == '|'

/-- The characters spell an operator once or more, and have nothing else but blanks. -/
structure IsRun (spells : Char → Bool) (run : List Char) : Prop where
  once : ∃ c ∈ run, spells c = true
  only : ∀ c ∈ run, spells c = true ∨ isBlank c = true

/-- The second text is the first one with one change of spelling. -/
inductive Respelled : List Char → List Char → Prop where
  /-- A blank more. -/
  | insertBlank (before after : List Char) {c : Char} :
      isBlank c = true → Respelled (before ++ after) (before ++ c :: after)
  /-- A blank less. -/
  | deleteBlank (before after : List Char) {c : Char} :
      isBlank c = true → Respelled (before ++ c :: after) (before ++ after)
  /-- A comma for an `&`, or an `&` for a comma. -/
  | exchange (before after : List Char) {c d : Char} :
      spellsAnd c = true → spellsAnd d = true →
        Respelled (before ++ c :: after) (before ++ d :: after)
  /-- A run of `&` and commas for one of them. -/
  | lengthenAnd (before after : List Char) {c : Char} {run : List Char} :
      spellsAnd c = true → IsRun spellsAnd run →
        Respelled (before ++ c :: after) (before ++ (run ++ after))
  /-- A run of `|` for one of them. -/
  | lengthenOr (before after : List Char) {c : Char} {run : List Char} :
      spellsOr c = true → IsRun spellsOr run →
        Respelled (before ++ c :: after) (before ++ (run ++ after))

/-! ### Canonical text -/

namespace Token

theorem canonical_blanks_append {blanks : List Char} (h : ∀ c ∈ blanks, isBlank c = true)
    (cs : List Char) : canonical (blanks ++ cs) = canonical cs := by
  induction blanks with
  | nil => rfl
  | cons c blanks ih =>
    obtain ⟨hc, hblanks⟩ := List.forall_mem_cons.mp h
    rw [List.cons_append, canonical_blank_cons hc, ih hblanks]

/-- The characters that `spells` picks are read as the mark `mark`, of which a run counts once. -/
structure Spells (spells : Char → Bool) (mark : Char) : Prop where
  repeats : isRepeatable mark = true
  blank : isBlank mark = false
  comma : mark ≠ ','
  asMark : ∀ c, spells c = true → ∀ cs, canonical (c :: cs) = canonical (mark :: cs)

theorem spells_and : Spells spellsAnd '&' where
  repeats := rfl
  blank := rfl
  comma := by decide
  asMark c hc cs := by
    rcases (by simpa [spellsAnd] using hc : c = '&' ∨ c = ',') with rfl | rfl
    · rfl
    · exact canonical_comma_cons cs

theorem spells_or : Spells spellsOr '|' where
  repeats := rfl
  blank := rfl
  comma := by decide
  asMark c hc cs := by
    obtain rfl : c = '|' := by simpa [spellsOr] using hc
    rfl

variable {spells : Char → Bool} {mark : Char} {run : List Char}

/-- A run comes to its mark. -/
theorem Spells.canonical_run (h : Spells spells mark) (hrun : IsRun spells run)
    (after : List Char) : canonical (run ++ after) = canonical (mark :: after) := by
  obtain ⟨honce, honly⟩ := hrun
  induction run with
  | nil =>
    obtain ⟨c, hc, -⟩ := honce
    cases hc
  | cons c run ih =>
    obtain ⟨hc, honly⟩ := List.forall_mem_cons.mp honly
    rw [List.cons_append]
    by_cases hmore : ∃ d ∈ run, spells d = true
    · -- The rest comes to the mark, which `c` repeats unless it is blank.
      have hrest := canonical_cons_congr (ih hmore honly)
      rcases hc with hmark | hblank
      · rw [h.asMark c hmark, hrest, canonical_cons h.blank h.comma,
          canonical_cons h.blank h.comma, prepend_prepend h.repeats]
      · rw [canonical_blank_cons hblank, ih hmore honly]
    · have hblanks : ∀ d ∈ run, isBlank d = true := by
        intro d hd
        exact (honly d hd).resolve_left fun hmark => hmore ⟨d, hd, hmark⟩
      obtain ⟨d, hd, hmark⟩ := honce
      rcases List.mem_cons.mp hd with rfl | hd
      · rw [h.asMark d hmark, canonical_cons_congr (canonical_blanks_append hblanks after)]
      · exact absurd ⟨d, hd, hmark⟩ hmore

/-- One change of spelling leaves the canonical text as it is. -/
theorem canonical_respelled {cs ds : List Char} (h : Respelled cs ds) :
    canonical cs = canonical ds := by
  cases h with
  | insertBlank before after hblank =>
    exact canonical_append_congr (canonical_blank_cons hblank after).symm before
  | deleteBlank before after hblank =>
    exact canonical_append_congr (canonical_blank_cons hblank after) before
  | exchange before after hc hd =>
    apply canonical_append_congr
    rw [spells_and.asMark _ hc, spells_and.asMark _ hd]
  | lengthenAnd before after hc hrun =>
    apply canonical_append_congr
    rw [spells_and.asMark _ hc, spells_and.canonical_run hrun]
  | lengthenOr before after hc hrun =>
    apply canonical_append_congr
    rw [spells_or.asMark _ hc, spells_or.canonical_run hrun]

/-- So does a chain of changes. -/
theorem canonical_of_respellings {cs ds : List Char}
    (h : Relation.ReflTransGen Respelled cs ds) : canonical cs = canonical ds := by
  induction h with
  | refl => rfl
  | tail _ hstep ih => exact ih.trans (canonical_respelled hstep)

end Token

/-! ### Reading -/

theorem Expression.raw_of_parse {raw : String} {e : Expression}
    (h : Expression.parse raw = .ok e) : e.raw = raw := by
  obtain ⟨-, ⟨-, rfl⟩ | ⟨tree, -, rfl⟩⟩ := Expression.parse_eq_ok_iff.mp h
  · rfl
  · rfl

/-- Texts with the same canonical text are read in the same way. -/
theorem Expression.parse_congr {raw raw' : String}
    (h : Token.canonical raw.toList = Token.canonical raw'.toList) :
    Expression.parse raw' = (Expression.parse raw).map fun e => { e with raw := raw' } := by
  unfold Expression.parse
  rw [h]
  dsimp only
  split
  · rfl
  · split
    · rfl
    · rename_i t ts hscan
      cases Tree.ofTokens (t :: ts) with
      | error reason => rfl
      | ok tree => rfl

/-- The texts are read as the same tree with the same operands, or refused for the same reason.
Each expression and each fault has the text that it was made from. -/
def ReadAlike (raw raw' : String) : Prop :=
  (∃ e e', Expression.read raw = .ok e ∧ Expression.read raw' = .ok e' ∧
      e.tree = e'.tree ∧ e.operands = e'.operands ∧ e.raw = raw ∧ e'.raw = raw') ∨
    ∃ reason, Expression.read raw = .error (.tagExpression raw reason) ∧
      Expression.read raw' = .error (.tagExpression raw' reason)

/-- **A change of spelling changes no expression.** Let one text be made from another by adding
and dropping blanks, by writing commas for `&` or `&` for commas, and by writing an operator more
than once, with blanks in between or without. Then the two are read alike. -/
theorem readAlike_of_respelled {raw raw' : String}
    (h : Relation.ReflTransGen Respelled raw.toList raw'.toList) : ReadAlike raw raw' := by
  have hparse := Expression.parse_congr (Token.canonical_of_respellings h)
  unfold ReadAlike Expression.read
  rw [hparse]
  cases hread : Expression.parse raw with
  | error reason => exact .inr ⟨reason.message, rfl, rfl⟩
  | ok e => exact .inl ⟨e, _, rfl, rfl, rfl, rfl, Expression.raw_of_parse hread, rfl⟩

/-- A blank in a name, a comma for an `&` and longer operators change nothing. -/
theorem readAlike_of_respelled_sample :
    Relation.ReflTransGen Respelled "smoke test,!slow|ui".toList "smoketest& ,!slow|| ui".toList ∧
      ReadAlike "smoke test,!slow|ui" "smoketest& ,!slow|| ui" := by
  have hand : IsRun spellsAnd ['&', ' ', ','] :=
    ⟨⟨'&', by simp, rfl⟩, by simp [spellsAnd, isBlank]⟩
  have hor : IsRun spellsOr ['|', '|', ' '] := ⟨⟨'|', by simp, rfl⟩, by simp [spellsOr, isBlank]⟩
  have hchain : Relation.ReflTransGen Respelled
      "smoke test,!slow|ui".toList "smoketest& ,!slow|| ui".toList :=
    .head (.deleteBlank "smoke".toList "test,!slow|ui".toList (c := ' ') rfl)
      (.head (.lengthenAnd "smoketest".toList "!slow|ui".toList (c := ',') rfl hand)
        (.single (.lengthenOr "smoketest& ,!slow".toList "ui".toList (c := '|') rfl hor)))
  exact ⟨hchain, readAlike_of_respelled hchain⟩

end Roster.Tag

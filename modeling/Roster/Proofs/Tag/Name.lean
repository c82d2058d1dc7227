import Roster.Fault.Basic
import Roster.Proofs.Tag.Grammar

/-!
Names and their normal forms.

A name without its blanks is its normal form, unless it is a truth word, which is put in braces.
A word in braces is no truth word, so nothing is shielded twice (`shield_shield`). But it is a
name like any other and not shielded itself: a truth word and the same word in braces have one
normal form, and no other names do that differ by more than blanks (`normalName_eq_iff`).

* `evaluate_name` : an expression that is one name, without operators, is true of the tags of the
  same name, and of the tags of the name that is mixed up with it.
* `braced_name_taken_for_truth_word` : so it may be true of a tag of another name.
-/

namespace Roster.Tag

open Roster.Text

/-! ### Shielded words -/

/-- A word in braces. -/
def braced (word : List Char) : List Char :=
  '{' :: word ++ ['}']

theorem shield_of_mem {word : List Char} (h : .ofList word ∈ truthWords) :
    shield word = braced word :=
  if_pos (List.contains_iff_mem.mpr h)

theorem shield_of_notMem {word : List Char} (h : .ofList word ∉ truthWords) :
    shield word = word :=
  if_neg (List.contains_iff_mem.not.mpr h)

theorem braced_inj {v w : List Char} (h : braced v = braced w) : v = w :=
  List.append_cancel_right (List.cons.inj h).2

/-- No word in braces is a truth word. -/
theorem braced_notMem_truthWords (word : List Char) : .ofList (braced word) ∉ truthWords := by
  have hbegins : ∀ truth ∈ truthWords, truth.toList.head? ≠ some '{' := by decide
  intro hmem
  refine hbegins _ hmem ?_
  rw [String.toList_ofList]
  rfl

/-- What is shielded once is not shielded again. -/
theorem shield_shield (word : List Char) : shield (shield word) = shield word := by
  by_cases htruth : .ofList word ∈ truthWords
  · rw [shield_of_mem htruth, shield_of_notMem (braced_notMem_truthWords word)]
  · rw [shield_of_notMem htruth, shield_of_notMem htruth]

/-- A shielded word has the characters of the word, and maybe braces. -/
theorem mem_of_mem_shield {word : List Char} {c : Char} (h : c ∈ shield word) :
    c ∈ word ∨ c = '{' ∨ c = '}' := by
  by_cases htruth : .ofList word ∈ truthWords
  · rw [shield_of_mem htruth] at h
    rcases (by simpa [braced] using h : c = '{' ∨ c ∈ word ∨ c = '}') with hc | hc | hc
    · exact .inr (.inl hc)
    · exact .inl hc
    · exact .inr (.inr hc)
  · rw [shield_of_notMem htruth] at h
    exact .inl h

/-- What holds of the braces and of all characters of a word holds of the shielded word. -/
theorem forall_mem_shield {p : Char → Prop} {word : List Char} (hopening : p '{')
    (hclosing : p '}') (h : ∀ c ∈ word, p c) : ∀ c ∈ shield word, p c := by
  intro c hc
  rcases mem_of_mem_shield hc with hc | rfl | rfl
  · exact h c hc
  · exact hopening
  · exact hclosing

theorem isBlank_of_mem_shield {word : List Char} (h : ∀ c ∈ word, isBlank c = false) :
    ∀ c ∈ shield word, isBlank c = false :=
  forall_mem_shield rfl rfl h

theorem squeezeChars_eq_self {cs : List Char} (h : ∀ c ∈ cs, isBlank c = false) :
    squeezeChars cs = cs := by
  rw [squeezeChars, List.filter_eq_self]
  intro c hc
  rw [h c hc]
  rfl

theorem shield_ne_nil {word : List Char} (h : word ≠ []) : shield word ≠ [] := by
  by_cases htruth : .ofList word ∈ truthWords
  · rw [shield_of_mem htruth]
    exact List.cons_ne_nil _ _
  · rwa [shield_of_notMem htruth]

/-- A word is one token, shielded or not. -/
theorem Token.ofWord_shield (word : List Char) : ofWord (shield word) = ofWord word := by
  by_cases hnil : word = []
  · rw [hnil]
    rfl
  · simp [ofWord, hnil, shield_ne_nil hnil, shield_shield]

/-- Two words are shielded alike when they are the same, and when one of them is a truth word
and the other one that word in braces. -/
theorem shield_eq_shield_iff {v w : List Char} :
    shield v = shield w ↔ v = w ∨ (.ofList v ∈ truthWords ∧ w = braced v) ∨
      (.ofList w ∈ truthWords ∧ v = braced w) := by
  constructor
  · intro h
    by_cases hv : .ofList v ∈ truthWords
    · rw [shield_of_mem hv] at h
      by_cases hw : .ofList w ∈ truthWords
      · rw [shield_of_mem hw] at h
        exact .inl (braced_inj h)
      · rw [shield_of_notMem hw] at h
        exact .inr (.inl ⟨hv, h.symm⟩)
    · rw [shield_of_notMem hv] at h
      by_cases hw : .ofList w ∈ truthWords
      · rw [shield_of_mem hw] at h
        exact .inr (.inr ⟨hw, h⟩)
      · rw [shield_of_notMem hw] at h
        exact .inl h
  · rintro (rfl | ⟨hv, rfl⟩ | ⟨hw, rfl⟩)
    · rfl
    · rw [shield_of_mem hv, shield_of_notMem (braced_notMem_truthWords v)]
    · rw [shield_of_mem hw, shield_of_notMem (braced_notMem_truthWords w)]

/-! ### Normal forms -/

/-- The normal form of a name that is a normal form. -/
theorem normalName_ofList_shield {word : List Char} (h : ∀ c ∈ word, isBlank c = false) :
    normalName (.ofList (shield word)) = .ofList (shield word) := by
  rw [normalName, String.toList_ofList, squeezeChars_eq_self (isBlank_of_mem_shield h),
    shield_shield]

/-- The first name is a truth word, and the second one that word in braces. -/
def Shields (word other : String) : Prop :=
  word ∈ truthWords ∧ other = .ofList (braced word.toList)

/-- Two names that differ by more than blanks have the same normal form if one of them is a truth
word and the other one that word in braces, and only then. -/
theorem normalName_eq_iff {name other : String} : normalName name = normalName other ↔
    squeeze name = squeeze other ∨ Shields (squeeze name) (squeeze other) ∨
      Shields (squeeze other) (squeeze name) := by
  unfold normalName Shields squeeze
  rw [String.ofList_inj, shield_eq_shield_iff, String.toList_ofList, String.toList_ofList,
    String.ofList_inj, String.ofList_inj, String.ofList_inj]

/-! ### Expressions of one name -/

/-- No operator, no parenthesis, no comma and no caret: what may stand in a name. -/
def isNameChar (c : Char) : Bool :=
  !(['&', '|', '!', '(', ')', ',', '^'].contains c)

namespace Token

theorem ofChar?_of_isNameChar {c : Char} (h : isNameChar c = true) : ofChar? c = none := by
  unfold ofChar?
  split
  · cases h
  · cases h
  · cases h
  · cases h
  · cases h
  · rfl

/-- A text without marks loses its blanks and nothing else. -/
theorem canonical_of_isNameChar {cs : List Char} (h : ∀ c ∈ cs, isNameChar c = true) :
    canonical cs = squeezeChars cs := by
  induction cs with
  | nil => rfl
  | cons c cs ih =>
    obtain ⟨hc, hcs⟩ := List.forall_mem_cons.mp h
    cases hblank : isBlank c with
    | true =>
      rw [canonical_blank_cons hblank, ih hcs, squeezeChars, squeezeChars,
        List.filter_cons_of_neg (by simp [hblank])]
    | false =>
      have hcomma : c ≠ ',' := by
        rintro rfl
        cases hc
      have halone : isRepeatable c = false := by
        rw [Bool.eq_false_iff]
        intro hrepeat
        rcases (by simpa [isRepeatable] using hrepeat : c = '&' ∨ c = '|') with rfl | rfl
        · cases hc
        · cases hc
      rw [canonical_cons hblank hcomma, prepend_of_alone fun _ => halone, ih hcs, squeezeChars,
        squeezeChars, List.filter_cons_of_pos (by simp [hblank])]

/-- A name is one token, with the normal form of the name. -/
theorem ofText_of_isNameChar {name : String} (htext : ∃ c ∈ name.toList, isBlank c = false)
    (hname : ∀ c ∈ name.toList, isNameChar c = true) :
    ofText name = [.tag (normalName name)] := by
  have hplain : ∀ c ∈ squeezeChars name.toList, ofChar? c = none := by
    intro c hc
    exact ofChar?_of_isNameChar (hname c (List.mem_filter.mp hc).1)
  have hword : squeezeChars name.toList ≠ [] := by
    obtain ⟨c, hc, hblank⟩ := htext
    exact List.ne_nil_of_mem (List.mem_filter.mpr ⟨hc, by simp [hblank]⟩)
  rw [ofText, canonical_of_isNameChar hname, scan, scanFrom_of_plain hplain, List.nil_append,
    ofWord, if_neg (by simpa using hword)]
  rfl

end Token

theorem Expression.parse_name {name : String} (htext : ∃ c ∈ name.toList, isBlank c = false)
    (hname : ∀ c ∈ name.toList, isNameChar c = true) : Expression.parse name =
      .ok ⟨name, some (.tag (normalName name)), [normalName name]⟩ := by
  have hcaret : '^' ∉ name.toList := by
    intro h
    cases hname _ h
  refine Expression.parse_eq_ok_iff.mpr ⟨hcaret, .inr ⟨.tag (normalName name), ?_⟩⟩
  rw [Token.ofText_of_isNameChar htext hname]
  exact ⟨.orFirst (.andFirst (.primary (.tag _))), rfl⟩

/-- A text that spells an expression has the value of the expression. -/
theorem evaluate_of_parse {raw : String} {e : Expression} (h : Expression.parse raw = .ok e)
    (names : List String) : evaluate raw names = .ok (e.matchesTags (.ofList names)) := by
  rw [evaluate, Expression.read, h]
  rfl

/-- **An expression of one name selects the tags of that name.** A text that is not blank and has
no operator, parenthesis, comma or caret always has a value. It is true on a list of tags when
the list has a tag with the same name up to blanks; and for a truth word when it has that word in
braces, and for a truth word in braces when it has the word. -/
theorem evaluate_name {name : String} (htext : ∃ c ∈ name.toList, isBlank c = false)
    (hname : ∀ c ∈ name.toList, isNameChar c = true) (tags : List String) :
    ∃ value, evaluate name tags = .ok value ∧
      (value = true ↔ ∃ tag ∈ tags, squeeze tag = squeeze name ∨
        Shields (squeeze tag) (squeeze name) ∨ Shields (squeeze name) (squeeze tag)) := by
  refine ⟨(TagSet.ofList tags).has (normalName name), ?_, ?_⟩
  · exact evaluate_of_parse (Expression.parse_name htext hname) tags
  · rw [TagSet.has_ofList]
    simp only [eq_comm (a := normalName name), normalName_eq_iff]

/-- The truth word `true`, in a list with tags of other names. -/
theorem evaluate_name_sample :
    (∃ c ∈ "tr ue".toList, isBlank c = false) ∧ (∀ c ∈ "tr ue".toList, isNameChar c = true) ∧
      ∃ value, evaluate "tr ue" ["truth", " true"] = .ok value ∧
        (value = true ↔ ∃ tag ∈ ["truth", " true"], squeeze tag = squeeze "tr ue" ∨
          Shields (squeeze tag) (squeeze "tr ue") ∨ Shields (squeeze "tr ue") (squeeze tag)) := by
  have htext : ∃ c ∈ "tr ue".toList, isBlank c = false := ⟨'t', by decide, rfl⟩
  have hname : ∀ c ∈ "tr ue".toList, isNameChar c = true := List.all_eq_true.mp rfl
  exact ⟨htext, hname, evaluate_name htext hname _⟩

/-- A truth word selects the tag that is called like it in braces, which is another name. -/
theorem braced_name_taken_for_truth_word :
    ¬ ∀ (name : String) (tags : List String), (∃ c ∈ name.toList, isBlank c = false) →
      (∀ c ∈ name.toList, isNameChar c = true) →
        ∃ value, evaluate name tags = .ok value ∧
          (value = true ↔ ∃ tag ∈ tags, squeeze tag = squeeze name) := by
  intro hnames
  have hvalue : evaluate "true" ["\x7btrue\x7d"] = .ok true := by decide +kernel
  obtain ⟨value, heq, hiff⟩ := hnames "true" ["\x7btrue\x7d"] ⟨'t', by decide, rfl⟩
    (List.all_eq_true.mp rfl)
  rw [hvalue] at heq
  cases heq
  have hsame : ∃ tag ∈ ["\x7btrue\x7d"], squeeze tag = squeeze "true" := hiff.mp rfl
  exact absurd hsame (by decide +kernel)

end Roster.Tag

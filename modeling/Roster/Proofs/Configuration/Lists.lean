import Mathlib.Data.List.DropRight
import Roster.Configuration.Resolve
import Roster.Proofs.Configuration.Written

/-!
Which list a text holds.

A text holds the items of the JSON array of texts that it is, or else the fields between its
commas; either way without blanks at their ends, and without the blank ones (`HoldsList`). A
text that starts with a bracket and is no such array is read as fields, without a fault. This
is what a list is read from (`holdsList_iff`), so each text holds one list.
-/

namespace Roster

open Roster.Text

/-! ### Arrays -/

namespace Json

variable {fuel : Nat} {cs rest : List Char} {vs : List Json} {v : Json} {ss : List String}

theorem number?_ne_arr : number? cs ≠ some (.arr vs, rest) := by
  intro h
  rw [number?] at h
  generalize splitSign ['-'] cs = signed at h
  obtain ⟨sign, left⟩ := signed
  obtain ⟨⟨whole, left⟩, -, h⟩ := Option.bind_eq_some_iff.mp h
  dsimp only at h
  split at h
  · cases h
  · obtain ⟨⟨frac, left⟩, -, h⟩ := Option.bind_eq_some_iff.mp h
    obtain ⟨⟨exp, left⟩, -, h⟩ := Option.bind_eq_some_iff.mp h
    dsimp only at h
    split at h
    · obtain ⟨n, -, h⟩ := Option.bind_eq_some_iff.mp h
      simp at h
    · simp at h

/-- An array starts with a bracket. -/
theorem readValue?_arr (h : readValue? fuel cs = some (.arr vs, rest)) :
    ∃ tail, skipBlanks cs = '[' :: tail := by
  cases fuel with
  | zero => simp [readValue?] at h
  | succ fuel =>
    rw [readValue?] at h
    split at h
    case h_1 =>
      split at h
      · simp at h
      · obtain ⟨ms, -, h⟩ := Option.bind_eq_some_iff.mp h
        simp only [ofMembers] at h
        split at h <;> simp at h
    case h_2 tail hcs => exact ⟨tail, hcs⟩
    case h_3 =>
      obtain ⟨read, -, h⟩ := Option.bind_eq_some_iff.mp h
      dsimp only at h
      split at h <;> simp at h
    case h_7 => exact absurd h number?_ne_arr
    all_goals simp at h

/-- The array that a read text is starts with a bracket. -/
theorem skipBlanks_of_ofChars?_arr (h : ofChars? cs = some (.arr vs)) :
    ∃ tail, skipBlanks cs = '[' :: tail := by
  obtain ⟨⟨v, rest⟩, hread, h⟩ := Option.bind_eq_some_iff.mp h
  dsimp only at h
  split at h
  · obtain rfl := Option.some.inj h
    exact readValue?_arr hread
  · cases h

theorem mapM_text?_eq_some_iff : vs.mapM text? = some ss ↔ vs = ss.map .str := by
  constructor
  · intro h
    induction vs generalizing ss with
    | nil =>
      obtain rfl : [] = ss := by simpa using h
      rfl
    | cons v vs ih =>
      rw [List.mapM_cons] at h
      obtain ⟨s, hv, h⟩ := Option.bind_eq_some_iff.mp h
      obtain ⟨ss', hvs, h⟩ := Option.bind_eq_some_iff.mp h
      obtain rfl := Option.some.inj h
      obtain rfl : v = .str s := by
        cases v <;> simp_all [text?]
      rw [ih hvs]
      rfl
  · rintro rfl
    exact mapM_map_eq_pure fun _ _ => rfl

theorem strings?_eq_some_iff : v.strings? = some ss ↔ v = strings ss := by
  constructor
  · intro h
    obtain ⟨vs, hitems, htexts⟩ := Option.bind_eq_some_iff.mp h
    obtain rfl : v = .arr vs := by
      cases v <;> simp_all [items?]
    rw [mapM_text?_eq_some_iff.mp htexts, strings]
  · rintro rfl
    exact strings?_strings ss

end Json

/-! ### Trimmed texts -/

theorem isBlank_of_head?_trimChars {cs : List Char} :
    ∀ c ∈ (trimChars cs).head?, isBlank c = false := by
  intro c hc
  have hprefix : trimChars cs <+: cs.dropWhile isBlank := List.rdropWhile_prefix isBlank _
  have hhead : (cs.dropWhile isBlank).head? = some c := by
    obtain ⟨after, hafter⟩ := hprefix
    rw [← hafter, List.head?_append, hc]
    rfl
  have hnot := List.head?_dropWhile_not isBlank cs
  rw [hhead] at hnot
  exact hnot

/-- Where a trimmed text is an array, the bracket is its first character. -/
theorem startsWith_trim_of_arr {raw : String} {vs : List Json}
    (h : Json.read? (trim raw) = some (.arr vs)) : (trim raw).startsWith "[" = true := by
  have htrim : (trim raw).toList = trimChars raw.toList := String.toList_ofList
  rw [String.startsWith_string_iff, htrim]
  rw [Json.read?, htrim] at h
  obtain ⟨tail, hbracket⟩ := Json.skipBlanks_of_ofChars?_arr h
  cases hcs : trimChars raw.toList with
  | nil =>
    rw [hcs] at hbracket
    cases hbracket
  | cons c cs =>
    have hblank : isBlank c = false := isBlank_of_head?_trimChars c (by rw [hcs]; rfl)
    rw [hcs, Json.skipBlanks, List.dropWhile_cons_of_neg] at hbracket
    · rw [hbracket]
      exact List.prefix_append ['['] tail
    · -- Blanks of JSON are blanks.
      intro hjson
      simp only [Bool.or_eq_true, beq_iff_eq] at hjson
      rcases hjson with ((rfl | rfl) | rfl) | rfl <;> cases hblank

theorem arrayItems?_trim_eq_some_iff {raw : String} {items : List String} :
    arrayItems? (trim raw) = some items ↔ Json.read? (trim raw) = some (.strings items) := by
  constructor
  · intro h
    unfold arrayItems? at h
    split at h
    · obtain ⟨v, hread, hitems⟩ := Option.bind_eq_some_iff.mp h
      rw [hread, Json.strings?_eq_some_iff.mp hitems]
    · cases h
  · intro h
    rw [arrayItems?, if_pos (startsWith_trim_of_arr h), h, Option.bind_some, Json.strings?_strings]

/-! ### Lists -/

/-- Items without the blanks at their ends, and without the blank ones. -/
def tidy (items : List String) : List String :=
  (items.map trim).filter (· ≠ "")

/-- A text holds a list: the items of a JSON array of texts where it is one, and otherwise the
fields between its commas. -/
inductive HoldsList (raw : String) : List String → Prop where
  | array {items : List String} : Json.read? (trim raw) = some (.strings items) →
      HoldsList raw (tidy items)
  | fields : (∀ items, Json.read? (trim raw) ≠ some (.strings items)) →
      HoldsList raw (tidy ((raw.toList.splitOn ',').map .ofList))

theorem filledFields_eq_tidy (raw : String) :
    filledFields raw = tidy ((raw.toList.splitOn ',').map .ofList) := by
  simp [filledFields, fields, tidy, trim, Function.comp_def]

theorem holdsList_iff {raw : String} {items : List String} :
    HoldsList raw items ↔ readList raw = items := by
  constructor
  · rintro (harray | hfields)
    · rw [readList, arrayItems?_trim_eq_some_iff.mpr harray]
      rfl
    · have hnone : arrayItems? (trim raw) = none := by
        rw [Option.eq_none_iff_forall_ne_some]
        exact fun items h => hfields items (arrayItems?_trim_eq_some_iff.mp h)
      rw [readList, hnone]
      exact filledFields_eq_tidy raw
  · rintro rfl
    cases harray : arrayItems? (trim raw) with
    | some items =>
      rw [readList, harray]
      exact .array (arrayItems?_trim_eq_some_iff.mp harray)
    | none =>
      rw [readList, harray]
      dsimp only
      rw [filledFields_eq_tidy]
      refine .fields fun items h => ?_
      rw [arrayItems?_trim_eq_some_iff.mpr h] at harray
      cases harray

namespace Layer

/-- The list that a key has, which is empty where the key has no text. -/
def Lists (l : Layer) (key : String) (items : List String) : Prop :=
  (l.get? key = none ∧ items = []) ∨ ∃ raw, l.get? key = some raw ∧ HoldsList raw items

theorem lists_iff {l : Layer} {key : String} {items : List String} :
    l.Lists key items ↔ l.items key = items := by
  simp only [Lists, holdsList_iff, Layer.items]
  cases l.get? key <;> simp [eq_comm]

end Layer

end Roster

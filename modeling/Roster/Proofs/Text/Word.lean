import Mathlib.Data.Nat.Digits.Defs
import Roster.Proofs.Text.Numeral

/-!
What spells a word.

A word is spelled by decimal digits, one at least, with a plus sign in front of them or none
(`SpellsWord`). Leading zeros do not count, but the number must fit. This is what a word is
read from (`word?_eq_some_iff`), and each text spells one number at most.
-/

namespace Roster.Text

/-- The number that decimal digits spell, the most significant first. -/
def decimalValue (ds : List Char) : Nat :=
  Nat.ofDigits 10 (ds.reverse.map fun d => d.toNat - 48)

/-- The text spells a number that fits a word. -/
def SpellsWord (s : String) (n : Nat) : Prop :=
  ∃ ds, (s.toList = ds ∨ s.toList = '+' :: ds) ∧ ds ≠ [] ∧ (∀ d ∈ ds, d.isDigit = true) ∧
    decimalValue ds = n ∧ n < 2 ^ 64

theorem isDigit_iff {c : Char} : c.isDigit = true ↔ 48 ≤ c.toNat ∧ c.toNat ≤ 57 := by
  simp [Char.isDigit, UInt32.le_iff_toNat_le]

theorem digitValue?_eq_some_iff {c : Char} {d : Nat} :
    digitValue? 10 c = some d ↔ c.isDigit = true ∧ c.toNat - 48 = d := by
  have hle : ∀ {a b : Char}, a ≤ b ↔ a.toNat ≤ b.toNat := Iff.rfl
  rw [digitValue?, Option.filter_eq_some_iff, isDigit_iff]
  simp only [hle, Char.reduceToNat, decide_eq_true_eq]
  -- A letter has a value of ten at least.
  split_ifs <;> grind

theorem decimalValue_cons (d : Char) (ds : List Char) :
    decimalValue (d :: ds) = decimalValue ds + 10 ^ ds.length * (d.toNat - 48) := by
  rw [decimalValue, List.reverse_cons, List.map_append, Nat.ofDigits_append, List.length_map,
    List.length_reverse, List.map_singleton, Nat.ofDigits_singleton]
  rfl

theorem extendDigits?_eq_some_iff {soFar n : Nat} {ds : List Char} :
    extendDigits? 10 soFar ds = some n ↔
      (∀ d ∈ ds, d.isDigit = true) ∧ 10 ^ ds.length * soFar + decimalValue ds = n := by
  induction ds generalizing soFar with
  | nil => simp [extendDigits?, decimalValue]
  | cons d ds ih =>
    have hshift : 10 ^ ds.length * (soFar * 10 + (d.toNat - 48)) + decimalValue ds =
        10 ^ (ds.length + 1) * soFar + decimalValue (d :: ds) := by
      rw [decimalValue_cons]
      ring
    rw [extendDigits?, Option.bind_eq_bind, Option.bind_eq_some_iff]
    simp only [digitValue?_eq_some_iff, ih, List.forall_mem_cons, List.length_cons]
    constructor
    · rintro ⟨_, ⟨hd, rfl⟩, hds, rfl⟩
      exact ⟨⟨hd, hds⟩, hshift.symm⟩
    · rintro ⟨⟨hd, hds⟩, rfl⟩
      exact ⟨_, ⟨hd, rfl⟩, hds, hshift⟩

theorem natOfDigits?_eq_some_iff {n : Nat} {ds : List Char} :
    natOfDigits? 10 ds = some n ↔
      ds ≠ [] ∧ (∀ d ∈ ds, d.isDigit = true) ∧ decimalValue ds = n := by
  cases ds with
  | nil => simp [natOfDigits?]
  | cons d ds =>
    rw [natOfDigits?.eq_2 _ _ (List.cons_ne_nil d ds), extendDigits?_eq_some_iff]
    simp

/-- A word is read from the texts that spell it, and from no others. -/
theorem word?_eq_some_iff {s : String} {n : Nat} : word? s = some n ↔ SpellsWord s n := by
  have hlimit : ∀ cs, (natOfDigits? 10 cs).filter (· < wordLimit) = some n ↔
      cs ≠ [] ∧ (∀ d ∈ cs, d.isDigit = true) ∧ decimalValue cs = n ∧ n < 2 ^ 64 := by
    intro cs
    rw [Option.filter_eq_some_iff, natOfDigits?_eq_some_iff, decide_eq_true_eq, wordLimit]
    simp [and_assoc]
  rw [word?, SpellsWord]
  constructor
  · intro hread
    unfold wordOfChars? at hread
    split at hread
    · rename_i ds hsign
      exact ⟨ds, .inr hsign, (hlimit ds).mp hread⟩
    · exact ⟨s.toList, .inl rfl, (hlimit _).mp hread⟩
  · rintro ⟨ds, hplain | hsign, hspells⟩
    · have hno : ∀ cs, s.toList ≠ '+' :: cs := by
        rintro cs hcs
        have hplus := hspells.2.1 '+' (by rw [← hplain, hcs]; exact List.mem_cons_self)
        simp at hplus
      rw [wordOfChars?.eq_2 _ hno, hplain]
      exact (hlimit ds).mpr hspells
    · rw [hsign]
      exact (hlimit ds).mpr hspells

end Roster.Text

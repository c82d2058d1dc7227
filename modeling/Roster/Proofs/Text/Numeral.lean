import Roster.Text.Blank
import Roster.Text.Numeral

/-!
Numerals read back.

The decimal numeral of a number is read as the number (`natOfDigits?_digits`), has no zero in
front of other digits (`eq_zero_of_head?_digits`), and has no blanks to trim. As a word it is
read back where the number fits one (`word?_numeral`).
-/

namespace Roster.Text

/-! ### Digits -/

theorem digitValue?_digitChar {d : Nat} (h : d < 10) : digitValue? 10 (digitChar d) = some d := by
  have hall : ∀ d < 10, digitValue? 10 (digitChar d) = some d := by decide
  exact hall d h

theorem isDigit_digitChar (n : Nat) : (digitChar n).isDigit = true := by
  have hall : ∀ d < 10, (Char.ofNat (48 + d)).isDigit = true := by decide
  exact hall _ (Nat.mod_lt n (by decide))

theorem isBlank_of_isDigit {c : Char} (h : c.isDigit = true) : isBlank c = false := by
  obtain ⟨hlow, hhigh⟩ : 48 ≤ c.toNat ∧ c.toNat ≤ 57 := by
    simpa [Char.isDigit, UInt32.le_iff_toNat_le] using h
  rw [← Bool.not_eq_true]
  simp only [isBlank, Bool.or_eq_true, Bool.and_eq_true, decide_eq_true_eq, beq_iff_eq]
  omega

/-- Digits after others extend the number that those spell. -/
theorem extendDigits?_append (radix soFar : Nat) (cs ds : List Char) :
    extendDigits? radix soFar (cs ++ ds) =
      (extendDigits? radix soFar cs).bind fun n => extendDigits? radix n ds := by
  induction cs generalizing soFar with
  | nil => rfl
  | cons c cs ih =>
    cases h : digitValue? radix c with
    | none => simp [extendDigits?, h]
    | some d => simp [extendDigits?, h, ih]

theorem extendDigits?_digits (n : Nat) : extendDigits? 10 0 (digits n) = some n := by
  fun_induction digits n with
  | case1 n hlt => simp [extendDigits?, digitValue?_digitChar hlt]
  | case2 n hlt ih =>
    have hlast : digitValue? 10 (digitChar n) = some (n % 10) := by
      rw [show digitChar n = digitChar (n % 10) by simp [digitChar]]
      exact digitValue?_digitChar (Nat.mod_lt n (by decide))
    rw [extendDigits?_append, ih]
    simp only [Option.bind_some, extendDigits?, hlast, Option.bind_eq_bind, Option.some.injEq]
    omega

theorem digits_ne_nil (n : Nat) : digits n ≠ [] := by
  rw [digits]
  split <;> simp

theorem natOfDigits?_digits (n : Nat) : natOfDigits? 10 (digits n) = some n := by
  rw [natOfDigits?.eq_2 _ _ (digits_ne_nil n), extendDigits?_digits]

theorem isDigit_of_mem_digits {n : Nat} {c : Char} (h : c ∈ digits n) : c.isDigit = true := by
  fun_induction digits n with
  | case1 n hlt =>
    obtain rfl := List.mem_singleton.mp h
    exact isDigit_digitChar n
  | case2 n hlt ih =>
    rcases List.mem_append.mp h with h | h
    · exact ih h
    · obtain rfl := List.mem_singleton.mp h
      exact isDigit_digitChar n

/-- Only the numeral of zero starts with a zero. -/
theorem eq_zero_of_head?_digits {n : Nat} (h : (digits n).head? = some '0') : n = 0 := by
  fun_induction digits n with
  | case1 n hlt =>
    have hall : ∀ d < 10, digitChar d = '0' → d = 0 := by decide
    exact hall n hlt (by simpa using h)
  | case2 n hlt ih =>
    rw [List.head?_append, Option.or_of_isSome (by simp [digits_ne_nil])] at h
    have := ih h
    omega

/-! ### Words -/

/-- There is nothing to trim from a numeral. -/
theorem trim_numeral (n : Nat) : trim (numeral n) = numeral n := by
  have hblank : ∀ c ∈ digits n, isBlank c = false :=
    fun c hc => isBlank_of_isDigit (isDigit_of_mem_digits hc)
  rw [trim, numeral, String.toList_ofList, trimChars_of_ends]
  · exact fun c hc => hblank c (List.mem_of_head? hc)
  · exact fun c hc => hblank c (List.mem_of_getLast? hc)

theorem numeral_ne_empty (n : Nat) : numeral n ≠ "" := by
  intro h
  have hnil := congrArg String.toList h
  rw [numeral, String.toList_ofList] at hnil
  exact digits_ne_nil n hnil

/-- The numeral of a number that fits a word is read as the number. -/
theorem word?_numeral {n : Nat} (h : n < wordLimit) : word? (numeral n) = some n := by
  have hsign : ∀ ds, digits n ≠ '+' :: ds := by
    intro ds hds
    have hplus : '+'.isDigit = true := isDigit_of_mem_digits (n := n) (by rw [hds]; simp)
    simp at hplus
  rw [word?, numeral, String.toList_ofList, wordOfChars?, natOfDigits?_digits]
  · simp [h]
  · exact hsign

end Roster.Text

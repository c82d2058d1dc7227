import Mathlib.Tactic.SplitIfs
import Roster.Json.Reader
import Roster.Json.Writer

/-!
String literals read back.

Every character is escaped as one piece, and that piece stands for the character again
(`exists_piece`). So the literal of a text, whatever follows it, is read as the text
(`literal?_escape`).
-/

namespace Roster.Json

open Roster.Text

/-- The two hexadecimal digits of a control character spell its number. -/
theorem natOfDigits?_control {n : Nat} (h : n < 32) :
    natOfDigits? 16 ['0', '0', hexChar (n / 16), hexChar (n % 16)] = some n := by
  have hall : ∀ n < 32,
      natOfDigits? 16 ['0', '0', hexChar (n / 16), hexChar (n % 16)] = some n := by decide
  exact hall n h

/-- A unit that belongs to no surrogate pair is a character of its own. -/
theorem joinUnits?_unit {u : Nat} (h : u < 0xD800) (ps : List Piece) :
    joinUnits? (.unit u :: ps) = (joinUnits? ps).map (.ofNat u :: ·) := by
  have hhigh : isHighUnit u = false := by simp [isHighUnit]; omega
  have hlow : isLowUnit u = false := by simp [isLowUnit]; omega
  cases ps with
  | nil => simp [joinUnits?, hhigh, hlow]
  | cons p ps => cases p <;> simp [joinUnits?, hhigh, hlow]

/-- `p` is the piece that `cs` is read as, and stands for the character `c`. -/
structure Piece.Of (cs : List Char) (c : Char) (p : Piece) : Prop where
  read : ∀ rest, pieces? (cs ++ rest) = (pieces? rest).map fun r => (p :: r.1, r.2)
  stands : ∀ ps, joinUnits? (p :: ps) = (joinUnits? ps).map (c :: ·)

theorem Piece.Of.letter {e c : Char} (hletter : e ≠ 'u') (h : escaped? e = some c) :
    Piece.Of ['\\', e] c (.char c) where
  read rest := by
    rw [List.cons_append, List.singleton_append, pieces?.eq_4 _ _ (by simp [hletter]), h]
    cases pieces? rest <;> rfl
  stands ps := rfl

theorem Piece.Of.plain {c : Char} (hquote : c ≠ '"') (hslash : c ≠ '\\') (h : ¬ c.toNat < 32) :
    Piece.Of [c] c (.char c) where
  read rest := by
    rw [List.singleton_append, pieces?.eq_5 _ _ hquote (by simp [hslash]) (by simp [hslash])]
    simp only [h, hslash, decide_false, Bool.false_or, beq_iff_eq, if_false]
    cases pieces? rest <;> rfl
  stands ps := rfl

theorem Piece.Of.control {c : Char} (h : c.toNat < 32) :
    Piece.Of ['\\', 'u', '0', '0', hexChar (c.toNat / 16), hexChar (c.toNat % 16)] c
      (.unit c.toNat) where
  read rest := by
    simp only [List.cons_append, List.nil_append, pieces?.eq_3, natOfDigits?_control h]
    cases pieces? rest <;> rfl
  stands ps := by
    rw [joinUnits?_unit (by omega), Char.ofNat_toNat]

/-- An escape is one piece. -/
theorem exists_piece (c : Char) : ∃ p, Piece.Of (escape c) c p := by
  unfold escape
  split_ifs with _ _ _ _ _ _ _ hcontrol
  -- The characters with a letter come first.
  iterate 7
    · subst c
      exact ⟨_, .letter (by decide) rfl⟩
  · exact ⟨_, .control hcontrol⟩
  · exact ⟨_, .plain ‹_› ‹_› hcontrol⟩

theorem pieces?_escape (s rest : List Char) :
    ∃ ps, pieces? (s.flatMap escape ++ '"' :: rest) = some (ps, rest) ∧
      joinUnits? ps = some s := by
  induction s with
  | nil => exact ⟨[], rfl, rfl⟩
  | cons c s ih =>
    obtain ⟨ps, hread, hstands⟩ := ih
    obtain ⟨p, hp⟩ := exists_piece c
    refine ⟨p :: ps, ?_, ?_⟩
    · rw [List.flatMap_cons, List.append_assoc, hp.read, hread]
      rfl
    · rw [hp.stands, hstands]
      rfl

/-- The body of a written literal is read as the text it was written for. -/
theorem literal?_escape (s rest : List Char) :
    literal? (s.flatMap escape ++ '"' :: rest) = some (some (.ofList s), rest) := by
  obtain ⟨ps, hread, hstands⟩ := pieces?_escape s rest
  simp [literal?, hread, hstands]

end Roster.Json

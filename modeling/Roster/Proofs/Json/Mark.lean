import Roster.Json.Reader
import Roster.Json.Writer

/-!
Blanks and marks of JSON.

Blanks alone are a `Gap`, and a reader goes over them to the mark behind. Where a mark closes an
array or an object, no item and no member starts, so the readers of items and of members refuse
it there (`readItems?_bracket`, `readMembers?_brace`).
-/

namespace Roster.Json

/-! ### Blanks -/

/-- Blanks alone. -/
def Gap (gap : List Char) : Prop :=
  skipBlanks gap = []

theorem skipBlanks_append {gap : List Char} (h : Gap gap) (cs : List Char) :
    skipBlanks (gap ++ cs) = skipBlanks cs := by
  rw [Gap, skipBlanks] at h
  rw [skipBlanks, List.dropWhile_append, h]
  rfl

theorem gap_nil : Gap [] :=
  rfl

theorem gap_space : Gap [' '] :=
  rfl

theorem gap_newLine (depth : Nat) : Gap (newLine depth) := by
  simp [Gap, newLine, skipBlanks]

/-! ### Marks -/

/-- A mark of the grammar is no blank. -/
@[simp] theorem skipBlanks_mark {c : Char} (h : c ∈ ['"', ',', ':', '[', ']', '{', '}'])
    (cs : List Char) : skipBlanks (c :: cs) = c :: cs := by
  simp only [List.mem_cons, List.not_mem_nil, or_false] at h
  rcases h with rfl | rfl | rfl | rfl | rfl | rfl | rfl <;> rfl

/-- No item starts with a closing bracket. -/
theorem readItems?_bracket {fuel : Nat} {cs ds : List Char} (h : skipBlanks cs = ']' :: ds) :
    readItems? fuel cs = none := by
  rcases fuel with _ | _ | fuel
  · rfl
  · rfl
  · rw [readItems?.eq_2, readValue?.eq_2, h]
    rfl

/-- No member starts with a closing brace. -/
theorem readMembers?_brace {fuel : Nat} {cs ds : List Char} (h : skipBlanks cs = '}' :: ds) :
    readMembers? fuel cs = none := by
  cases fuel with
  | zero => rfl
  | succ fuel =>
    rw [readMembers?.eq_2, h]
    rfl

end Roster.Json

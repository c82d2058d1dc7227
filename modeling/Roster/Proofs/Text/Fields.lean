import Mathlib.Data.List.Basic
import Roster.Text.Fields

/-!
The fields of a comma-separated text.

A field is what stands between two commas that follow each other, or between a comma and an end of
the text (`IsField`). These are the pieces that a text is split into (`mem_splitOn_iff`).
-/

namespace Roster.Text

/-- The text `field` stands in the text `cs` between commas or the ends, and has no comma in
itself. -/
structure IsField (cs field : List Char) : Prop where
  comma : ',' ∉ field
  stands : ∃ before after, cs = before ++ (field ++ after) ∧
    (before = [] ∨ ∃ earlier, before = earlier ++ [',']) ∧
    (after = [] ∨ ∃ later, after = ',' :: later)

theorem isField_of_mem_splitOn {cs field : List Char} (h : field ∈ cs.splitOn ',') :
    IsField cs field := by
  -- By induction on the length: the first comma splits off a field and leaves a shorter text.
  induction hn : cs.length using Nat.strongRecOn generalizing cs with
  | _ n ih =>
    by_cases hcomma : ',' ∈ cs
    · obtain ⟨as, bs, rfl, has⟩ := List.eq_append_cons_of_mem hcomma
      rw [List.splitOn_append_cons_self_of_not_mem has, List.mem_cons] at h
      rcases h with rfl | h
      · exact ⟨has, [], ',' :: bs, rfl, .inl rfl, .inr ⟨bs, rfl⟩⟩
      · have hshorter : bs.length < n := by
          rw [← hn, List.length_append, List.length_cons]
          omega
        obtain ⟨hfield, before, after, rfl, hbefore, hafter⟩ := ih _ hshorter h rfl
        refine ⟨hfield, as ++ ',' :: before, after, by simp, .inr ?_, hafter⟩
        rcases hbefore with rfl | ⟨earlier, rfl⟩
        · exact ⟨as, rfl⟩
        · exact ⟨as ++ ',' :: earlier, by simp⟩
    · rw [List.splitOn_eq_singleton hcomma, List.mem_singleton] at h
      subst h
      exact ⟨hcomma, [], [], by simp, .inl rfl, .inl rfl⟩

/-- A text is split into its fields. -/
theorem mem_splitOn_iff {cs field : List Char} : field ∈ cs.splitOn ',' ↔ IsField cs field := by
  refine ⟨isField_of_mem_splitOn, ?_⟩
  rintro ⟨hcomma, before, after, rfl, hbefore, hafter⟩
  have hfirst : field ∈ (field ++ after).splitOn ',' := by
    rcases hafter with rfl | ⟨later, rfl⟩
    · rw [List.append_nil, List.splitOn_eq_singleton hcomma]
      exact List.mem_singleton_self field
    · rw [List.splitOn_append_cons_self_of_not_mem hcomma]
      exact List.mem_cons_self
  rcases hbefore with rfl | ⟨earlier, rfl⟩
  · exact hfirst
  · rw [List.append_assoc, List.singleton_append, List.splitOn_append_cons_self]
    exact List.mem_append_right _ hfirst

/-- The fields that are left once they are trimmed and the empty ones are dropped. -/
theorem mem_filledFields_iff {s item : String} :
    item ∈ filledFields s ↔
      item ≠ "" ∧ ∃ field, IsField s.toList field ∧ item = trim (.ofList field) := by
  simp only [filledFields, fields, List.mem_filter, List.mem_map, mem_splitOn_iff, trim,
    String.toList_ofList, decide_eq_true_eq]
  rw [and_comm]
  simp only [eq_comm]

end Roster.Text

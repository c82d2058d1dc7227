import Roster.Configuration.Written
import Roster.Proofs.Json.RoundTrip

/-!
Lists and numbers read back.

A list is read back from what is written for it, whatever its items hold: each item without
the blanks at its ends, and the empty ones left out (`readList_writeList`). A number that
fits a word is read back as it is (`readNumber_numeral`).
-/

namespace Roster

open Roster.Text

namespace Json

theorem plain_strings (ss : List String) : (strings ss).Plain := by
  refine .arr fun v hv => ?_
  obtain ⟨s, -, rfl⟩ := List.mem_map.mp hv
  exact .str s

theorem strings?_strings (ss : List String) : (strings ss).strings? = some ss := by
  have htexts : (ss.map Json.str).mapM text? = some ss := mapM_map_eq_pure fun _ _ => rfl
  simp [strings?, strings, items?, htexts]

end Json

section Lists

variable {items : List String}

theorem toList_writeList (items : List String) :
    ∃ inner, (writeList items).toList = '[' :: inner ++ [']'] := by
  rw [writeList, Json.toCompact, String.toList_ofList, Json.strings, Json.compact]
  exact ⟨_, rfl⟩

/-- A written list stands in brackets, so there is nothing to trim. -/
theorem trim_writeList : trim (writeList items) = writeList items := by
  obtain ⟨inner, h⟩ := toList_writeList items
  have htrimmed : trimChars (writeList items).toList = (writeList items).toList := by
    rw [h]
    refine trimChars_of_ends ?_ ?_
    · simp only [List.cons_append, List.head?_cons, Option.mem_some_iff]
      rintro c rfl
      decide
    · simp only [List.getLast?_append, List.getLast?_singleton, Option.some_or,
        Option.mem_some_iff]
      rintro c rfl
      decide
  rw [trim, htrimmed, String.ofList_toList]

theorem arrayItems?_writeList : arrayItems? (writeList items) = some items := by
  obtain ⟨inner, h⟩ := toList_writeList items
  have hbracket : (writeList items).startsWith "[" := by
    rw [String.startsWith_string_iff, h]
    exact List.prefix_append ['['] _
  rw [arrayItems?, if_pos hbracket, writeList, Json.read?_toCompact (Json.plain_strings items),
    Option.bind_some, Json.strings?_strings]

/-- **A list reads back trimmed and without its blank items.** -/
theorem readList_writeList : readList (writeList items) = (items.map trim).filter (· ≠ "") := by
  rw [readList, trim_writeList, arrayItems?_writeList]

end Lists

/-- **A number that fits a word reads back.** -/
theorem readNumber_numeral {key : String} {n : Nat} (h : n < wordLimit) :
    readNumber key (numeral n) = .ok n := by
  rw [readNumber, trim_numeral]
  simp [word?_numeral h]

end Roster

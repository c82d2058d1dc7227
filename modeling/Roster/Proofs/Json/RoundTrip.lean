import Mathlib.Data.List.TakeWhile
import Roster.Proofs.Except
import Roster.Proofs.Json.Literal
import Roster.Proofs.Json.Mark
import Roster.Proofs.Text.Numeral

/-!
Written values read back.

`Reads cs v` says that the text `cs` is read as the value `v` whatever stands behind it, as
long as that does not go on with a number. It is closed under the layouts of arrays and
objects (`ReadsItems.arr`, `ReadsMembers.obj`), with blanks wherever a layout has them. A
plain value is one that spells no number its own way and holds nothing unreadable; both of
its written texts are read as the value itself (`read?_toCompact`, `read?_toPretty`).
-/

namespace Roster.Json

open Roster.Text

/-! ### Numbers -/

/-- What may stand behind a number: neither a digit nor a fraction nor an exponent. -/
def Ends (rest : List Char) : Prop :=
  ∀ c ∈ rest.head?, c.isDigit = false ∧ c ≠ '.' ∧ c ≠ 'e' ∧ c ≠ 'E'

theorem ends_nil : Ends [] := by
  simp [Ends]

theorem ends_gap {gap rest : List Char} (hgap : Gap gap) (h : Ends rest) : Ends (gap ++ rest) := by
  cases gap with
  | nil => exact h
  | cons c gap =>
    have hc := List.dropWhile_eq_nil_iff.mp hgap c List.mem_cons_self
    simp only [Bool.or_eq_true, beq_iff_eq, or_assoc] at hc
    rcases hc with rfl | rfl | rfl | rfl <;> simp [Ends]

theorem digitRun?_digits (n : Nat) {rest : List Char} (h : Ends rest) :
    digitRun? (digits n ++ rest) = some (digits n, rest) := by
  have hstop : rest.takeWhile Char.isDigit = [] ∧ rest.dropWhile Char.isDigit = rest := by
    cases rest with
    | nil => exact ⟨rfl, rfl⟩
    | cons c rest =>
      have hc : c.isDigit = false := (h c rfl).1
      simp [hc]
  have hall : ∀ c ∈ digits n, c.isDigit = true := fun c hc => isDigit_of_mem_digits hc
  rw [digitRun?, List.takeWhile_append_of_pos hall, List.dropWhile_append_of_pos hall, hstop.1,
    hstop.2, List.append_nil]
  simp [digits_ne_nil]

theorem fraction?_of_ends {rest : List Char} (h : Ends rest) : fraction? rest = some ([], rest) := by
  unfold fraction?
  split
  · exact absurd rfl (h '.' rfl).2.1
  · rfl

theorem exponent?_of_ends {rest : List Char} (h : Ends rest) : exponent? rest = some ([], rest) := by
  cases rest with
  | nil => rfl
  | cons c rest =>
    obtain ⟨-, -, he, hE⟩ := h c rfl
    simp [exponent?, he, hE]

theorem isDigit_of_digits_append {n : Nat} {c : Char} {rest cs : List Char}
    (h : digits n ++ rest = c :: cs) : c.isDigit = true := by
  cases hds : digits n with
  | nil => exact absurd hds (digits_ne_nil n)
  | cons d ds =>
    rw [hds] at h
    obtain ⟨rfl, -⟩ := List.cons.inj h
    exact isDigit_of_mem_digits (hds ▸ List.mem_cons_self)

theorem number?_digits (n : Nat) {rest : List Char} (h : Ends rest) :
    number? (digits n ++ rest) = some (.nat n, rest) := by
  have hsign : splitSign ['-'] (digits n ++ rest) = ([], digits n ++ rest) := by
    cases hcs : digits n ++ rest with
    | nil => rfl
    | cons c cs =>
      have hc : c ≠ '-' := by
        rintro rfl
        simpa using isDigit_of_digits_append hcs
      simp [splitSign, hc]
  have hzero : (digits n).head? = some '0' → (digits n).length = 1 := by
    intro hhead
    rw [eq_zero_of_head?_digits hhead, digits]
    rfl
  simpa [number?, hsign, digitRun?_digits n h, fraction?_of_ends h, exponent?_of_ends h,
    natOfDigits?_digits] using hzero

/-! ### Texts that are read as values -/

/-- `cs` is read as `v`. Every two steps of the reader use up a character. -/
def Reads (cs : List Char) (v : Json) : Prop :=
  ∀ fuel rest, 2 * cs.length < fuel → Ends rest → readValue? fuel (cs ++ rest) = some (v, rest)

/-- `cs` up to the closing bracket is read as the items `vs`. -/
def ReadsItems (cs : List Char) (vs : List Json) : Prop :=
  ∀ fuel rest, 2 * cs.length + 1 < fuel →
    readItems? fuel (cs ++ ']' :: rest) = some (vs, rest)

/-- `cs` up to the closing brace is read as the members `ms`. -/
def ReadsMembers (cs : List Char) (ms : List (String × Json)) : Prop :=
  ∀ fuel rest, 2 * cs.length + 1 < fuel →
    readMembers? fuel (cs ++ '}' :: rest) = some (ms.map fun m => (some m.1, m.2), rest)

section Layout

variable {cs ds gap : List Char} {v : Json} {vs : List Json} {ms : List (String × Json)}

/-- Only what the reader does with fuel left counts. -/
theorem Reads.intro (h : ∀ fuel rest, 2 * cs.length ≤ fuel → Ends rest →
    readValue? (fuel + 1) (cs ++ rest) = some (v, rest)) : Reads cs v := by
  rintro (_ | fuel) rest hfuel hends
  · simp at hfuel
  · exact h fuel rest (by omega) hends

theorem ReadsItems.intro (h : ∀ fuel rest, 2 * cs.length < fuel →
    readItems? (fuel + 1) (cs ++ ']' :: rest) = some (vs, rest)) : ReadsItems cs vs := by
  rintro (_ | fuel) rest hfuel
  · simp at hfuel
  · exact h fuel rest (by omega)

theorem ReadsMembers.intro (h : ∀ fuel rest, 2 * cs.length < fuel →
    readMembers? (fuel + 1) (cs ++ '}' :: rest) =
      some (ms.map fun m => (some m.1, m.2), rest)) : ReadsMembers cs ms := by
  rintro (_ | fuel) rest hfuel
  · simp at hfuel
  · exact h fuel rest (by omega)

/-! ### Single values -/

theorem Reads.null : Reads ['n', 'u', 'l', 'l'] .null :=
  .intro fun _ _ _ _ => rfl

theorem Reads.bool (b : Bool) : Reads (compact (.bool b)) (.bool b) :=
  .intro fun _ _ _ _ => by cases b <;> rfl

theorem Reads.str (s : String) : Reads (quote s.toList) (.str s) := by
  refine .intro fun fuel rest _ _ => ?_
  have hliteral := literal?_escape s.toList rest
  rw [readValue?.eq_2]
  simp [quote, hliteral]

theorem Reads.nat (n : Nat) : Reads (digits n) (.nat n) := by
  refine .intro fun fuel rest _ hends => ?_
  have hblank : skipBlanks (digits n ++ rest) = digits n ++ rest := by
    cases hcs : digits n ++ rest with
    | nil => rfl
    | cons c cs =>
      have hc := isDigit_of_digits_append hcs
      refine List.dropWhile_cons_of_neg fun hblank => ?_
      simp only [Bool.or_eq_true, beq_iff_eq, or_assoc] at hblank
      rcases hblank with rfl | rfl | rfl | rfl <;> simp at hc
  rw [readValue?.eq_2, hblank]
  -- A digit starts nothing but a number.
  split
  iterate 6
    · rename_i hcs
      simpa using isDigit_of_digits_append hcs
  · exact number?_digits n hends

/-- Blanks may stand in front of a value. -/
theorem Reads.blanks (hgap : Gap gap) (h : Reads cs v) : Reads (gap ++ cs) v := by
  refine .intro fun fuel rest hfuel hends => ?_
  have hvalue := h (fuel + 1) rest (by simp at hfuel; omega) hends
  rwa [readValue?.eq_2, List.append_assoc, skipBlanks_append hgap, ← readValue?.eq_2]

/-! ### Arrays -/

/-- The last item, with blanks in front of the bracket. -/
theorem ReadsItems.last (h : Reads cs v) (hgap : Gap gap) : ReadsItems (cs ++ gap) [v] := by
  refine .intro fun fuel rest hfuel => ?_
  have hvalue := h fuel (gap ++ ']' :: rest) (by simp at hfuel; omega)
    (ends_gap hgap (by simp [Ends]))
  rw [readItems?.eq_2, List.append_assoc, hvalue]
  simp [skipBlanks_append hgap]

/-- An item in front of others. -/
theorem ReadsItems.cons (h : Reads cs v) (hs : ReadsItems ds vs) :
    ReadsItems (cs ++ ',' :: ds) (v :: vs) := by
  refine .intro fun fuel rest hfuel => ?_
  have hvalue := h fuel (',' :: (ds ++ ']' :: rest)) (by simp at hfuel; omega) (by simp [Ends])
  have hitems := hs fuel rest (by simp at hfuel; omega)
  rw [readItems?.eq_2, List.append_assoc, List.cons_append, hvalue]
  simp [hitems]

/-- Items in brackets are an array. -/
theorem ReadsItems.arr (h : ReadsItems cs vs) : Reads ('[' :: cs ++ [']']) (.arr vs) := by
  refine .intro fun fuel rest hfuel _ => ?_
  have hitems := h fuel rest (by simp at hfuel; omega)
  -- As the bracket stays open, the reader goes on with the items.
  have hopen : ∀ ds, skipBlanks (cs ++ ']' :: rest) ≠ ']' :: ds := by
    intro ds hclosed
    simp [readItems?_bracket hclosed] at hitems
  rw [readValue?.eq_2]
  simp [hitems]

theorem Reads.emptyArr : Reads ['[', ']'] (.arr []) :=
  .intro fun _ _ _ _ => rfl

/-! ### Objects -/

/-- The last member, with blanks around it. -/
theorem ReadsMembers.last (key : String) {before : List Char} (hbefore : Gap before)
    (h : Reads cs v) (hgap : Gap gap) :
    ReadsMembers (before ++ quote key.toList ++ ':' :: cs ++ gap) [(key, v)] := by
  refine .intro fun fuel rest hfuel => ?_
  have hvalue := h fuel (gap ++ '}' :: rest) (by simp at hfuel; omega)
    (ends_gap hgap (by simp [Ends]))
  have hkey := literal?_escape key.toList (':' :: (cs ++ (gap ++ '}' :: rest)))
  rw [readMembers?.eq_2]
  simp [quote, skipBlanks_append hbefore, skipBlanks_append hgap, hkey, hvalue]

/-- A member in front of others. -/
theorem ReadsMembers.cons (key : String) (hgap : Gap gap) (h : Reads cs v)
    (hs : ReadsMembers ds ms) :
    ReadsMembers (gap ++ quote key.toList ++ ':' :: cs ++ ',' :: ds) ((key, v) :: ms) := by
  refine .intro fun fuel rest hfuel => ?_
  have hvalue := h fuel (',' :: (ds ++ '}' :: rest)) (by simp at hfuel; omega) (by simp [Ends])
  have hkey := literal?_escape key.toList (':' :: (cs ++ ',' :: (ds ++ '}' :: rest)))
  have hmembers := hs fuel rest (by simp at hfuel; omega)
  rw [readMembers?.eq_2]
  simp [quote, skipBlanks_append hgap, hkey, hvalue, hmembers]

theorem ofMembers_readable (ms : List (String × Json)) :
    ofMembers (ms.map fun m => (some m.1, m.2)) = .obj ms := by
  have hread : (ms.map fun m => (some m.1, m.2)).mapM (fun m : Option String × Json =>
      m.1.map (·, m.2)) = some ms := mapM_map_eq_pure fun _ _ => rfl
  rw [ofMembers, hread]

/-- Members in braces are an object. -/
theorem ReadsMembers.obj (h : ReadsMembers cs ms) : Reads ('{' :: cs ++ ['}']) (.obj ms) := by
  refine .intro fun fuel rest hfuel _ => ?_
  have hmembers := h fuel rest (by simp at hfuel; omega)
  -- As the brace stays open, the reader goes on with the members.
  have hopen : ∀ ds, skipBlanks (cs ++ '}' :: rest) ≠ '}' :: ds := by
    intro ds hclosed
    simp [readMembers?_brace hclosed] at hmembers
  rw [readValue?.eq_2]
  simp [hmembers, ofMembers_readable]

theorem Reads.emptyObj : Reads ['{', '}'] (.obj []) :=
  .intro fun _ _ _ _ => rfl

end Layout

/-! ### Plain values -/

/-- No number is spelled its own way, and nothing is unreadable. -/
inductive Plain : Json → Prop where
  | null : Plain .null
  | bool (b : Bool) : Plain (.bool b)
  | nat (n : Nat) : Plain (.nat n)
  | str (s : String) : Plain (.str s)
  | arr {vs : List Json} (h : ∀ v ∈ vs, Plain v) : Plain (.arr vs)
  | obj {ms : List (String × Json)} (h : ∀ m ∈ ms, Plain m.2) : Plain (.obj ms)

theorem readsItems_compactItems {v : Json} {vs : List Json}
    (h : ∀ w ∈ v :: vs, Reads (compact w) w) : ReadsItems (compactItems (v :: vs)) (v :: vs) := by
  induction vs generalizing v with
  | nil => simpa [compactItems] using ReadsItems.last (h v (by simp)) gap_nil
  | cons w vs ih =>
    obtain ⟨hv, hvs⟩ := List.forall_mem_cons.mp h
    exact .cons hv (ih hvs)

theorem readsMembers_compactMembers {m : String × Json} {ms : List (String × Json)}
    (h : ∀ n ∈ m :: ms, Reads (compact n.2) n.2) :
    ReadsMembers (compactMembers (m :: ms)) (m :: ms) := by
  induction ms generalizing m with
  | nil => simpa [compactMembers] using ReadsMembers.last m.1 gap_nil (h m (by simp)) gap_nil
  | cons n ms ih =>
    obtain ⟨hm, hms⟩ := List.forall_mem_cons.mp h
    simpa [compactMembers] using ReadsMembers.cons m.1 gap_nil hm (ih hms)

/-- The text on one line is read as the value. -/
theorem reads_compact {v : Json} (h : v.Plain) : Reads (compact v) v := by
  induction h with
  | null => exact .null
  | bool b => exact .bool b
  | nat n => exact .nat n
  | str s => exact .str s
  | @arr vs _ ih =>
    cases vs with
    | nil => exact .emptyArr
    | cons v vs => exact (readsItems_compactItems ih).arr
  | @obj ms _ ih =>
    cases ms with
    | nil => exact .emptyObj
    | cons m ms => exact (readsMembers_compactMembers ih).obj

theorem readsItems_prettyItems {depth : Nat} {v : Json} {vs : List Json}
    (h : ∀ w ∈ v :: vs, Reads (prettyAt (depth + 1) w) w) :
    ReadsItems (prettyItems depth (v :: vs) ++ newLine depth) (v :: vs) := by
  have hline := gap_newLine (depth + 1)
  induction vs generalizing v with
  | nil => exact .last (.blanks hline (h v (by simp))) (gap_newLine depth)
  | cons w vs ih =>
    obtain ⟨hv, hvs⟩ := List.forall_mem_cons.mp h
    simpa [prettyItems] using ReadsItems.cons (.blanks hline hv) (ih hvs)

theorem readsMembers_prettyMembers {depth : Nat} {m : String × Json} {ms : List (String × Json)}
    (h : ∀ n ∈ m :: ms, Reads (prettyAt (depth + 1) n.2) n.2) :
    ReadsMembers (prettyMembers depth (m :: ms) ++ newLine depth) (m :: ms) := by
  have hline := gap_newLine (depth + 1)
  induction ms generalizing m with
  | nil =>
    have hm := Reads.blanks gap_space (h m (by simp))
    simpa [prettyMembers] using ReadsMembers.last m.1 hline hm (gap_newLine depth)
  | cons n ms ih =>
    obtain ⟨hm, hms⟩ := List.forall_mem_cons.mp h
    simpa [prettyMembers] using ReadsMembers.cons m.1 hline (.blanks gap_space hm) (ih hms)

/-- The text with a line to every part is read as the value, however deep it stands. -/
theorem reads_prettyAt {v : Json} (h : v.Plain) (depth : Nat) : Reads (prettyAt depth v) v := by
  induction h generalizing depth with
  | null => exact .null
  | bool b =>
    have hsame : prettyAt depth (.bool b) = compact (.bool b) := by
      cases b <;> simp only [prettyAt, compact]
    exact hsame ▸ .bool b
  | nat n => exact .nat n
  | str s => exact .str s
  | @arr vs _ ih =>
    cases vs with
    | nil => exact .emptyArr
    | cons v vs =>
      have hitems := readsItems_prettyItems fun w hw => ih w hw (depth + 1)
      simpa [prettyAt] using hitems.arr
  | @obj ms _ ih =>
    cases ms with
    | nil => exact .emptyObj
    | cons m ms =>
      have hmembers := readsMembers_prettyMembers fun n hn => ih n hn (depth + 1)
      simpa [prettyAt] using hmembers.obj

/-- A text is read as a value with blanks behind it. -/
theorem ofChars?_append_gap {cs gap : List Char} {v : Json} (h : Reads cs v) (hgap : Gap gap) :
    ofChars? (cs ++ gap) = some v := by
  have hfuel : 2 * cs.length < 2 * (cs ++ gap).length + 2 := by
    rw [List.length_append]
    omega
  have hends : Ends gap := by simpa using ends_gap hgap ends_nil
  have hblank : skipBlanks gap = [] := hgap
  rw [ofChars?, h _ gap hfuel hends]
  simp [hblank]

/-- **A plain value is read back from its text on one line.** -/
theorem read?_toCompact {v : Json} (h : v.Plain) : read? v.toCompact = some v := by
  have hread := ofChars?_append_gap (reads_compact h) gap_nil
  rwa [read?, toCompact, String.toList_ofList, ← List.append_nil (compact v)]

/-- **A plain value is read back from its text with a line to every part**, and so it is with
blanks behind the text. -/
theorem read?_toPretty_append {v : Json} (h : v.Plain) {blanks : String}
    (hblanks : Gap blanks.toList) : read? (v.toPretty ++ blanks) = some v := by
  rw [read?, toPretty, String.toList_append, String.toList_ofList,
    ofChars?_append_gap (reads_prettyAt h 0) hblanks]

theorem read?_toPretty {v : Json} (h : v.Plain) : read? v.toPretty = some v := by
  have hread := read?_toPretty_append h (show Gap "".toList from gap_nil)
  rwa [String.append_empty] at hread

end Roster.Json

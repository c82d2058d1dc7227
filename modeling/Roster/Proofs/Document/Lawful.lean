import Roster.Document.Choice
import Roster.Document.Text
import Roster.Proofs.Json.RoundTrip

/-!
Lawful formats.

A format is lawful for the values that fit it where it reads these back from what it writes
for them, reads no others, and writes plain JSON. Lists, optional values, wrapped values,
choices and kinds are lawful where their parts are. From a lawful format it follows that a
document can be read, written and read again without a change (`Format.Lawful.roundTrips`).
-/

namespace Roster.Document

variable {α β : Type}

namespace Format

/-- The values that fit are read back from what is written for them, and no others are read. -/
structure Lawful (f : Format α) (Fits : α → Prop) : Prop where
  read_write {a : α} : Fits a → f.read (f.write a) = some a
  fits {v : Json} {a : α} : f.read v = some a → Fits a
  plain (a : α) : (f.write a).Plain

/-- Every value that fits is read back, from its JSON value and from its text, and so is every
value that was read from a document. -/
structure RoundTrips (f : Format α) (Fits : α → Prop) : Prop where
  value : ∀ a, Fits a → f.read (f.write a) = some a
  text : ∀ a, Fits a → f.readText (f.writeText a) = .ok a
  valueAgain : ∀ v a, f.read v = some a → f.read (f.write a) = some a
  textAgain : ∀ t a, f.readText t = .ok a → f.readText (f.writeText a) = .ok a

namespace Lawful

variable {f : Format α} {Fits : α → Prop}

theorem readText_writeText (h : f.Lawful Fits) {a : α} (ha : Fits a) :
    f.readText (f.writeText a) = .ok a := by
  rw [readText, writeText, Json.read?_toPretty (h.plain a), Option.bind_some, h.read_write ha]

theorem fits_of_readText (h : f.Lawful Fits) {t : String} {a : α} (ha : f.readText t = .ok a) :
    Fits a := by
  unfold readText at ha
  split at ha
  · rename_i b hread
    obtain ⟨v, -, hv⟩ := Option.bind_eq_some_iff.mp hread
    obtain rfl := Except.ok.inj ha
    exact h.fits hv
  · simp at ha

/-- **A lawful format loses nothing.** -/
theorem roundTrips (h : f.Lawful Fits) : f.RoundTrips Fits where
  value _ ha := h.read_write ha
  text _ ha := h.readText_writeText ha
  valueAgain _ _ ha := h.read_write (h.fits ha)
  textAgain _ _ ha := h.readText_writeText (h.fits_of_readText ha)

/-! ### Single values -/

theorem text : Format.text.Lawful fun _ => True where
  read_write _ := rfl
  fits _ := trivial
  plain s := .str s

theorem flag : Format.flag.Lawful fun _ => True where
  read_write _ := rfl
  fits _ := trivial
  plain b := .bool b

theorem fits_of_readWord {v : Json} {n : Nat} (h : readWord v = some n) : n < Text.wordLimit := by
  unfold readWord at h
  split at h
  · split at h
    · obtain rfl := Option.some.inj h
      assumption
    · simp at h
  · simp at h

theorem count : Format.count.Lawful (· < Text.wordLimit) where
  read_write h := if_pos h
  fits := fits_of_readWord
  plain n := .nat n

theorem duration : Format.duration.Lawful (· < Text.wordLimit) where
  read_write h := if_pos h
  fits := fits_of_readWord
  plain n := .nat n

/-! ### Values made of values -/

/-- Every result is that of an element. -/
theorem exists_of_mem_mapM {γ : Type} {read : γ → Option α} {vs : List γ} {as : List α} {a : α}
    (h : vs.mapM read = some as) (ha : a ∈ as) : ∃ v ∈ vs, read v = some a := by
  induction vs generalizing as with
  | nil =>
    obtain rfl := Option.some.inj h
    simp at ha
  | cons v vs ih =>
    simp only [List.mapM_cons, Option.bind_eq_bind, Option.bind_eq_some_iff, Option.pure_def,
      Option.some.injEq] at h
    obtain ⟨b, hb, bs, hbs, rfl⟩ := h
    rcases List.mem_cons.mp ha with rfl | ha
    · exact ⟨v, by simp, hb⟩
    · obtain ⟨w, hw, hread⟩ := ih hbs ha
      exact ⟨w, List.mem_cons_of_mem v hw, hread⟩

theorem list (h : f.Lawful Fits) : (Format.list f).Lawful fun as => ∀ a ∈ as, Fits a where
  read_write {as} has := by
    have hall : (as.map f.write).mapM f.read = some as :=
      mapM_map_eq_pure fun a ha => h.read_write (has a ha)
    simpa [Format.list, Json.items?] using hall
  fits {v as} has a ha := by
    obtain ⟨vs, -, hvs⟩ := Option.bind_eq_some_iff.mp has
    obtain ⟨w, -, hw⟩ := exists_of_mem_mapM hvs ha
    exact h.fits hw
  plain as := by
    refine .arr fun v hv => ?_
    obtain ⟨a, -, rfl⟩ := List.mem_map.mp hv
    exact h.plain a

/-- A value that is never written as `null` may be absent. -/
theorem optional (h : f.Lawful Fits) (hnull : ∀ a, f.write a ≠ .null) :
    (Format.optional f).Lawful fun a? => ∀ a ∈ a?, Fits a where
  read_write {a?} ha := by
    cases a? with
    | none => rfl
    | some a =>
      have hread := h.read_write (ha a rfl)
      change Format.read (Format.optional f) (f.write a) = _
      unfold Format.optional
      dsimp only
      split
      · exact absurd ‹_› (hnull a)
      · rw [hread]
        rfl
  fits {v a?} hread a ha := by
    unfold Format.optional at hread
    dsimp only at hread
    split at hread
    · obtain rfl := Option.some.inj hread
      simp at ha
    · obtain ⟨b, hb, rfl⟩ := Option.map_eq_some_iff.mp hread
      obtain rfl := Option.some.inj ha
      exact h.fits hb
  plain a? := by
    cases a? with
    | none => exact .null
    | some a => exact h.plain a

/-- A format of values that all fit. -/
theorem always (h : f.Lawful Fits) (hall : ∀ a, Fits a) : f.Lawful fun _ => True where
  read_write _ := h.read_write (hall _)
  fits _ := trivial
  plain := h.plain

theorem texts : (Format.list .text).Lawful fun _ => True :=
  text.list.always fun _ _ _ => trivial

theorem wrap (h : f.Lawful Fits) {unwrapped : β → α} {wrapped : α → β}
    (hwrapped : ∀ b, wrapped (unwrapped b) = b) (hunwrapped : ∀ a, unwrapped (wrapped a) = a) :
    (Format.wrap f unwrapped wrapped).Lawful fun b => Fits (unwrapped b) where
  read_write {b} hb := by
    simp [Format.wrap, h.read_write hb, hwrapped]
  fits {v b} hb := by
    obtain ⟨a, ha, rfl⟩ := Option.map_eq_some_iff.mp hb
    exact (hunwrapped a).symm ▸ h.fits ha
  plain b := h.plain (unwrapped b)

end Lawful

end Format

/-! ### Choices -/

/-- A choice is lawful where every value has a label of its own. -/
theorem Choice.lawful {c : Choice α} (hlabels : ∀ a, c.find? (c.label a) = some a) :
    c.format.Lawful fun _ => True where
  read_write {a} _ := hlabels a
  fits _ := trivial
  plain a := .str (c.label a)

/-! ### Kinds -/

/-- A kind that reads back the values that it writes, and no others. -/
structure Kind.Lawful (k : Kind α) (Fits : α → Prop) : Prop where
  read_write {a : α} {v : Json} : k.write a = some v → Fits a → k.read v = some a
  fits {v : Json} {a : α} : k.read v = some a → Fits a
  plain {a : α} {v : Json} : k.write a = some v → v.Plain

/-- Values in a lawful format make up a lawful kind. -/
theorem Kind.Lawful.of {label : String} {f : Format β} {P : β → Prop} {Fits : α → Prop}
    {wrapped : β → α} {unwrapped : α → Option β} (h : f.Lawful P)
    (hunwrapped : ∀ a b, unwrapped a = some b → a = wrapped b)
    (hfits : ∀ b, Fits (wrapped b) ↔ P b) :
    (Kind.of label f wrapped unwrapped).Lawful Fits where
  read_write {a v} hv ha := by
    obtain ⟨b, hb, rfl⟩ := Option.map_eq_some_iff.mp hv
    obtain rfl := hunwrapped a b hb
    exact Option.map_eq_some_iff.mpr ⟨b, h.read_write ((hfits b).mp ha), rfl⟩
  fits {v a} ha := by
    obtain ⟨b, hb, rfl⟩ := Option.map_eq_some_iff.mp ha
    exact (hfits b).mpr (h.fits hb)
  plain {a v} hv := by
    obtain ⟨b, -, rfl⟩ := Option.map_eq_some_iff.mp hv
    exact h.plain b

namespace Kinds

variable {ks : Kinds α} {Fits : α → Prop} {k : Kind α} {v : Json} {a : α}

theorem find?_label (hlabels : (ks.kinds.map Kind.label).Nodup) (hk : k ∈ ks.kinds) :
    (ks.kinds.find? fun other => other.label == k.label) = some k := by
  generalize ks.kinds = kinds at hlabels hk
  induction kinds with
  | nil => simp at hk
  | cons other kinds ih =>
    rw [List.map_cons, List.nodup_cons] at hlabels
    rcases List.mem_cons.mp hk with rfl | hk
    · simp
    · have hother : other.label ≠ k.label := by
        intro heq
        exact hlabels.1 (heq ▸ List.mem_map_of_mem hk)
      simpa [hother] using ih hlabels.2 hk

/-- A kind and a value of it are read as a value of that kind. -/
theorem read_kind (hlabels : (ks.kinds.map Kind.label).Nodup) (hk : k ∈ ks.kinds) :
    ks.read (.obj [("kind", .str k.label), ("value", v)]) = k.read v := by
  simp [read, membersOf?, choiceName?, find?_label hlabels hk, List.lookup_cons]

theorem exists_write (hall : ∀ a, ∃ k ∈ ks.kinds, (k.write a).isSome) (a : α) :
    ∃ k ∈ ks.kinds, ∃ v, k.write a = some v ∧
      ks.write a = .obj [("kind", .str k.label), ("value", v)] := by
  have hsome : (ks.labelled? a).isSome := by
    obtain ⟨k, hk, hwrite⟩ := hall a
    rw [labelled?, List.findSome?_isSome_iff]
    exact ⟨k, hk, by rwa [Option.isSome_map]⟩
  obtain ⟨⟨label, v⟩, hfound⟩ := Option.isSome_iff_exists.mp hsome
  obtain ⟨k, hk, hwrite⟩ := List.exists_of_findSome?_eq_some hfound
  obtain ⟨w, hw, heq⟩ := Option.map_eq_some_iff.mp hwrite
  obtain ⟨rfl, rfl⟩ := Prod.mk.inj heq
  exact ⟨k, hk, w, hw, by rw [write, hfound]⟩

/-- Kinds are lawful where each of them is, with a label of its own. -/
theorem lawful (hlabels : (ks.kinds.map Kind.label).Nodup)
    (hall : ∀ a, ∃ k ∈ ks.kinds, (k.write a).isSome) (hkinds : ∀ k ∈ ks.kinds, k.Lawful Fits) :
    ks.format.Lawful Fits where
  read_write {a} ha := by
    obtain ⟨k, hk, v, hv, hwrite⟩ := exists_write hall a
    change ks.read (ks.write a) = _
    rw [hwrite, read_kind hlabels hk]
    exact (hkinds k hk).read_write hv ha
  fits {v a} ha := by
    change ks.read v = some a at ha
    simp only [read, Option.bind_eq_bind, Option.bind_eq_some_iff] at ha
    obtain ⟨_, _, _, _, _, _, k, hk, w, _, hread⟩ := ha
    exact (hkinds k (List.mem_of_find?_eq_some hk)).fits hread
  plain a := by
    obtain ⟨k, hk, v, hv, hwrite⟩ := exists_write hall a
    change (ks.write a).Plain
    rw [hwrite]
    refine .obj fun m hm => ?_
    simp only [List.mem_cons, List.not_mem_nil, or_false] at hm
    rcases hm with rfl | rfl
    · exact .str k.label
    · exact (hkinds k hk).plain hv

end Kinds

end Roster.Document

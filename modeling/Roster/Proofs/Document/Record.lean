import Roster.Document.Record
import Roster.Proofs.Document.Lawful

/-!
Lawful records.

A member is lawful where the value that it puts into a record is the value that the written
record has, also where it is left out in writing. Members carry a record where each is lawful
and what they put into the blank one is all that the record has (`Record.Carries`). A record
type with such members is lawful (`Record.lawful`).
-/

namespace Roster.Document

variable {σ β : Type}

/-! ### Members -/

/-- A member that reads back the value which it writes, and puts only values that fit. -/
structure Member.Lawful (m : Member σ) (Fits : β → Prop) (get : σ → β) (put : β → σ → σ) :
    Prop where
  read_write {s : σ} (t : σ) : Fits (get s) → m.read (m.write s) t = some (put (get s) t)
  fits {v : Option Json} {t a : σ} : m.read v t = some a → ∃ b, Fits b ∧ put b t = a
  plain {s : σ} {v : Json} : m.write s = some v → v.Plain

namespace Member.Lawful

variable {name : String} {note : Option String} {f : Format β} {Fits : β → Prop} {standard : β}
  {get : σ → β} {put : β → σ → σ}

theorem needed (h : f.Lawful Fits) : (Member.needed name note f get put).Lawful Fits get put where
  read_write t hs := by
    simp [Member.needed, h.read_write hs]
  fits {v t a} ha := by
    simp only [Member.needed, Option.bind_eq_bind, Option.bind_eq_some_iff, Option.pure_def,
      Option.some.injEq] at ha
    obtain ⟨v, -, b, hb, rfl⟩ := ha
    exact ⟨b, h.fits hb, rfl⟩
  plain hv := by
    obtain rfl := Option.some.inj hv
    exact h.plain _

/-- A member that is left out is standard. -/
theorem exists_of_read (h : f.Lawful Fits) (hstandard : Fits standard) {v : Option Json} {t a : σ}
    (ha : (match v with
      | some v => (f.read v).map fun b => put b t
      | none => some (put standard t)) = some a) :
    ∃ b, Fits b ∧ put b t = a := by
  cases v with
  | none => exact ⟨standard, hstandard, Option.some.inj ha⟩
  | some v =>
    obtain ⟨b, hb, rfl⟩ := Option.map_eq_some_iff.mp ha
    exact ⟨b, h.fits hb, rfl⟩

theorem withDefault (h : f.Lawful Fits) (hstandard : Fits standard) :
    (Member.withDefault name note f standard get put).Lawful Fits get put where
  read_write t hs := by
    simp [Member.withDefault, h.read_write hs]
  fits := exists_of_read h hstandard
  plain hv := by
    obtain rfl := Option.some.inj hv
    exact h.plain _

/-- Nothing is lost where only the standard value is left out. -/
theorem unlessStandard {isStandard : β → Bool} (h : f.Lawful Fits) (hstandard : Fits standard)
    (honly : ∀ b, isStandard b → b = standard) :
    (Member.unlessStandard name note f standard isStandard get put).Lawful Fits get put where
  read_write {s} t hs := by
    cases hget : isStandard (get s) with
    | true =>
      have hwrite : (Member.unlessStandard name note f standard isStandard get put).write s = none :=
        if_pos hget
      rw [hwrite, honly _ hget]
      rfl
    | false => simp [Member.unlessStandard, hget, h.read_write hs]
  fits := exists_of_read h hstandard
  plain {s v} hv := by
    cases hget : isStandard (get s) with
    | true => simp [Member.unlessStandard, hget] at hv
    | false =>
      simp only [Member.unlessStandard, hget] at hv
      obtain rfl := Option.some.inj hv
      exact h.plain _

theorem optional {get : σ → Option β} {put : Option β → σ → σ} (h : f.Lawful Fits)
    (hnull : ∀ b, f.write b ≠ .null) :
    (Member.optional name note f get put).Lawful (fun b? => ∀ b ∈ b?, Fits b) get put :=
  unlessStandard (h.optional hnull) (by simp) fun _ hnone => Option.isNone_iff_eq_none.mp hnone

theorem unlessEmpty {get : σ → List β} {put : List β → σ → σ} {Fits : List β → Prop}
    (h : f.list.Lawful Fits) (hnil : Fits []) :
    (Member.unlessEmpty name note f get put).Lawful Fits get put :=
  unlessStandard h hnil fun _ hempty => List.isEmpty_iff.mp hempty

end Member.Lawful

/-! ### Records -/

namespace Record

/-- Of the record `s` with the value `b` put into it, the value is read, all that was known of
`s` is still known, and what is built is built of `s`. Where a member is a field of its own, all
three hold by computation. -/
structure PutsApart (known : σ → Prop) (build : σ → σ) (get : σ → β) (put : β → σ → σ) (b : β)
    (s : σ) : Prop where
  known_put : known s → known (put b s)
  get_put : get (put b s) = b
  build_put : build (put b s) = build s

/-- The members `ms` carry what is left of a record. Of a record `s`, the members before them
have made `build s` out of the blank record, and have ensured `known s`. Every member puts a
value where no other one does, so that the last one completes the record. -/
inductive Carries (Fits : σ → Prop) :
    List (Member σ) → (known : σ → Prop) → (build : σ → σ) → Prop where
  | done {known : σ → Prop} {build : σ → σ} (hbuild : ∀ s, build s = s)
      (hfits : ∀ s, known s → Fits s) : Carries Fits [] known build
  | next {m : Member σ} {ms : List (Member σ)} {known : σ → Prop} {build : σ → σ} {β : Type}
      {Holds : β → Prop} {get : σ → β} {put : β → σ → σ} (hm : m.Lawful Holds get put)
      (hapart : ∀ b s, PutsApart known build get put b s) (hholds : ∀ s, Fits s → Holds (get s))
      (hms : Carries Fits ms (fun s => Holds (get s) ∧ known s) fun s => put (get s) (build s)) :
      Carries Fits (m :: ms) known build

variable {Fits known : σ → Prop} {build : σ → σ} {ms : List (Member σ)} {r : Record σ}
  {found : List (String × Json)} {s a : σ}

/-- Members that find what was written for a record make up the record. -/
theorem Carries.readMembers_eq_some (h : Carries Fits ms known build) (hs : Fits s)
    (hfound : ∀ m ∈ ms, found.lookup m.shape.name = m.write s) :
    readMembers found ms (build s) = some s := by
  induction h with
  | done hbuild => exact congrArg some (hbuild s)
  | next hm _ hholds _ ih =>
    obtain ⟨hfirst, hrest⟩ := List.forall_mem_cons.mp hfound
    rw [readMembers, hfirst, hm.read_write _ (hholds s hs), Option.bind_some]
    exact ih hrest

/-- Whatever the members find, a record that they make up fits. -/
theorem Carries.fits_of_readMembers (h : Carries Fits ms known build) (hs : known s)
    (ha : readMembers found ms (build s) = some a) : Fits a := by
  induction h generalizing s with
  | done hbuild hfits =>
    obtain rfl := Option.some.inj ha
    exact hfits _ ((hbuild s).symm ▸ hs)
  | @next m ms known build β Holds get put hm hapart _ _ ih =>
    obtain ⟨t, ht, ha⟩ := Option.bind_eq_some_iff.mp ha
    obtain ⟨b, hb, rfl⟩ := hm.fits ht
    -- What was made so far is made of any record with this value, too.
    obtain ⟨hknown, hget, hbuild⟩ := hapart b s
    refine ih (s := put b s) ⟨hget.symm ▸ hb, hknown hs⟩ ?_
    simpa only [hget, hbuild] using ha

theorem Carries.plain (h : Carries Fits ms known build) :
    ∀ m ∈ ms, ∀ v, m.write s = some v → v.Plain := by
  induction h with
  | done => simp
  | next hm _ _ _ ih => exact List.forall_mem_cons.mpr ⟨fun _ => hm.plain, ih⟩

/-- What the members write for a record, by name. -/
def written (ms : List (Member σ)) (s : σ) : List (String × Json) :=
  ms.filterMap fun m => (m.write s).map fun v => (m.shape.name, v)

theorem map_fst_written_sublist (ms : List (Member σ)) (s : σ) :
    ((written ms s).map Prod.fst).Sublist (ms.map fun m => m.shape.name) := by
  induction ms with
  | nil => simp [written]
  | cons m ms ih =>
    cases hwrite : m.write s with
    | none => simpa [written, hwrite] using ih.cons m.shape.name
    | some v => simpa [written, hwrite] using ih

/-- A name is looked up as its member wrote it. -/
theorem lookup_written (hnames : (ms.map fun m => m.shape.name).Nodup) {m : Member σ}
    (hm : m ∈ ms) : (written ms s).lookup m.shape.name = m.write s := by
  induction ms with
  | nil => simp at hm
  | cons n ms ih =>
    obtain ⟨hnew, hnames⟩ := List.nodup_cons.mp hnames
    rcases List.mem_cons.mp hm with rfl | hm
    · cases hwrite : m.write s with
      | some v => simp [written, hwrite]
      | none =>
        have hmissing : (written ms s).lookup m.shape.name = none := by
          refine List.lookup_eq_none_iff.mpr fun p hp => ?_
          have hp := (map_fst_written_sublist ms s).subset (List.mem_map_of_mem hp)
          refine bne_iff_ne.mpr fun heq => hnew ?_
          rwa [← heq] at hp
        simpa [written, hwrite] using hmissing
    · have hother : (m.shape.name == n.shape.name) = false := by
        refine beq_eq_false_iff_ne.mpr fun heq => hnew ?_
        exact List.mem_map.mpr ⟨m, hm, heq⟩
      have hrest := ih hnames hm
      cases hwrite : n.write s with
      | none => simpa [written, hwrite] using hrest
      | some v => simpa [written, hwrite, List.lookup_cons, hother] using hrest

theorem membersOf?_write (hnames : r.memberNames.Nodup) :
    membersOf? r.memberNames (r.write s) = some (written r.members s) := by
  have hsublist := map_fst_written_sublist r.members s
  have hknown : (written r.members s).filter (fun m => r.memberNames.contains m.1) =
      written r.members s := by
    refine List.filter_eq_self.mpr fun m hm => ?_
    exact List.contains_iff_mem.mpr (hsublist.subset (List.mem_map_of_mem hm))
  change (let known := (written r.members s).filter fun m => r.memberNames.contains m.1
    if (known.map Prod.fst).Nodup then some known else none) = _
  rw [hknown]
  exact if_pos (hsublist.nodup hnames)

/-- **A record type is lawful where its members carry it.** -/
theorem lawful [Inhabited σ] (hnames : r.memberNames.Nodup)
    (h : Carries Fits r.members (fun _ => True) fun _ => default) : r.format.Lawful Fits where
  read_write {s} hs := by
    change r.read default (r.write s) = some s
    rw [read, membersOf?_write hnames]
    exact h.readMembers_eq_some hs fun m hm => lookup_written hnames hm
  fits {v a} ha := by
    obtain ⟨found, -, hread⟩ := Option.bind_eq_some_iff.mp ha
    exact h.fits_of_readMembers (s := a) trivial hread
  plain s := by
    refine .obj fun member hmember => ?_
    obtain ⟨m, hm, hwrite⟩ := List.mem_filterMap.mp hmember
    obtain ⟨v, hv, rfl⟩ := Option.map_eq_some_iff.mp hwrite
    exact h.plain m hm v hv

end Record

end Roster.Document

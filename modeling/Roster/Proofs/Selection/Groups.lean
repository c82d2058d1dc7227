import Roster.Proofs.Selection.Pipeline

/-!
Groups and buckets of a selection.

A group can be run alone, or the whole selection can be dealt to streams. The two ways
agree: the run of a group selects the bucket that a deal of the selection without a
group gives to its stream, row numbers included, since both take a share of the same
renumbered suite (`group_runs_are_buckets`).
-/

namespace Roster

/-- What the filters leave does not depend on the group. -/
theorem filtered_group_iff {settings : Settings} {specs : List Specification}
    {left : Logged (List Specification)} {group : Option Nat} :
    Filtered { settings with group := group } specs left ↔ Filtered settings specs left :=
  Iff.rfl

/-- A run without a group keeps the streams that it was given, at least one. -/
theorem run_streams_of_none {settings : Settings} {specs : List Specification}
    {out : Logged Selection} (hgroup : settings.group = none)
    (hrun : Selection.run settings specs = .ok out) :
    settings.streams ≠ 0 ∧ out.value.streams = settings.streams ∧ out.value.group = none := by
  obtain ⟨left, hleft, picked, hpicked, rfl⟩ := run_eq_ok_iff.mp hrun
  rw [ofSpecs_of_none hgroup] at hpicked
  obtain rfl := Except.ok.inj hpicked
  exact ⟨streams_ne_zero_of_check hleft.1, rfl, rfl⟩

/-- Where a run without a group succeeds, the run of any group does too, and selects the
share of the group. -/
theorem run_group_eq_ok {settings : Settings} {specs : List Specification}
    {out : Logged Selection} (hgroup : settings.group = none)
    (hrun : Selection.run settings specs = .ok out) (group : Nat) : ∃ single,
      Selection.run { settings with group := some group } specs = .ok single ∧
        single.value.specs = groupShare out.value.specs settings.streams group ∧
        single.value.group = some group := by
  obtain ⟨left, hleft, picked, hpicked, rfl⟩ := run_eq_ok_iff.mp hrun
  rw [ofSpecs_of_none hgroup] at hpicked
  obtain rfl := Except.ok.inj hpicked
  have hsome : ({ settings with group := some group } : Settings).group = some group := rfl
  obtain ⟨notice, events, hpick⟩ :=
    ofSpecs_of_some hsome (streams_ne_zero_of_check hleft.1) left.value
  exact ⟨_, run_eq_ok_iff.mpr ⟨left, filtered_group_iff.mpr hleft, _, hpick, rfl⟩, rfl, rfl⟩

theorem buckets_of_none {selection : Selection} (h : selection.group = none)
    (hstreams : selection.streams ≠ 0) :
    selection.buckets = .ok ((List.range selection.streams).map fun j =>
      ⟨share selection.specs selection.streams j⟩) := by
  rw [Selection.buckets, h]
  exact deal_eq_ok hstreams

theorem buckets_of_some {selection : Selection} {group : Nat}
    (h : selection.group = some group) : selection.buckets = .ok [⟨selection.specs⟩] := by
  rw [Selection.buckets, h]

/-- **Groups are buckets.** A selection without a group is dealt to as many buckets as
there are streams, which have its scenarios between them. The run of a group selects the
bucket of its stream, or nothing if there is no such stream, and stays in one bucket. The
runs of all groups together select what the run without a group selects, each
specification as often. -/
theorem group_runs_are_buckets {settings : Settings} {specs : List Specification}
    {out : Logged Selection} (hgroup : settings.group = none)
    (hrun : Selection.run settings specs = .ok out) :
    ∃ buckets, out.value.buckets = .ok buckets ∧ buckets.length = settings.streams ∧
      (buckets.map fun bucket => scenarioTotal bucket.specs).sum = out.value.scenarioCount ∧
      ∃ single : Nat → Logged Selection,
        (∀ group,
          Selection.run { settings with group := some group } specs = .ok (single group) ∧
          (1 ≤ group ∧ group ≤ settings.streams →
            buckets[group - 1]? = some ⟨(single group).value.specs⟩) ∧
          (¬ (1 ≤ group ∧ group ≤ settings.streams) → (single group).value.specs = []) ∧
          (single group).value.buckets = .ok [⟨(single group).value.specs⟩]) ∧
        ((List.range settings.streams).flatMap fun j => (single (j + 1)).value.specs).Perm
          out.value.specs := by
  obtain ⟨hne, hstreams, hnone⟩ := run_streams_of_none hgroup hrun
  choose single hsingle hshare hsome using run_group_eq_ok hgroup hrun
  have hdealt := buckets_of_none hnone (hstreams ▸ hne)
  rw [hstreams] at hdealt
  refine ⟨_, hdealt, by simp, ?_, single, fun group => ⟨hsingle group, ?_, ?_, ?_⟩, ?_⟩
  · rw [List.map_map, Selection.scenarioCount,
      ← scenarioTotal_perm (flatMap_share_perm out.value.specs hne), scenarioTotal_flatMap]
    rfl
  · rintro ⟨hlow, hhigh⟩
    rw [hshare group, groupShare, if_pos ⟨hlow, hhigh⟩, List.getElem?_map,
      List.getElem?_range (by omega)]
    rfl
  · intro hout
    rw [hshare group, groupShare, if_neg hout]
  · exact buckets_of_some (hsome group)
  · have hall : (List.range settings.streams).flatMap
        (fun j => (single (j + 1)).value.specs) =
        (List.range settings.streams).flatMap (share out.value.specs settings.streams) := by
      refine List.flatMap_congr fun j hj => ?_
      rw [hshare, groupShare, if_pos ⟨by omega, List.mem_range.mp hj⟩, Nat.add_sub_cancel]
    rw [hall]
    exact flatMap_share_perm out.value.specs hne

theorem group_runs_are_buckets_sample :
    ∃ out single buckets, Selection.run Sample.settings Sample.suite = .ok out ∧
      Selection.run { Sample.settings with group := some 2 } Sample.suite = .ok single ∧
      out.value.buckets = .ok buckets ∧ buckets.length = 2 ∧
      (buckets.map fun bucket => scenarioTotal bucket.specs).sum = 4 ∧
      buckets[1]? = some ⟨single.value.specs⟩ := by
  have hran : (Selection.run Sample.settings Sample.suite).map
      (fun out => out.value.scenarioCount) = .ok 4 := by
    decide +kernel
  obtain ⟨out, hrun, hcount⟩ := map_eq_ok_iff.mp hran
  obtain ⟨buckets, hdealt, hlength, hsum, single, hsingle, -⟩ :=
    group_runs_are_buckets rfl hrun
  obtain ⟨hgroup, hbucket, -⟩ := hsingle 2
  exact ⟨out, single 2, buckets, hrun, hgroup, hdealt, hlength, hsum.trans hcount,
    hbucket (by decide)⟩

end Roster

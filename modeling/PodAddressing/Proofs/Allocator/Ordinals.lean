import PodAddressing.Proofs.Allocator.Indexes
import PodAddressing.Proofs.Allocator.Run
/-!
Who has an ordinal. An ordinal is with one pod, or it is retained, or nobody has it; every operation keeps this,
and the indexes that say it in agreement.
-/

namespace PodAddressing

namespace Allocator
variable {a a' : Allocator} {w : Identity}

structure Consistent (a : Allocator) : Prop
    extends Indexed a.active a.holders a.retention.groups where
  vacant : ∀ key uid, a.holders.get? key = some uid → a.retention.groups.get? key = none

namespace Consistent

theorem poolsOnly (valid : Consistent a) (same : PoolsOnly a a') : Consistent a' := by
  rw [same]
  exact ⟨valid.toIndexed, valid.vacant⟩

theorem recordsFor_eq_nil (valid : Consistent a) (none_had : a.recordsFor w = []) :
    a.active.get? w.podUID = none := by
  cases found : a.active.get? w.podUID with
  | none => rfl
  | some group =>
      have nonempty := (valid.bound _ _ found).2.1
      simp only [recordsFor, found, Option.getD_some] at none_had
      exact absurd none_had nonempty

theorem recordsFor_eq_some (valid : Consistent a) (some_record : a.recordsFor w ≠ []) :
    a.active.get? w.podUID = some (a.recordsFor w) ∧ w.podUID ≠ "" := by
  unfold recordsFor at *
  cases found : a.active.get? w.podUID with
  | none => simp [found] at some_record
  | some group => exact ⟨rfl, (valid.bound _ _ found).1⟩

theorem filter_groups (valid : Consistent a) (p : OrdinalKey × List Record → Bool) :
    Consistent { a with retention := ⟨a.retention.groups.filter p⟩ } where
  toIndexed := valid.toIndexed.filter_groups p
  vacant := by
    intro key uid held
    rw [Table.get?_filter valid.groups_unique, valid.vacant key uid held]
    rfl

theorem erase_group (valid : Consistent a) (key : OrdinalKey) :
    Consistent { a with retention := ⟨a.retention.groups.erase key⟩ } :=
  valid.filter_groups _

theorem bind (valid : Consistent a) {key : Option OrdinalKey} {records : List Record}
    (named : w.podUID ≠ "") (had : a.recordsFor w = []) (some_record : records ≠ [])
    (own : ∀ r ∈ records, r.binding.podUID = w.podUID ∧ r.key? = key)
    (vacant : ∀ k, key = some k →
      a.holders.get? k = none ∧ a.retention.groups.get? k = none) :
    Consistent (a.bind w key records) := by
  have absent := valid.recordsFor_eq_nil had
  have keys : ∀ k, (∃ r ∈ records, r.key? = some k) ↔ key = some k := by
    intro k
    constructor
    · rintro ⟨r, member, known⟩
      rw [← known, (own r member).2]
    · intro same
      obtain ⟨r, rest, rfl⟩ := List.exists_cons_of_ne_nil some_record
      exact ⟨r, List.mem_cons_self, by rw [(own r List.mem_cons_self).2, same]⟩
  -- Whoever holds an ordinal afterwards held it before, or it is the new pod's own.
  have now : ∀ k uid, (key.elim a.holders fun k => a.holders.put k w.podUID).get? k = some uid ↔
      a.holders.get? k = some uid ∨ (uid = w.podUID ∧ ∃ r ∈ records, r.key? = some k) := by
    intro k uid
    rw [keys]
    cases key with
    | none => simp
    | some mine =>
        simp only [Option.elim_some, Table.get?_put, Option.some.injEq]
        by_cases same : mine = k
        · subst same
          simp [(vacant mine rfl).1, eq_comm]
        · simp [same]
  have unique : Table.Unique (key.elim a.holders fun k => a.holders.put k w.podUID) := by
    cases key with
    | none => exact valid.holders_unique
    | some mine => exact Table.unique_put valid.holders_unique mine _
  refine ⟨valid.toIndexed.put_active named some_record (fun r member => (own r member).1) unique
    (by simp [absent]) now, ?_⟩
  intro k uid held
  rcases (now k uid).mp held with before | ⟨_, mine⟩
  · exact valid.vacant k uid before
  · exact (vacant k ((keys k).mp mine)).2

theorem without (valid : Consistent a) (w : Identity) : Consistent (a.without w) where
  toIndexed := valid.toIndexed.erase_active rfl
  vacant := by
    intro key uid held
    change Table.get? (a.holders.filter _) key = some uid at held
    rw [Table.get?_filter valid.holders_unique, Option.filter_eq_some_iff] at held
    exact valid.vacant key uid held.1

theorem without_vacant (valid : Consistent a) {key : OrdinalKey} {r : Record}
    (member : r ∈ a.recordsFor w) (known : r.key? = some key) :
    (a.without w).holders.get? key = none := by
  have some_record : a.recordsFor w ≠ [] := List.ne_nil_of_mem member
  obtain ⟨found, _⟩ := valid.recordsFor_eq_some some_record
  have held := (valid.holds key w.podUID).mpr ⟨_, found, r, member, known⟩
  have listed : key ∈ (a.recordsFor w).filterMap Record.key? :=
    List.mem_filterMap.mpr ⟨r, member, known⟩
  change Table.get? (a.holders.filter _) key = none
  rw [Table.get?_filter valid.holders_unique, held]
  simp [listed]

theorem retain_group (valid : Consistent a) {key : OrdinalKey} {group : List Record}
    (some_record : group ≠ []) (known : ∀ r ∈ group, r.key? = some key)
    (vacant : a.holders.get? key = none) :
    Consistent { a with
      retention := ⟨a.retention.groups.put key (group.map Record.unbound)⟩ } where
  toIndexed := valid.toIndexed.put_group (by simpa using some_record)
    (List.forall_mem_map.mpr fun r member => ⟨known r member, rfl, rfl⟩)
  vacant := by
    intro key' uid held
    have other : key ≠ key' := by
      rintro rfl
      rw [vacant] at held
      cases held
    change Table.get? (a.retention.groups.put key _) key' = none
    rw [Table.get?_put_ne other]
    exact valid.vacant key' uid held

end Consistent

theorem vacant_of_known (valid : Consistent a) {key : OrdinalKey} (some_record : a.recordsFor w ≠ [])
    (known : ∀ r ∈ a.recordsFor w, r.key? = some key) : a.retention.groups.get? key = none := by
  obtain ⟨found, _⟩ := valid.recordsFor_eq_some some_record
  obtain ⟨r, member⟩ := List.exists_mem_of_ne_nil _ some_record
  exact valid.vacant key _ ((valid.holds key w.podUID).mpr ⟨_, found, r, member, known r member⟩)

theorem key_of_statefulKey {key : OrdinalKey} (stateful : w.statefulKey? = .ok (some key)) :
    w.keyAt key.index = key := by
  obtain ⟨index, _, named⟩ := ok_of_map stateful
  obtain ⟨ordinal, _, rfl⟩ := Option.map_eq_some_iff.mp named
  rfl

theorem fresh_key? {key : Option OrdinalKey} {mac : String} {r : Record}
    (stateful : w.statefulKey? = .ok key) (fresh : IsFreshFor w (key.map (·.index)) mac r) :
    r.key? = key := by
  obtain ⟨ns, _, binding⟩ := fresh
  cases key with
  | none => simp [Record.key?, binding]
  | some key =>
      simp only [Record.key?, binding, Option.map_some, Record.keyAt, ns, Option.some.injEq]
      exact key_of_statefulKey stateful

section Steps

theorem consistent_allocate (valid : Consistent a) (w : Identity) (c : Criteria)
    (eligible : Option (List String)) : Consistent (a.allocate w c eligible).2 := by
  have outcome := allocate_cases a w c eligible
  generalize a.allocate w c eligible = result at outcome
  cases outcome with
  | kept had some_record => exact valid
  | refused fault => exact valid
  | failed index fresh frame =>
      have drawn : Consistent { a with macs := a.macs.draw.2 } := ⟨valid.toIndexed, valid.vacant⟩
      exact drawn.poolsOnly frame
  | rebound named had stateful vacant retained fits =>
      obtain ⟨some_record, kept⟩ := valid.kept _ _ retained
      -- The group leaves the retained ones before the pod gets it, so its ordinal is vacant.
      apply (valid.erase_group _).bind named had (by simpa using some_record)
      · exact List.forall_mem_map.mpr fun r member => ⟨rfl, (kept r member).1⟩
      · rintro k ⟨⟩
        exact ⟨vacant, by simp [Table.get?_erase]⟩
  | @fresh key records a' named had stateful vacant unretained some_family given frame =>
      obtain ⟨kinds, new⟩ := allocateFresh_records given
      have drawn : Consistent { a with macs := a.macs.draw.2 } := ⟨valid.toIndexed, valid.vacant⟩
      apply (drawn.poolsOnly frame).bind named
      · rw [recordsFor, frame.active]
        exact had
      · rintro rfl
        exact some_family kinds.symm
      · intro r member
        obtain fresh := new r member
        exact ⟨by rw [fresh.2.2], fresh_key? stateful fresh⟩
      · intro k mine
        rw [frame.holders, frame.retention]
        exact ⟨vacant k mine, unretained k mine⟩

theorem consistent_release (valid : Consistent a) (w : Identity) :
    Consistent (a.release w).2 := by
  have outcome := release_cases a w
  generalize a.release w = result at outcome
  cases outcome with
  | refused fault => exact valid
  | idle none_had =>
      rw [Table.erase_of_absent (valid.recordsFor_eq_nil none_had)]
      exact valid
  | freed some_record ends =>
      rw [freed_snd]
      exact (valid.without w).poolsOnly (freeAll_frame _ _)
  | retained some_record stays known vacant =>
      obtain ⟨r, member⟩ := List.exists_mem_of_ne_nil _ some_record
      exact (valid.without w).retain_group some_record known
        (valid.without_vacant member (known r member))
  | clashed answer some_record known occupied =>
      exact (valid.without w).poolsOnly (freeAll_frame _ _)
  | lost fault some_record stateful mixed => exact valid.without w

theorem consistent_purge (valid : Consistent a) (w : Identity) : Consistent (a.purge w).2 := by
  rcases purge_cases a w with ⟨fault, refused⟩ | ⟨key, _, purged⟩
  · rw [refused]
    exact valid
  · rw [purged]
    exact (valid.erase_group key).poolsOnly (freed_frame _ _)

theorem consistent_purgeOwner (valid : Consistent a) (ns : String) (owner : Owner)
    (keep : Option Int) : Consistent (a.purgeOwner ns owner keep).2 := by
  have limited : Consistent { a with limits := a.limits.put (ownerName ns owner) ⟨owner.uid, keep.getD 0⟩ } :=
    ⟨valid.toIndexed, valid.vacant⟩
  exact (limited.filter_groups _).poolsOnly (freed_frame _ _)

theorem consistent_rebuild (a : Allocator) (records : List Record) :
    Consistent (a.rebuild records).2 := by
  have agreed := Rebuilding.agrees_settle
    (Rebuilding.agrees_adopts (s := .ofPools a.pools) Indexed.nothing records)
  exact ⟨agreed.1, agreed.2⟩

theorem consistent_apply (valid : Consistent a) (op : Op) : Consistent (a.apply op).2 := by
  cases op with
  | addNetwork network => exact ⟨valid.toIndexed, valid.vacant⟩
  | addSubnet subnet => exact valid.poolsOnly (registered_frame fun _ => addSubnet_frame)
  | removeSubnet name => exact valid.poolsOnly (registered_frame fun _ => removeSubnet_frame)
  | allocate w c eligible => exact consistent_allocate valid w c eligible
  | release w => exact consistent_release valid w
  | purge w => exact consistent_purge valid w
  | purgeOwner ns owner keep => exact consistent_purgeOwner valid ns owner keep
  | rebuild records => exact consistent_rebuild a records

theorem Consistent.run (valid : Consistent a) (ops : List Op) : Consistent (a.run ops) :=
  run_keeps (P := fun _ _ => True) (fun _ op _ valid => consistent_apply valid op)
    (along_of_all fun _ _ => trivial) valid

theorem consistent_bare (macs : MacSource) : Consistent { macs := macs } :=
  ⟨Indexed.nothing, by simp⟩

/-- Rebuilding is the only operation whose outcome does not depend on what was consistent before. -/
theorem consistent_of_run (start : Started a) (ops : List Op) : Consistent (a.run ops) :=
  run_always consistent_bare (fun _ op valid => consistent_apply valid op) start ops

end Steps

section Claimants

/-- Every ordinal has one claimant at most, and the three indexes agree on who that is. -/
structure SoleClaimant (a : Allocator) : Prop where
  one_pod : ∀ r ∈ a.active.values.flatten, ∀ s ∈ a.active.values.flatten, ∀ key,
    r.key? = some key → s.key? = some key → r.binding.podUID = s.binding.podUID
  one_side : ∀ r ∈ a.active.values.flatten, ∀ key, r.key? = some key →
    ∀ group, (key, group) ∉ a.retention.groups
  holder : ∀ key uid, (key, uid) ∈ a.holders ↔
    ∃ r ∈ a.active.values.flatten, r.key? = some key ∧ r.binding.podUID = uid
  own : ∀ uid group, (uid, group) ∈ a.active → uid ≠ "" ∧ ∀ r ∈ group, r.binding.podUID = uid
  retained : ∀ key group, (key, group) ∈ a.retention.groups → group ≠ [] ∧
    ∀ r ∈ group, r.key? = some key ∧ r.binding.podUID = "" ∧ r.binding.nodeName = ""
  tables : a.active.Unique ∧ a.holders.Unique ∧ a.retention.groups.Unique

theorem Consistent.mem_active (valid : Consistent a) {r : Record} :
    r ∈ a.active.values.flatten ↔ ∃ group, a.active.get? r.binding.podUID = some group ∧ r ∈ group := by
  rw [Table.mem_members valid.active_unique]
  constructor
  · rintro ⟨uid, group, found, member⟩
    obtain ⟨_, _, own⟩ := valid.bound uid group found
    rw [own r member]
    exact ⟨group, found, member⟩
  · rintro ⟨group, found, member⟩
    exact ⟨_, group, found, member⟩

theorem Consistent.named (valid : Consistent a) {r : Record} (member : r ∈ a.active.values.flatten) :
    r.binding.podUID ≠ "" := by
  obtain ⟨group, found, _⟩ := valid.mem_active.mp member
  exact (valid.bound _ group found).1

theorem Consistent.retained (valid : Consistent a) {r : Record} (member : r ∈ a.retention.records) :
    ∃ key group, a.retention.groups.get? key = some group ∧ r.key? = some key ∧
      r.binding.podUID = "" ∧ r.binding.nodeName = "" := by
  obtain ⟨key, group, found, inside⟩ := (Table.mem_members valid.groups_unique).mp member
  exact ⟨key, group, found, (valid.kept key group found).2 r inside⟩

theorem Consistent.mem_active_iff (valid : Consistent a) {r : Record} :
    r ∈ a.active.values.flatten ↔ r ∈ a.records ∧ r.binding.podUID ≠ "" := by
  constructor
  · intro member
    exact ⟨List.mem_append_left _ member, valid.named member⟩
  · rintro ⟨member, named⟩
    rcases List.mem_append.mp member with active | retained
    · exact active
    · obtain ⟨key, group, _, _, free, _⟩ := valid.retained retained
      exact absurd free named

/-- The holder of an ordinal is the pod of whichever active record has it. -/
theorem Consistent.holder_iff (valid : Consistent a) {key : OrdinalKey} {uid : String} :
    a.holders.get? key = some uid ↔
      ∃ r ∈ a.active.values.flatten, r.key? = some key ∧ r.binding.podUID = uid := by
  rw [valid.holds]
  constructor
  · rintro ⟨group, found, r, member, known⟩
    obtain ⟨_, _, own⟩ := valid.bound uid group found
    exact ⟨r, (Table.mem_members valid.active_unique).mpr ⟨uid, group, found, member⟩, known,
      own r member⟩
  · rintro ⟨r, member, known, rfl⟩
    obtain ⟨group, found, inside⟩ := valid.mem_active.mp member
    exact ⟨group, found, r, inside, known⟩

theorem sole_claimant_of_run (start : Started a) (ops : List Op) : SoleClaimant (a.run ops) := by
  have valid := consistent_of_run start ops
  have held {r : Record} {key : OrdinalKey} (member : r ∈ (a.run ops).active.values.flatten)
      (known : r.key? = some key) : (a.run ops).holders.get? key = some r.binding.podUID :=
    valid.holder_iff.mpr ⟨r, member, known, rfl⟩
  exact {
    one_pod := by
      intro r left s right key known known'
      have same := (held left known).symm.trans (held right known')
      exact Option.some.inj same
    one_side := by
      intro r member key known group listed
      have vacant := valid.vacant key _ (held member known)
      rw [Table.get?_of_mem valid.groups_unique listed] at vacant
      cases vacant
    holder := by
      intro key uid
      rw [Table.mem_iff_get? valid.holders_unique, valid.holder_iff]
    own := by
      intro uid group listed
      obtain ⟨named, _, own⟩ := valid.bound uid group (Table.get?_of_mem valid.active_unique listed)
      exact ⟨named, own⟩
    retained := by
      intro key group listed
      exact valid.kept key group (Table.get?_of_mem valid.groups_unique listed)
    tables := ⟨valid.active_unique, valid.holders_unique, valid.groups_unique⟩ }

/-- Three records dispute one ordinal when the allocator is rebuilt; then the pod that got it is replaced. -/
def disputed : List Op := [
  .rebuild [webRecord "10.0.0.1" "", webRecord "10.0.0.2" "u1", webRecord "10.0.0.3" "u2"],
  .release (webPod "web-0" "u1"),
  .allocate (webPod "web-0" "u2") ⟨.underlay, [.v4]⟩ none]

theorem disputed_sole_claimant :
    (sample.run disputed).active.map (fun (uid, group) => (uid, group.map (·.address))) =
      [("u2", ["10.0.0.2"])] ∧ SoleClaimant (sample.run disputed) :=
  ⟨by decide +kernel, sole_claimant_of_run sample_started disputed⟩

end Claimants

end Allocator
end PodAddressing
